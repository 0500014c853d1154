import Mathlib.Data.List.Forall2
import SourceCheck.Proofs.Scan.Lines
import SourceCheck.Proofs.Text.Written
import SourceCheck.Token.Row

/-!
The text table of rows, read back. Its lines end with newlines, since no field holds one, and in
each line the first three fields are words set apart by spaces; so the rows can be told from the
text. The kinds are padded to the widest of them, the numbers to the width of their headings only:
the columns are aligned as long as the numbers are no wider.
-/

namespace SourceCheck

namespace Text

theorem linePieces_ended {lines : List (List Char)} (h : ∀ line ∈ lines, '\n' ∉ line) :
    linePieces (lines.flatMap (· ++ ['\n'])) = lines := by
  have hsplit : (lines.flatMap (· ++ ['\n'])).splitOn '\n' = lines ++ [[]] := by
    induction lines with
    | nil => rfl
    | cons line lines ih =>
      obtain ⟨hline, hlines⟩ := List.forall_mem_cons.mp h
      rw [List.flatMap_cons, List.append_assoc, List.singleton_append,
        List.splitOn_append_cons_self, List.splitOn_eq_singleton hline, ih hlines]
      rfl
  rw [linePieces, hsplit, List.getLast?_concat, if_pos rfl, List.dropLast_concat]

def firstWord (text : List Char) : List Char := (text.dropWhile (· = ' ')).takeWhile (· ≠ ' ')

def behindWord (text : List Char) : List Char := (text.dropWhile (· = ' ')).dropWhile (· ≠ ' ')

def gap (n : Nat) : List Char := List.replicate n ' '

@[simp] theorem length_gap (n : Nat) : (gap n).length = n := List.length_replicate

theorem gap_append_gap (m n : Nat) : gap m ++ gap n = gap (m + n) :=
  List.replicate_append_replicate

variable {word : List Char} {n : Nat}

theorem dropWhile_gap (n : Nat) (h : IsWord word) (rest : List Char) :
    (gap n ++ (word ++ rest)).dropWhile (· = ' ') = word ++ rest := by
  obtain ⟨c, later, rfl⟩ := List.exists_cons_of_ne_nil h.ne_nil
  have hspaces : ∀ d ∈ gap n, decide (d = ' ') := fun d hd =>
    decide_eq_true (List.eq_of_mem_replicate hd)
  have hc : c ≠ ' ' := fun hc => h.space_not_mem (hc ▸ List.mem_cons_self)
  rw [List.dropWhile_append_of_pos hspaces, List.cons_append,
    List.dropWhile_cons_of_neg (by simpa using hc)]

theorem firstWord_between (m : Nat) (h : IsWord word) (hn : 0 < n) (rest : List Char) :
    firstWord (gap m ++ (word ++ (gap n ++ rest))) = word := by
  obtain ⟨n, rfl⟩ := Nat.exists_eq_add_one.mpr hn
  rw [firstWord, dropWhile_gap m h]
  exact takeWhile_run h.space_not_mem _

theorem behindWord_between (m : Nat) (h : IsWord word) (hn : 0 < n) (rest : List Char) :
    behindWord (gap m ++ (word ++ (gap n ++ rest))) = gap n ++ rest := by
  obtain ⟨n, rfl⟩ := Nat.exists_eq_add_one.mpr hn
  rw [behindWord, dropWhile_gap m h]
  exact dropWhile_run h.space_not_mem _

end Text

namespace TokenCategory

theorem isWord_name (category : TokenCategory) : Text.IsWord category.name.toList := by
  cases category <;> exact ⟨by decide, by decide, by decide⟩

theorem name_injective : Function.Injective name := by
  intro category other h
  revert h
  cases category <;> cases other <;> decide

end TokenCategory

namespace Row

structure Fields where
  kind : List Char
  line : List Char
  column : List Char
  lexeme : List Char

namespace Fields

def headings : Fields := ⟨"KIND".toList, "LINE".toList, "COLUMN".toList, "LEXEME".toList⟩

def text (width : Nat) (f : Fields) : List Char :=
  (tableLine width f.kind f.line f.column f.lexeme).dropLast

/-- The fields told from a line: three words, and all that stands behind the two spaces after
them. -/
def read (text : List Char) : Fields where
  kind := Text.firstWord text
  line := Text.firstWord (Text.behindWord text)
  column := Text.firstWord (Text.behindWord (Text.behindWord text))
  lexeme := (Text.behindWord (Text.behindWord (Text.behindWord text))).drop 2

structure Legible (f : Fields) : Prop where
  kind : Text.IsWord f.kind
  line : Text.IsWord f.line
  column : Text.IsWord f.column
  lexeme : '\n' ∉ f.lexeme

end Fields

/-- How far from the beginning of a line the numbers end and the lexeme begins. -/
structure Edges where
  line : Nat
  column : Nat
  lexeme : Nat
  deriving DecidableEq

namespace Edges

def read (text : List Char) : Edges where
  line := text.length - (Text.behindWord (Text.behindWord text)).length
  column := text.length - (Text.behindWord (Text.behindWord (Text.behindWord text))).length
  lexeme := text.length - (Fields.read text).lexeme.length

def ofWidths (kind line column : Nat) : Edges where
  line := kind + 2 + line
  column := kind + 2 + line + 2 + column
  lexeme := kind + 2 + line + 2 + column + 2

theorem ofWidths_inj {kind line column line' column' : Nat} :
    ofWidths kind line column = ofWidths kind line' column' ↔ line = line' ∧ column = column' := by
  rw [ofWidths, ofWidths, Edges.mk.injEq]
  omega

end Edges

/-- In the text of a line the numbers end at their edges, and the lexeme begins at its own. -/
structure Fields.StandsAt (f : Fields) (text : List Char) (edges : Edges) : Prop where
  line : f.line <:+ text.take edges.line
  column : f.column <:+ text.take edges.column
  lexeme : text.drop edges.lexeme = f.lexeme

def Aligned (text : String) : Prop :=
  ∀ line ∈ Text.linePieces text.toList, ∀ other ∈ Text.linePieces text.toList,
    Edges.read line = Edges.read other

instance (text : String) : Decidable (Aligned text) :=
  inferInstanceAs (Decidable (∀ line ∈ _, ∀ other ∈ _, _))

namespace Fields

variable {f : Fields}

def lineGap (width : Nat) (f : Fields) : Nat :=
  (width - f.kind.length) + 2 + (4 - f.line.length)

def columnGap (f : Fields) : Nat := 2 + (6 - f.column.length)

theorem tableLine_eq (width : Nat) (f : Fields) :
    tableLine width f.kind f.line f.column f.lexeme = f.text width ++ ['\n'] := by
  rw [text, tableLine, List.dropLast_concat]

theorem text_eq (width : Nat) (f : Fields) :
    f.text width = Text.gap 0 ++ (f.kind ++ (Text.gap (f.lineGap width) ++
      (f.line ++ (Text.gap f.columnGap ++ (f.column ++ (Text.gap 2 ++ f.lexeme)))))) := by
  have htwo : [' ', ' '] = Text.gap 2 := rfl
  rw [text, tableLine, List.dropLast_concat, lineGap, columnGap, ← Text.gap_append_gap,
    ← Text.gap_append_gap, ← Text.gap_append_gap]
  simp only [List.rightpad, List.leftpad, htwo, List.append_assoc]
  rfl

theorem behind_kind (width : Nat) (hf : f.Legible) :
    Text.behindWord (f.text width) = Text.gap (f.lineGap width) ++
      (f.line ++ (Text.gap f.columnGap ++ (f.column ++ (Text.gap 2 ++ f.lexeme)))) := by
  rw [text_eq, Text.behindWord_between 0 hf.kind (by rw [lineGap]; omega)]

theorem behind_line (width : Nat) (hf : f.Legible) :
    Text.behindWord (Text.behindWord (f.text width)) =
      Text.gap f.columnGap ++ (f.column ++ (Text.gap 2 ++ f.lexeme)) := by
  rw [behind_kind width hf, Text.behindWord_between _ hf.line (by rw [columnGap]; omega)]

theorem behind_column (width : Nat) (hf : f.Legible) :
    Text.behindWord (Text.behindWord (Text.behindWord (f.text width))) =
      Text.gap 2 ++ f.lexeme := by
  rw [behind_line width hf, Text.behindWord_between _ hf.column (by decide)]

theorem read_text (width : Nat) (hf : f.Legible) : read (f.text width) = f := by
  rw [read, behind_column width hf, behind_line width hf, behind_kind width hf,
    Text.firstWord_between _ hf.line (by rw [columnGap]; omega),
    Text.firstWord_between _ hf.column (by decide), text_eq,
    Text.firstWord_between 0 hf.kind (by rw [lineGap]; omega)]
  rfl

/-- A kind or a number that is wider than its column moves the edges behind it. -/
theorem edges_text (width : Nat) (hf : f.Legible) : Edges.read (f.text width) =
    .ofWidths (max width f.kind.length) (max 4 f.line.length) (max 6 f.column.length) := by
  have hlength := congrArg List.length (text_eq width f)
  have hline : f.kind.length + f.lineGap width + f.line.length =
      max width f.kind.length + 2 + max 4 f.line.length := by
    rw [lineGap]
    omega
  have hcolumn : f.columnGap + f.column.length = 2 + max 6 f.column.length := by
    rw [columnGap]
    omega
  rw [Edges.read, read_text width hf, behind_column width hf, behind_line width hf, Edges.ofWidths,
    ← hline]
  simp only [List.length_append, Text.length_gap, Edges.mk.injEq] at hlength ⊢
  omega

theorem suffix_take {text word rest : List Char} (front : List Char)
    (h : text = front ++ (word ++ rest)) : word <:+ text.take (text.length - rest.length) := by
  rw [← List.append_assoc] at h
  have hlength : text.length - rest.length = (front ++ word).length := by
    rw [h, List.length_append, Nat.add_sub_cancel]
  rw [hlength, h, List.take_left]
  exact List.suffix_append front word

theorem standsAt_edges (width : Nat) (hf : f.Legible) :
    f.StandsAt (f.text width) (Edges.read (f.text width)) := by
  rw [Edges.read, read_text width hf, behind_column width hf, behind_line width hf]
  constructor
  · apply suffix_take (Text.gap 0 ++ f.kind ++ Text.gap (f.lineGap width))
    simp only [text_eq, List.append_assoc]
  · apply suffix_take
      (Text.gap 0 ++ f.kind ++ Text.gap (f.lineGap width) ++ f.line ++ Text.gap f.columnGap)
    simp only [text_eq, List.append_assoc]
  · have hsuffix : f.lexeme <:+ f.text width := by
      rw [text, tableLine, List.dropLast_concat]
      exact List.suffix_append _ _
    exact (List.suffix_iff_eq_drop.mp hsuffix).symm

theorem newline_not_mem_text (width : Nat) (hf : f.Legible) : '\n' ∉ f.text width := by
  have hgap (n : Nat) : '\n' ∉ Text.gap n := by
    intro h
    exact absurd (List.eq_of_mem_replicate h) (by decide)
  simp only [text_eq, List.mem_append, hgap, hf.kind.newline_not_mem, hf.line.newline_not_mem,
    hf.column.newline_not_mem, hf.lexeme, or_self, not_false_eq_true]

end Fields

theorem length_kindField_le {rows : List Row} {row : Row} (h : row ∈ rows) :
    row.kindField.length ≤ kindWidth rows := by
  induction rows with
  | nil => cases h
  | cons first rows ih =>
    rw [kindWidth, List.foldr_cons]
    rcases List.mem_cons.mp h with rfl | h
    · exact Nat.le_max_left _ _
    · exact Nat.le_trans (ih h) (Nat.le_max_right _ _)

theorem four_le_kindWidth (rows : List Row) : 4 ≤ kindWidth rows := by
  induction rows with
  | nil => exact Nat.le_refl 4
  | cons first rows ih => exact Nat.le_trans ih (Nat.le_max_right _ _)

def fields (row : Row) : Fields where
  kind := row.kindField
  line := Text.decimal row.position.line
  column := Text.decimal row.position.column
  lexeme := Text.escapeText row.lexeme.toList

theorem fields_injective : Function.Injective fields := by
  intro row other h
  obtain ⟨category, lexeme, line, column⟩ := row
  obtain ⟨category', lexeme', line', column'⟩ := other
  obtain ⟨hkind, hline, hcolumn, hlexeme⟩ := Fields.mk.inj h
  obtain rfl := TokenCategory.name_injective (String.toList_injective hkind)
  obtain rfl := String.toList_injective (Text.escapeText_injective hlexeme)
  obtain rfl := Text.decimal_injective hline
  obtain rfl := Text.decimal_injective hcolumn
  rfl

theorem legible_fields (row : Row) : row.fields.Legible where
  kind := row.category.isWord_name
  line := Text.isWord_decimal _
  column := Text.isWord_decimal _
  lexeme := Text.newline_not_mem_escapeText _

def shown (rows : List Row) : List Fields := .headings :: rows.map fields

theorem legible_of_mem_shown {rows : List Row} {f : Fields} (h : f ∈ shown rows) : f.Legible := by
  rcases List.mem_cons.mp h with rfl | h
  · exact ⟨⟨by decide, by decide, by decide⟩, ⟨by decide, by decide, by decide⟩,
      ⟨by decide, by decide, by decide⟩, by decide⟩
  · obtain ⟨row, -, rfl⟩ := List.mem_map.mp h
    exact row.legible_fields

theorem table_eq (rows : List Row) : (table rows).toList =
    ((shown rows).map (Fields.text (kindWidth rows))).flatMap (· ++ ['\n']) := by
  rw [table, String.toList_ofList, shown, List.map_cons, List.flatMap_cons, List.map_map,
    List.flatMap_map]
  simp only [Function.comp_apply, ← Fields.tableLine_eq]
  rfl

theorem newline_not_mem_lines {rows : List Row} :
    ∀ line ∈ (shown rows).map (Fields.text (kindWidth rows)), '\n' ∉ line := by
  intro line h
  obtain ⟨f, hf, rfl⟩ := List.mem_map.mp h
  exact Fields.newline_not_mem_text _ (legible_of_mem_shown hf)

theorem linePieces_table (rows : List Row) : Text.linePieces (table rows).toList =
    (shown rows).map (Fields.text (kindWidth rows)) := by
  rw [table_eq, Text.linePieces_ended newline_not_mem_lines]

theorem read_linePieces_table (rows : List Row) :
    (Text.linePieces (table rows).toList).map Fields.read = shown rows := by
  have hread : ∀ f ∈ shown rows, (Fields.read ∘ Fields.text (kindWidth rows)) f = f := fun f hf =>
    Fields.read_text _ (legible_of_mem_shown hf)
  rw [linePieces_table, List.map_map, List.map_congr_left hread, List.map_id']

theorem shown_injective : Function.Injective shown := by
  intro rows others h
  exact (List.map_inj_right fun _ _ heq => fields_injective heq).mp (List.cons.inj h).2

/-- The text of the table determines its rows. It has a line with its newline for the headings and
one for each row, and from the line the fields of the row can be told. -/
theorem table_loses_nothing (rows others : List Row) :
    (table rows = table others ↔ rows = others) ∧
    ∃ lines : List (List Char), lines.length = rows.length + 1 ∧ (∀ line ∈ lines, '\n' ∉ line) ∧
      (table rows).toList = lines.flatMap (· ++ ['\n']) ∧
      lines.map Fields.read = .headings :: rows.map fields := by
  refine ⟨⟨?_, congrArg table⟩, ?_⟩
  · intro h
    apply shown_injective
    rw [← read_linePieces_table, h, read_linePieces_table]
  · have hread := read_linePieces_table rows
    rw [linePieces_table] at hread
    refine ⟨_, ?_, newline_not_mem_lines, table_eq rows, hread⟩
    rw [List.length_map, shown, List.length_cons, List.length_map]

example : table [⟨.stringLiteral, "  \n", ⟨-1, 12345678⟩⟩] =
    "KIND            LINE  COLUMN  LEXEME\nstring-literal    -1  12345678    \\n\n" := by
  decide +kernel

def Fields.Fits (f : Fields) : Prop := f.line.length ≤ 4 ∧ f.column.length ≤ 6

theorem fits_headings : Fields.headings.Fits := ⟨by decide, by decide⟩

theorem fits_fields_iff (row : Row) : row.fields.Fits ↔
    (-1000 < row.position.line ∧ row.position.line < 10000) ∧
      (-100000 < row.position.column ∧ row.position.column < 1000000) :=
  and_congr (Text.length_decimal_le_iff (by decide)) (Text.length_decimal_le_iff (by decide))

theorem edges_of_mem_shown {rows : List Row} {f : Fields} (h : f ∈ shown rows) :
    Edges.read (f.text (kindWidth rows)) =
      .ofWidths (kindWidth rows) (max 4 f.line.length) (max 6 f.column.length) := by
  have hkind : f.kind.length ≤ kindWidth rows := by
    rcases List.mem_cons.mp h with rfl | h
    · exact four_le_kindWidth rows
    · obtain ⟨row, hrow, rfl⟩ := List.mem_map.mp h
      exact length_kindField_le hrow
  rw [Fields.edges_text _ (legible_of_mem_shown h), Nat.max_eq_left hkind]

theorem edges_eq_iff {rows : List Row} {f : Fields} (h : f ∈ shown rows) :
    Edges.read (f.text (kindWidth rows)) = Edges.read (Fields.headings.text (kindWidth rows)) ↔
      f.Fits := by
  have hline : Fields.headings.line.length = 4 := rfl
  have hcolumn : Fields.headings.column.length = 6 := rfl
  rw [edges_of_mem_shown h, edges_of_mem_shown List.mem_cons_self, Edges.ofWidths_inj, hline,
    hcolumn, Fields.Fits]
  omega

theorem aligned_iff_fits (rows : List Row) : Aligned (table rows) ↔ ∀ f ∈ shown rows, f.Fits := by
  rw [Aligned, linePieces_table]
  constructor
  · intro h f hf
    exact (edges_eq_iff hf).mp
      (h _ (List.mem_map_of_mem hf) _ (List.mem_map_of_mem List.mem_cons_self))
  · intro h line hline other hother
    obtain ⟨f, hf, rfl⟩ := List.mem_map.mp hline
    obtain ⟨g, hg, rfl⟩ := List.mem_map.mp hother
    exact ((edges_eq_iff hf).mpr (h f hf)).trans ((edges_eq_iff hg).mpr (h g hg)).symm

/-- On each line of the table its fields stand at the edges of the line. All lines have the same
edges exactly when no line number needs more than four places and no column number more than
six. -/
theorem table_aligned_iff (rows : List Row) :
    List.Forall₂ (fun text f => Fields.StandsAt f text (Edges.read text))
      (Text.linePieces (table rows).toList) (.headings :: rows.map fields) ∧
    (Aligned (table rows) ↔
      ∀ row ∈ rows, (-1000 < row.position.line ∧ row.position.line < 10000) ∧
        (-100000 < row.position.column ∧ row.position.column < 1000000)) := by
  constructor
  · rw [linePieces_table, List.forall₂_map_left_iff]
    apply List.forall₂_same.mpr
    intro f hf
    exact Fields.standsAt_edges _ (legible_of_mem_shown hf)
  · rw [aligned_iff_fits, shown, List.forall_mem_cons, List.forall_mem_map]
    simp only [fits_headings, fits_fields_iff, true_and]

/-- Behind the last line with four digits the numbers run over their column. -/
theorem long_numbers_break_alignment :
    let rows : List Row := [⟨.identifier, "x", ⟨9999, 1⟩⟩, ⟨.identifier, "y", ⟨10000, 1⟩⟩]
    (∀ row ∈ rows, 0 < row.position.line ∧ row.position.line ≤ 2147483647 ∧
      0 < row.position.column ∧ row.position.column ≤ 2147483647) ∧ ¬ Aligned (table rows) := by
  constructor
  · decide
  · decide +kernel

end Row

end SourceCheck
