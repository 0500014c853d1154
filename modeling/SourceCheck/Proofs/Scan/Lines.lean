import SourceCheck.Proofs.Language.Compile
import SourceCheck.Proofs.Scan.Modes

/-!
The lines that a scan collects. The reader cuts the text one newline at a time, and the line being
read at the end of the input; that comes to the text split at its newlines, whichever rule passes
over them. Looking a line up in the text itself is another way to the same line.
-/

namespace SourceCheck

namespace Text

/-- The pieces of the text between its newlines, without the last one when it is empty. -/
def linePieces (text : List Char) : List (List Char) :=
  let pieces := text.splitOn '\n'
  if pieces.getLast? = some [] then pieces.dropLast else pieces

def lineOf (piece : List Char) : String := String.ofList (withoutReturn piece)

theorem splitOn_last_line {line : List Char} (before : List Char) (h : '\n' ∉ line) :
    (before ++ '\n' :: line).splitOn '\n' = before.splitOn '\n' ++ [line] := by
  rw [List.splitOn_append_cons_self, List.splitOn_eq_singleton h]

theorem splitOn_newline (text : List Char) :
    text.splitOn '\n' = (text.splitOn '\n').dropLast ++ [afterLastNewline text] := by
  have hlast := newline_not_mem_afterLastNewline text
  rcases exists_last_line text with htext | ⟨before, htext⟩
  · rw [← htext] at hlast ⊢
    rw [List.splitOn_eq_singleton hlast]
    rfl
  · have hsplit := splitOn_last_line before hlast
    rw [← htext] at hsplit
    rw [hsplit, List.dropLast_concat]

theorem map_splitOn_newline (text : List Char) : (text.splitOn '\n').map lineOf =
    (text.splitOn '\n').dropLast.map lineOf ++ [lineOf (afterLastNewline text)] := by
  have hpieces := congrArg (List.map lineOf) (splitOn_newline text)
  rw [List.map_append] at hpieces
  exact hpieces

theorem dropLast_splitOn_newline (text : List Char) :
    ((text ++ ['\n']).splitOn '\n').dropLast = text.splitOn '\n' := by
  rw [splitOn_last_line text List.not_mem_nil, List.dropLast_concat]

theorem dropLast_splitOn_concat {c : Char} (text : List Char) (hc : c ≠ '\n') :
    ((text ++ [c]).splitOn '\n').dropLast = (text.splitOn '\n').dropLast := by
  have hlast := newline_not_mem_afterLastNewline text
  have hlonger := newline_not_mem_afterLastNewline (text ++ [c])
  rw [afterLastNewline_concat text hc] at hlonger
  rcases exists_last_line text with htext | ⟨before, htext⟩
  · rw [← htext] at hlast hlonger
    rw [List.splitOn_eq_singleton hlast, List.splitOn_eq_singleton hlonger]
    rfl
  · have hsplit := splitOn_last_line before hlast
    have hsplitLonger := splitOn_last_line before hlonger
    rw [← htext] at hsplit
    rw [← List.cons_append, ← List.append_assoc, ← htext] at hsplitLonger
    rw [hsplit, hsplitLonger, List.dropLast_concat, List.dropLast_concat]

theorem finished_of (text : List Char) :
    (LineReader.of text).finished.reverse = (text.splitOn '\n').dropLast.map lineOf := by
  induction text using concat_induction with
  | nil => rfl
  | concat text c ih =>
    rw [LineReader.of_concat, LineReader.push]
    by_cases hc : c = '\n'
    · subst hc
      rw [if_pos rfl, List.reverse_cons, ih, LineReader.currentLine_of, dropLast_splitOn_newline,
        map_splitOn_newline]
      rfl
    · rw [if_neg hc, dropLast_splitOn_concat text hc]
      exact ih

theorem lineTable_eq (text : List Char) : lineTable text = (linePieces text).map lineOf := by
  have hlast : (text.splitOn '\n').getLast? = some (afterLastNewline text) := by
    rw [splitOn_newline, List.getLast?_concat]
  have hcurrent : (LineReader.of text).current = [] ↔ afterLastNewline text = [] := by
    rw [← LineReader.current_of, List.reverse_eq_nil_iff]
  have htable : lineTable text = (text.splitOn '\n').dropLast.map lineOf ++
      if (LineReader.of text).current = [] then [] else [lineOf (afterLastNewline text)] := by
    rw [← finished_of, lineOf, ← LineReader.currentLine_of, ← LineReader.lines_eq]
    rfl
  rw [htable, linePieces, hlast]
  by_cases hempty : afterLastNewline text = []
  · rw [if_pos (hcurrent.mpr hempty), if_pos (congrArg some hempty), List.append_nil]
  · rw [if_neg (mt hcurrent.mp hempty), if_neg fun h => hempty (Option.some.inj h),
      map_splitOn_newline]

theorem line?_succ {table : List String} {n : Nat} (h : n < table.length) :
    line? table (n + 1) = some table[n] := by
  have hindex : ((n : Int) + 1 - 1).toNat = n := by omega
  rw [line?, if_pos (by omega), hindex, List.getElem?_eq_getElem h]

theorem line?_outside {table : List String} {number : Int}
    (h : number < 1 ∨ (table.length : Int) < number) : line? table number = none := by
  unfold line?
  split
  · rw [List.getElem?_eq_none (by omega)]
  · rfl

end Text

structure TokenBuffer.HasLines (buffer : TokenBuffer) (text : List Char) : Prop where
  lines : buffer.lines = (Text.linePieces text).map Text.lineOf
  known : ∀ n (h : n < buffer.lines.length), buffer.line? (n + 1) = some buffer.lines[n]
  unknown : ∀ number : Int, number < 1 ∨ (buffer.lines.length : Int) < number →
    buffer.line? number = none
  looked_up : ∀ number, Text.lineText text number = (buffer.line? number).getD ""

/-- A complete scan in either mode collects the lines of the source, each without its newline and
without a carriage return before it, whichever tokens and comments the newlines belong to. Looking
a line up in the text of the source gives the same line, and the empty line where there is none. -/
theorem scan_splits_into_lines (source : Source) (v : Vocabulary) (buffer : TokenBuffer)
    (hbuffer : buffer = (source.scan v).buffer ∨ source.scanStrictly v = .ok buffer) :
    buffer.HasLines source.text.toList := by
  have htable : buffer.lines = Text.lineTable source.text.toList := by
    rw [Source.eq_buffer_scan hbuffer, Source.buffer_scan]
  constructor
  · rw [htable, Text.lineTable_eq]
  · intro n h
    exact Text.line?_succ h
  · intro number h
    exact Text.line?_outside h
  · intro number
    rw [Text.lineText_eq, TokenBuffer.line?, htable]

/-- Newlines behind a token and in a comment, and a carriage return alone on the last line. -/
theorem scan_splits_into_lines_in_comment :
    ∃ v buffer, Language.standard.compile = .ok v ∧
      buffer = (Source.scan ⟨"input", "f(a)\r\n/* b\n\n*/\n\r"⟩ v).buffer ∧
      buffer.HasLines "f(a)\r\n/* b\n\n*/\n\r".toList ∧
      buffer.lines = ["f(a)", "/* b", "", "*/", ""] ∧ buffer.line? 6 = none := by
  obtain ⟨v, hv⟩ := Language.standard_compiles
  have hlines := scan_splits_into_lines ⟨"input", "f(a)\r\n/* b\n\n*/\n\r"⟩ v _ (.inl rfl)
  have hfive := hlines.lines.trans (by decide :
    (Text.linePieces "f(a)\r\n/* b\n\n*/\n\r".toList).map Text.lineOf =
      ["f(a)", "/* b", "", "*/", ""])
  exact ⟨v, _, hv, rfl, hlines, hfive, hlines.unknown 6 (.inr (by rw [hfive]; decide))⟩

end SourceCheck
