import SourceCheck.Json.Reader
import SourceCheck.Proofs.Json.Texts

/-!
Reading JSON text. Whatever layout a text has, the reader gives the value that is written in it, so
no text stands for two values; what is written for a value is read back as the value.
-/

namespace SourceCheck.Json

open Lexeme

namespace Reader

inductive Ready : Expectation → Prop where
  | value : Ready .value
  | firstItem : Ready .firstItem

inductive ReadyForName : Expectation → Prop where
  | firstField : ReadyForName .firstField
  | fieldName : ReadyForName .fieldName

variable {frames outer : List Frame} {next : Expectation} {lexeme : Lexeme} {depth : Nat}

theorem step_ready (h : Ready next) (hlexeme : lexeme ≠ .closeArray) :
    step (.reading frames next) lexeme = beginValue frames lexeme := by
  cases h with
  | value => rfl
  | firstItem =>
    cases lexeme with
    | closeArray => exact absurd rfl hlexeme
    | _ => rfl

theorem step_name (h : ReadyForName next) (read : List (String × Json)) (name : String) :
    step (.reading (.object read :: outer) next) (.scalar (.string name)) =
      some (.reading (.field read name :: outer) .colon) := by
  cases h <;> rfl

theorem step_closeArray (items : List Json) (outer : List Frame) :
    step (.reading (.array items :: outer) .separator) .closeArray =
      accept (.array items.reverse) outer := rfl

theorem enter_of_lt (frame : Frame) (h : frames.length < nestingLimit) :
    enter frame next frames = some (.reading (frame :: frames) next) := if_pos h

theorem put_new {fields : List (String × Json)} {name : String} (value : Json)
    (h : name ∉ fields.map Prod.fst) : put fields name value = fields ++ [(name, value)] := by
  have hkept : ∀ field ∈ fields, (field.1 != name) = true := by
    intro field hfield
    rw [bne_iff_ne]
    rintro rfl
    exact h (List.mem_map_of_mem hfield)
  rw [put, List.filter_eq_self.mpr hkept]

theorem foldlM_of_step {reader after : Reader} (h : reader.step lexeme = some after)
    (later : List Lexeme) :
    (lexeme :: later).foldlM step reader = later.foldlM step after := by
  rw [List.foldlM_cons, h]
  rfl

theorem foldlM_scalar {value : Json} (h : Ready next) (frames : List Frame)
    (later : List Lexeme) :
    (Lexeme.scalar value :: later).foldlM step (.reading frames next) =
      (accept value frames).bind fun reader => later.foldlM step reader := by
  rw [List.foldlM_cons, step_ready h (by simp)]
  rfl

end Reader

open Reader

theorem itemLexemes_ne_nil {items : List Json} (h : items ≠ []) : itemLexemes items ≠ [] := by
  cases items with
  | nil => exact absurd rfl h
  | cons => simp [itemLexemes]

theorem fieldLexemes_ne_nil {fields : List (String × Json)} (h : fields ≠ []) :
    fieldLexemes fields ≠ [] := by
  cases fields with
  | nil => exact absurd rfl h
  | cons => simp [fieldLexemes]

theorem foldlM_field {read : List (String × Json)} {name : String} {value : Json}
    {outer : List Frame} {next : Expectation} {later : List Lexeme} (hnext : ReadyForName next)
    (hnew : name ∉ read.map Prod.fst)
    (hvalue : (value.lexemes ++ later).foldlM step (.reading (.field read name :: outer) .value) =
      (accept value (.field read name :: outer)).bind fun reader => later.foldlM step reader) :
    ((Lexeme.scalar (.string name) :: .colon :: value.lexemes) ++ later).foldlM step
        (.reading (.object read :: outer) next) =
      later.foldlM step (.reading (.object (read ++ [(name, value)]) :: outer) .separator) := by
  have hcolon : step (.reading (.field read name :: outer) .colon) .colon =
    some (.reading (.field read name :: outer) .value) := rfl
  rw [List.cons_append, List.cons_append, foldlM_of_step (step_name hnext read name),
    foldlM_of_step hcolon, hvalue, accept, put_new value hnew]
  rfl

mutual

/-- The lexemes of a value put the value where it belongs. -/
theorem foldlM_lexemes (depth : Nat) (value : Json) (h : value.Plain depth) (frames : List Frame)
    (hframes : frames.length + depth ≤ nestingLimit) (next : Expectation) (hnext : Ready next)
    (later : List Lexeme) :
    (value.lexemes ++ later).foldlM step (.reading frames next) =
      (accept value frames).bind fun reader => later.foldlM step reader := by
  cases value with
  | null => exact foldlM_scalar hnext frames later
  | boolean value => exact foldlM_scalar hnext frames later
  | number value => exact foldlM_scalar hnext frames later
  | string text => exact foldlM_scalar hnext frames later
  | array items =>
    obtain ⟨hdepth, hitems⟩ := h
    have henter : step (.reading frames next) .openArray =
        some (.reading (.array [] :: frames) .firstItem) := by
      rw [step_ready hnext (by simp), beginValue, enter_of_lt _ (by omega)]
    rw [lexemes, List.cons_append, foldlM_of_step henter, List.append_assoc]
    by_cases hempty : items = []
    · subst hempty
      rfl
    · have hinner := foldlM_items (depth - 1) items hitems hempty [] frames (by omega) .firstItem
        .firstItem ([.closeArray] ++ later)
      rw [hinner, List.append_nil, List.singleton_append, List.foldlM_cons, step_closeArray,
        List.reverse_reverse]
      rfl
  | object fields =>
    obtain ⟨hdepth, hnames, hfields⟩ := h
    have henter : step (.reading frames next) .openObject =
        some (.reading (.object [] :: frames) .firstField) := by
      rw [step_ready hnext (by simp), beginValue, enter_of_lt _ (by omega)]
    rw [lexemes, List.cons_append, foldlM_of_step henter, List.append_assoc]
    by_cases hempty : fields = []
    · subst hempty
      rfl
    · have hinner := foldlM_fields (depth - 1) fields hfields hempty [] hnames frames (by omega)
        .firstField .firstField ([.closeObject] ++ later)
      rw [hinner]
      rfl

theorem foldlM_items (depth : Nat) (items : List Json) (h : PlainItems depth items)
    (hitems : items ≠ []) (read : List Json) (outer : List Frame)
    (houter : outer.length + 1 + depth ≤ nestingLimit) (next : Expectation) (hnext : Ready next)
    (later : List Lexeme) :
    ([.comma].intercalate (itemLexemes items) ++ later).foldlM step
        (.reading (.array read :: outer) next) =
      later.foldlM step (.reading (.array (items.reverse ++ read) :: outer) .separator) := by
  cases items with
  | nil => exact absurd rfl hitems
  | cons item rest =>
    have hitem := foldlM_lexemes depth item h.1 (.array read :: outer) houter next hnext
    by_cases hrest : rest = []
    · subst hrest
      rw [itemLexemes, itemLexemes, List.intercalate_singleton]
      exact hitem later
    · have hothers := foldlM_items depth rest h.2 hrest (item :: read) outer houter .value .value
        later
      rw [itemLexemes, List.intercalate_cons_of_ne_nil (itemLexemes_ne_nil hrest),
        List.append_assoc, List.append_assoc, hitem, List.reverse_cons, List.append_assoc]
      exact hothers

theorem foldlM_fields (depth : Nat) (fields : List (String × Json)) (h : PlainFields depth fields)
    (hfields : fields ≠ []) (read : List (String × Json))
    (hnames : ((read ++ fields).map Prod.fst).Nodup) (outer : List Frame)
    (houter : outer.length + 1 + depth ≤ nestingLimit) (next : Expectation)
    (hnext : ReadyForName next) (later : List Lexeme) :
    ([.comma].intercalate (fieldLexemes fields) ++ later).foldlM step
        (.reading (.object read :: outer) next) =
      later.foldlM step (.reading (.object (read ++ fields) :: outer) .separator) := by
  cases fields with
  | nil => exact absurd rfl hfields
  | cons field rest =>
    obtain ⟨name, value⟩ := field
    have hnew : name ∉ read.map Prod.fst := by
      rw [List.map_append, List.map_cons, List.nodup_append] at hnames
      intro hread
      exact hnames.2.2 name hread name List.mem_cons_self rfl
    have hvalue (later : List Lexeme) := foldlM_field hnext hnew
      (foldlM_lexemes depth value h.1 (.field read name :: outer) houter .value .value later)
    by_cases hrest : rest = []
    · subst hrest
      rw [fieldLexemes, fieldLexemes, List.intercalate_singleton]
      exact hvalue later
    · have hbehind : read ++ (name, value) :: rest = (read ++ [(name, value)]) ++ rest := by
        rw [List.append_assoc, List.singleton_append]
      rw [hbehind] at hnames ⊢
      have hothers := foldlM_fields depth rest h.2 hrest (read ++ [(name, value)]) hnames outer
        houter .fieldName .fieldName later
      rw [fieldLexemes, List.intercalate_cons_of_ne_nil (fieldLexemes_ne_nil hrest),
        List.append_assoc, List.append_assoc, hvalue]
      exact hothers

end

variable {value other : Json} {depth : Nat} {text : String}

theorem read_lexemes (h : value.Plain depth) (hdepth : depth ≤ nestingLimit) :
    value.lexemes.foldlM step .start = some (.finished value) := by
  have hread := foldlM_lexemes depth value h [] (by simpa using hdepth) .value .value []
  rw [List.append_nil] at hread
  exact hread

theorem WrittenAs.unique {depth' : Nat} (h : value.WrittenAs text) (k : other.WrittenAs text)
    (hvalue : value.Plain depth) (hdepth : depth ≤ nestingLimit) (hother : other.Plain depth')
    (hdepth' : depth' ≤ nestingLimit) : value = other := by
  have hlexemes : value.lexemes = other.lexemes := Spells.unique h k
  have hread := read_lexemes hvalue hdepth
  rw [hlexemes, read_lexemes hother hdepth'] at hread
  exact (Reader.finished.inj (Option.some.inj hread)).symm

theorem ofText?_of_writtenAs (h : value.WrittenAs text) (hvalue : value.Plain depth)
    (hdepth : depth ≤ nestingLimit) (hfits : ∀ lexeme ∈ value.lexemes, Fits lexeme) :
    ofText? text = some value := by
  simp only [ofText?, Spells.all?_eq h hfits, Option.bind_eq_bind, Option.bind_some,
    read_lexemes hvalue hdepth]

end SourceCheck.Json
