import SourceCheck.Proofs.Json.Numbers

/-!
What JSON text says, whatever its layout. A text spells a list of lexemes, and no other list; the
lexemes of a value stand in its text with any spaces between them. The text that is written for a
value is one of these.
-/

namespace SourceCheck.Json

namespace Lexeme

inductive Scalar : Json → List Char → Prop where
  | null : Scalar .null "null".toList
  | boolean (value : Bool) : Scalar (.boolean value) (if value then "true" else "false").toList
  | integer {z : Int} {form : List Char} (h : IsInteger z form) : Scalar (.int z) form
  | string {text : String} {forms : List (List Char)}
      (h : List.Forall₂ Written text.toList forms) :
      Scalar (.string text) ('\"' :: (forms.flatten ++ ['\"']))

inductive Spells : List Lexeme → List Char → Prop where
  | nil : Spells [] []
  | space {c : Char} {lexemes : List Lexeme} {rest : List Char} (hc : isSpace c = true)
      (h : Spells lexemes rest) : Spells lexemes (c :: rest)
  | mark {c : Char} {lexeme : Lexeme} {lexemes : List Lexeme} {rest : List Char}
      (hmark : Mark c lexeme) (h : Spells lexemes rest) : Spells (lexeme :: lexemes) (c :: rest)
  | scalar {value : Json} {form : List Char} {lexemes : List Lexeme} {rest : List Char}
      (hform : Scalar value form) (hended : Ended rest) (h : Spells lexemes rest) :
      Spells (.scalar value :: lexemes) (form ++ rest)

section Reading

variable {c : Char} {value : Json} {form rest : List Char} {lexeme : Lexeme}
  {lexemes others : List Lexeme}

theorem Mark.not_space (h : Mark c lexeme) : isSpace c = false := by
  cases h <;> rfl

theorem Mark.unique {other : Lexeme} (h : Mark c lexeme) (k : Mark c other) : lexeme = other := by
  cases h <;> cases k <;> rfl

/-- A scalar is an integer, or it is told from its text wherever it stands. -/
inductive Told (value : Json) (c : Char) (rest : List Char) : Prop where
  | integer {z : Int} (hvalue : value = .int z) (h : IsInteger z (c :: rest))
      (hc : c = '-' ∨ c.isDigit = true)
  | read (hc : ¬ (c = '-' ∨ c.isDigit = true)) (hspace : isSpace c = false)
      (hmark : ∀ lexeme, ¬ Mark c lexeme)
      (h : ∀ later, at? c (rest ++ later) = some (.scalar value, rest.length))

theorem Scalar.told (h : Scalar value form) : ∃ c rest, form = c :: rest ∧ Told value c rest := by
  cases h with
  | null =>
    exact ⟨_, _, rfl, .read (by decide) rfl (fun _ hmark => by cases hmark) fun _ => rfl⟩
  | boolean value =>
    cases value <;>
      exact ⟨_, _, rfl, .read (by decide) rfl (fun _ hmark => by cases hmark) fun _ => rfl⟩
  | integer h =>
    obtain ⟨c, rest, rfl, hc⟩ := h.first
    exact ⟨c, rest, rfl, .integer rfl h hc⟩
  | @string text forms h =>
    refine ⟨_, _, rfl, .read (by decide) rfl (fun _ hmark => by cases hmark) fun later => ?_⟩
    have hbody := stringBody?_forms h later
    rw [List.append_assoc, List.singleton_append, List.length_append, List.length_singleton]
    simp only [at?, hbody]
    simp

theorem digit_apart (hc : c = '-' ∨ c.isDigit = true) :
    isSpace c = false ∧ ∀ lexeme, ¬ Mark c lexeme := by
  constructor
  · rw [Bool.eq_false_iff]
    intro hspace
    simp only [isSpace, Bool.or_eq_true, beq_iff_eq] at hspace
    obtain ((rfl | rfl) | rfl) | rfl := hspace <;> exact absurd hc (by decide)
  · intro lexeme hmark
    cases hmark <;> exact absurd hc (by decide)

theorem Told.apart (h : Told value c rest) : isSpace c = false ∧ ∀ lexeme, ¬ Mark c lexeme := by
  cases h with
  | integer _ _ hc => exact digit_apart hc
  | read _ hspace hmark _ => exact ⟨hspace, hmark⟩

theorem Told.unique {other : Json} {later front behind : List Char} (h : Told value c front)
    (k : Told other c later) (hrest : Ended rest) (hbehind : Ended behind)
    (heq : front ++ rest = later ++ behind) : value = other ∧ rest = behind := by
  cases h with
  | integer hvalue hz hc =>
    cases k with
    | integer hother hy _ =>
      obtain ⟨rfl, hsame⟩ := hz.unique hy hrest hbehind (congrArg (c :: ·) heq)
      exact ⟨hvalue.trans hother.symm, hsame⟩
    | read hnot _ _ _ => exact absurd hc hnot
  | read hnot _ _ hread =>
    cases k with
    | integer _ _ hc => exact absurd hc hnot
    | read _ _ _ hread' =>
      have hboth := (hread rest).symm.trans (heq ▸ hread' behind)
      obtain ⟨hvalue, hlength⟩ := Prod.mk.inj (Option.some.inj hboth)
      exact ⟨Lexeme.scalar.inj hvalue, (List.append_inj heq hlength).2⟩

/-- What comes first in a text tells which lexeme it begins with, if any. -/
inductive Begins (c : Char) (rest : List Char) (lexemes : List Lexeme) : Prop where
  | space (hc : isSpace c = true) (h : Spells lexemes rest)
  | mark {lexeme : Lexeme} {later : List Lexeme} (hmark : Mark c lexeme)
      (hlexemes : lexemes = lexeme :: later) (h : Spells later rest)
  | scalar {value : Json} {form behind : List Char} {later : List Lexeme}
      (htold : Told value c form) (hended : Ended behind) (hrest : rest = form ++ behind)
      (hlexemes : lexemes = .scalar value :: later) (h : Spells later behind)

theorem Spells.begins (h : Spells lexemes (c :: rest)) : Begins c rest lexemes := by
  generalize htext : c :: rest = text at h
  cases h with
  | nil => cases htext
  | space hc h =>
    cases htext
    exact .space hc h
  | mark hmark h =>
    cases htext
    exact .mark hmark rfl h
  | scalar hform hended h =>
    obtain ⟨d, form, rfl, htold⟩ := hform.told
    cases htext
    exact .scalar htold hended rfl rfl h

theorem Spells.eq_nil (h : Spells lexemes []) : lexemes = [] := by
  generalize htext : [] = text at h
  cases h with
  | nil => rfl
  | space hc h => cases htext
  | mark hmark h => cases htext
  | scalar hform hended h =>
    obtain ⟨d, form, rfl, -⟩ := hform.told
    cases htext

theorem Spells.unique {text : List Char} (h : Spells lexemes text) (k : Spells others text) :
    lexemes = others := by
  induction h generalizing others with
  | nil => exact k.eq_nil.symm
  | space hc _ ih =>
    cases k.begins with
    | space _ k => exact ih k
    | mark hmark => cases hc.symm.trans hmark.not_space
    | scalar htold => cases hc.symm.trans htold.apart.1
  | mark hmark _ ih =>
    cases k.begins with
    | space hc => cases hc.symm.trans hmark.not_space
    | mark hmark' hothers k =>
      obtain rfl := hmark.unique hmark'
      rw [hothers, ih k]
    | scalar htold => exact absurd hmark (htold.apart.2 _)
  | scalar hform hended _ ih =>
    obtain ⟨d, form, rfl, htold⟩ := hform.told
    cases k.begins with
    | space hc => cases hc.symm.trans htold.apart.1
    | mark hmark => exact absurd hmark (htold.apart.2 _)
    | scalar htold' hended' hrest hothers k =>
      obtain ⟨rfl, rfl⟩ := htold.unique htold' hended hended' hrest
      rw [hothers, ih k]

def Fits (lexeme : Lexeme) : Prop :=
  ∀ z, lexeme = .scalar (.int z) → Significand.fits z.natAbs = true

theorem Told.at?_eq (h : Told value c form) (hfits : Fits (.scalar value)) (hrest : Ended rest) :
    at? c (form ++ rest) = some (.scalar value, form.length) := by
  cases h with
  | @integer z hvalue h hc =>
    subst hvalue
    rw [at?_number hc, number?_integer h (hfits z rfl) hrest]
  | read _ _ _ h => exact h rest

theorem Spells.all?_eq {text : List Char} (h : Spells lexemes text)
    (hfits : ∀ lexeme ∈ lexemes, Fits lexeme) : all? text = some lexemes := by
  induction h with
  | nil => rfl
  | space hc _ ih => rw [all?_space hc, ih hfits]
  | mark hmark _ ih =>
    rw [all?_mark hmark, ih (List.forall_mem_cons.mp hfits).2]
    rfl
  | scalar hform hended _ ih =>
    obtain ⟨hvalue, hlater⟩ := List.forall_mem_cons.mp hfits
    obtain ⟨c, form, rfl, htold⟩ := hform.told
    rw [List.cons_append, all?_lexeme htold.apart.1 (htold.at?_eq hvalue hended), List.drop_left,
      ih hlater]
    rfl

end Reading

end Lexeme

mutual

def lexemes : Json → List Lexeme
  | .array items => .openArray :: ([.comma].intercalate (itemLexemes items) ++ [.closeArray])
  | .object fields =>
    .openObject :: ([.comma].intercalate (fieldLexemes fields) ++ [.closeObject])
  | value => [.scalar value]

def itemLexemes : List Json → List (List Lexeme)
  | [] => []
  | item :: rest => lexemes item :: itemLexemes rest

def fieldLexemes : List (String × Json) → List (List Lexeme)
  | [] => []
  | (name, value) :: rest =>
    (.scalar (.string name) :: .colon :: lexemes value) :: fieldLexemes rest

end

def WrittenAs (value : Json) (text : String) : Prop := Lexeme.Spells value.lexemes text.toList

mutual

/-- Numbers are whole, no object has two fields of one name, and no more than so many arrays and
objects stand one in the other. -/
def Plain (depth : Nat) : Json → Prop
  | .number value => value.exponent = 0
  | .array items => 0 < depth ∧ PlainItems (depth - 1) items
  | .object fields => 0 < depth ∧ (fields.map Prod.fst).Nodup ∧ PlainFields (depth - 1) fields
  | _ => True

def PlainItems (depth : Nat) : List Json → Prop
  | [] => True
  | item :: rest => Plain depth item ∧ PlainItems depth rest

def PlainFields (depth : Nat) : List (String × Json) → Prop
  | [] => True
  | (_, value) :: rest => Plain depth value ∧ PlainFields depth rest

end

namespace Lexeme

def Writes (lexemes : List Lexeme) (text : List Char) : Prop :=
  ∀ later rest, Ended rest → Spells later rest → Spells (lexemes ++ later) (text ++ rest)

variable {c : Char} {lexeme : Lexeme} {lexemes : List Lexeme} {text rest : List Char}

theorem Ended.mark (h : Mark c lexeme) (rest : List Char) : Ended (c :: rest) := by
  intro d hd
  obtain rfl : c = d := Option.some.inj hd
  exact .inr ⟨lexeme, h⟩

theorem Ended.newline (rest : List Char) : Ended ('\n' :: rest) := by
  intro d hd
  obtain rfl : '\n' = d := Option.some.inj hd
  exact .inl rfl

theorem Spells.indented (h : Spells lexemes rest) (level : Nat) :
    Spells lexemes ((indentation level).toList ++ rest) := by
  rw [indentation, String.toList_ofList]
  induction 2 * level with
  | zero => exact h
  | succ n ih => exact .space rfl ih

theorem writes_scalar {value : Json} (h : Scalar value text) : Writes [.scalar value] text :=
  fun _ _ hended hrest => .scalar h hended hrest

theorem writes_parts {lists : List (List Lexeme)} {parts : List String} (level : Nat)
    (h : List.Forall₂ (fun lexemes part => Writes lexemes part.toList) lists parts)
    (hparts : parts ≠ []) :
    Writes ([.comma].intercalate lists)
      (String.intercalate ",\n" (parts.map fun part => indentation level ++ part)).toList := by
  induction h with
  | nil => exact absurd rfl hparts
  | @cons lexemes part lists parts hpart hlater ih =>
    intro later rest hended hrest
    cases hlater with
    | nil =>
      simp only [List.intercalate_singleton, List.map_cons, List.map_nil,
        String.intercalate_singleton, String.toList_append, List.append_assoc]
      exact (hpart later rest hended hrest).indented level
    | @cons next other lists parts hnext hothers =>
      have hbehind := ih (by simp) later rest hended hrest
      simp only [List.intercalate_cons_cons, List.map_cons, String.intercalate_cons_cons,
        String.toList_append, List.append_assoc, List.singleton_append] at hbehind ⊢
      exact (hpart _ _ (.mark .comma _) (.mark .comma (.space rfl hbehind))).indented level

theorem writes_block {opening closing : String} {first last : Char} {opens closes : Lexeme}
    {lists : List (List Lexeme)} {parts : List String} (level : Nat)
    (hopening : opening.toList = [first]) (hclosing : closing.toList = [last])
    (hfirst : Mark first opens) (hlast : Mark last closes)
    (h : List.Forall₂ (fun lexemes part => Writes lexemes part.toList) lists parts) :
    Writes (opens :: ([.comma].intercalate lists ++ [closes]))
      (block opening closing level parts).toList := by
  intro later rest hended hrest
  cases h with
  | nil =>
    simp only [block, List.isEmpty_nil, if_true, String.toList_append, hopening, hclosing]
    exact .mark hfirst (.mark hlast hrest)
  | @cons lexemes part lists parts hpart hlater =>
    have hclose := (Spells.mark hlast hrest).indented level
    have hinner := writes_parts (level + 1) (.cons hpart hlater) (by simp) _ _ (.newline _)
      (.space rfl hclose)
    simp only [block, List.isEmpty_cons, Bool.false_eq_true, if_false, String.toList_append,
      hopening, hclosing, List.append_assoc, List.cons_append, List.nil_append] at hinner ⊢
    exact .mark hfirst (.space rfl hinner)

theorem scalar_stringText (text : String) : Scalar (.string text) (stringText text).toList := by
  have hforms : List.Forall₂ Written text.toList (text.toList.map escapeChar) :=
    List.forall₂_map_right_iff.mpr (List.forall₂_same.mpr fun c _ => written_escapeChar c)
  rw [stringText, String.toList_ofList, List.cons_append, List.flatMap_def]
  exact .string hforms

end Lexeme

open Lexeme

mutual

theorem writes_textAt (level depth : Nat) (value : Json) (h : value.Plain depth) :
    Writes value.lexemes (textAt level value).toList := by
  cases value with
  | null => exact writes_scalar .null
  | boolean value => exact writes_scalar (by cases value <;> exact .boolean _)
  | number value =>
    obtain ⟨coefficient, exponent⟩ := value
    obtain rfl : exponent = 0 := h
    rw [textAt, numberText, if_pos rfl, Text.showInt, String.toList_ofList]
    exact writes_scalar (.integer (isInteger_decimal coefficient))
  | string text => exact writes_scalar (scalar_stringText text)
  | array items =>
    exact writes_block level rfl rfl .openArray .closeArray
      (writes_itemTexts (level + 1) (depth - 1) items h.2)
  | object fields =>
    exact writes_block level rfl rfl .openObject .closeObject
      (writes_fieldTexts (level + 1) (depth - 1) fields h.2.2)

theorem writes_itemTexts (level depth : Nat) (items : List Json) (h : PlainItems depth items) :
    List.Forall₂ (fun lexemes part => Writes lexemes part.toList) (itemLexemes items)
      (itemTexts level items) := by
  cases items with
  | nil => exact .nil
  | cons item rest =>
    exact .cons (writes_textAt level depth item h.1) (writes_itemTexts level depth rest h.2)

theorem writes_fieldTexts (level depth : Nat) (fields : List (String × Json))
    (h : PlainFields depth fields) :
    List.Forall₂ (fun lexemes part => Writes lexemes part.toList) (fieldLexemes fields)
      (fieldTexts level fields) := by
  cases fields with
  | nil => exact .nil
  | cons field rest =>
    obtain ⟨name, value⟩ := field
    refine .cons ?_ (writes_fieldTexts level depth rest h.2)
    intro later behind hended hbehind
    have hvalue := writes_textAt level depth value h.1 later behind hended hbehind
    simp only [String.toList_append, List.append_assoc, List.cons_append]
    exact .scalar (scalar_stringText name) (.mark .colon _) (.mark .colon (.space rfl hvalue))

end

variable {value : Json} {depth : Nat}

theorem writtenAs_pretty (h : value.Plain depth) : value.WrittenAs value.pretty := by
  have hwrites := writes_textAt 0 depth value h [] [] (by simp [Ended]) .nil
  rwa [List.append_nil, List.append_nil] at hwrites

theorem writtenAs_line (h : value.Plain depth) : value.WrittenAs (value.pretty ++ "\n") := by
  have hwrites := writes_textAt 0 depth value h [] ['\n'] (.newline []) (.space rfl .nil)
  rw [List.append_nil] at hwrites
  rw [WrittenAs, String.toList_append]
  exact hwrites

end SourceCheck.Json
