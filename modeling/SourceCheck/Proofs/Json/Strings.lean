import Mathlib.Data.List.Forall2
import SourceCheck.Json.Lexeme
import SourceCheck.Json.Writer

/-!
Strings in JSON text. Whatever characters a string holds, what is written for it is read back as one
lexeme, with the string as its value.
-/

namespace SourceCheck.Json

namespace Lexeme

variable {c : Char}

/-- What is written for a character: the character as it is, or an escape that stands for it. -/
inductive Written (c : Char) : List Char → Prop where
  | plain (hquote : c ≠ '\"') (hescape : c ≠ '\\') (hvisible : ¬ c.toNat < 32) : Written c [c]
  | escaped {code : List Char}
      (hcode : ∀ rest, escape? (code ++ rest) = some (c, code.length)) : Written c ('\\' :: code)

theorem hexNumber?_control :
    ∀ n < 32, hexNumber? ['0', '0', hexDigit (n / 16), hexDigit n] = some n := by
  decide

theorem escape?_control (h : c.toNat < 32) (rest : List Char) :
    escape? (['u', '0', '0', hexDigit (c.toNat / 16), hexDigit c.toNat] ++ rest) = some (c, 5) := by
  have hunit : codeUnit? ('0' :: '0' :: hexDigit (c.toNat / 16) :: hexDigit c.toNat :: rest) =
      some c.toNat := hexNumber?_control c.toNat h
  have hhigh : isHighSurrogate c.toNat = false := by
    simp only [isHighSurrogate, Bool.and_eq_false_iff, decide_eq_false_iff_not]
    omega
  have hlow : isLowSurrogate c.toNat = false := by
    simp only [isLowSurrogate, Bool.and_eq_false_iff, decide_eq_false_iff_not]
    omega
  simp [escape?, unicodeEscape?, hunit, hhigh, hlow]

theorem written_escapeChar (c : Char) : Written c (escapeChar c) := by
  fun_cases escapeChar c with
  | case1 h | case2 _ h | case3 _ _ h | case4 _ _ _ h | case5 _ _ _ _ h | case6 _ _ _ _ _ h
  | case7 _ _ _ _ _ _ h =>
    subst h
    exact .escaped fun _ => rfl
  | case8 _ _ _ _ _ _ _ hcontrol => exact .escaped (escape?_control hcontrol)
  | case9 hquote hescape _ _ _ _ _ hvisible => exact .plain hquote hescape hvisible

theorem stringBody?_skip (skipped rest : List Char) :
    stringBody? skipped.length (skipped ++ rest) =
      (stringBody? 0 rest).map fun (text, length) => (text, length + skipped.length) := by
  induction skipped with
  | nil => simp
  | cons d skipped ih =>
    rw [List.length_cons, List.cons_append, stringBody?, ih, Option.map_map]
    rfl

theorem stringBody?_written {written : List Char} (h : Written c written) (rest : List Char) :
    stringBody? 0 (written ++ rest) =
      (stringBody? 0 rest).map fun (text, length) => (c :: text, length + written.length) := by
  cases h with
  | plain hquote hescape hvisible =>
    rw [List.cons_append, stringBody?, if_neg hquote, if_neg hescape, if_neg hvisible]
    rfl
  | @escaped code hcode =>
    have hquote : ¬ '\\' = '\"' := by decide
    rw [List.cons_append, stringBody?, if_neg hquote, if_pos rfl, hcode]
    change (do
      let (text, length) ← stringBody? code.length (code ++ rest)
      some (c :: text, length + 1)) = _
    rw [stringBody?_skip]
    cases stringBody? 0 rest with
    | none => rfl
    | some found => rfl

theorem stringBody?_forms {text : List Char} {forms : List (List Char)}
    (h : List.Forall₂ Written text forms) (rest : List Char) :
    stringBody? 0 (forms.flatten ++ '\"' :: rest) = some (text, forms.flatten.length + 1) := by
  induction h with
  | nil => rfl
  | @cons c form text forms hform _ ih =>
    rw [List.flatten_cons, List.append_assoc, stringBody?_written hform, ih, Option.map_some,
      List.length_append]
    simp only [Option.some.injEq, Prod.mk.injEq, true_and]
    omega

theorem allAfter?_eq (skip : Nat) (input : List Char) :
    allAfter? skip input = allAfter? 0 (input.drop skip) := by
  induction skip generalizing input with
  | zero => rfl
  | succ skip ih =>
    cases input with
    | nil => rfl
    | cons c rest => exact ih rest

theorem all?_space (hc : isSpace c = true) (rest : List Char) : all? (c :: rest) = all? rest := by
  rw [all?, allAfter?, if_pos hc]
  rfl

theorem all?_lexeme {rest : List Char} {lexeme : Lexeme} {length : Nat} (hc : isSpace c = false)
    (hat : at? c rest = some (lexeme, length)) :
    all? (c :: rest) = (all? (rest.drop length)).map (lexeme :: ·) := by
  rw [all?, allAfter?, if_neg (Bool.eq_false_iff.mp hc), hat]
  change (do return lexeme :: (← allAfter? length rest)) = _
  rw [allAfter?_eq, all?]
  cases allAfter? 0 (rest.drop length) with
  | none => rfl
  | some lexemes => rfl

inductive Mark : Char → Lexeme → Prop where
  | openArray : Mark '[' .openArray
  | closeArray : Mark ']' .closeArray
  | openObject : Mark '\x7b' .openObject
  | closeObject : Mark '\x7d' .closeObject
  | comma : Mark ',' .comma
  | colon : Mark ':' .colon

theorem all?_mark {lexeme : Lexeme} (h : Mark c lexeme) (rest : List Char) :
    all? (c :: rest) = (all? rest).map (lexeme :: ·) := by
  have hspace : isSpace c = false := by cases h <;> rfl
  have hat : at? c rest = some (lexeme, 0) := by cases h <;> rfl
  exact all?_lexeme hspace hat

end Lexeme

end SourceCheck.Json
