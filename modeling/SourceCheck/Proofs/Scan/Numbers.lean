import SourceCheck.Proofs.Language.Compile
import SourceCheck.Proofs.Scan.Points

/-!
The numbers of the scanner: digits, behind them a fraction if there is one, and an exponent if there
is one. The scanner settles these parts one after the other and never takes one back. What it reads
is still the longest number that the input begins with, since a part that stops early leaves nothing
that a later part could begin with.
-/

namespace SourceCheck

namespace Scan

@[ext]
structure Digits where
  chars : List Char
  ne_nil : chars ≠ []
  digits : ∀ c ∈ chars, c.isDigit = true

@[ext]
structure Exponent where
  mark : Char
  mark_eq : mark = 'e' ∨ mark = 'E'
  sign : Option Char
  sign_eq : ∀ c ∈ sign, c = '+' ∨ c = '-'
  digits : Digits

@[ext]
structure Numeral where
  whole : Digits
  fraction : Option Digits
  exponent : Option Exponent

def Exponent.chars (e : Exponent) : List Char := e.mark :: (e.sign.toList ++ e.digits.chars)

def fractionChars (fraction : Option Digits) : List Char := fraction.elim [] ('.' :: ·.chars)

def exponentChars (exponent : Option Exponent) : List Char := exponent.elim [] Exponent.chars

namespace Numeral

def chars (n : Numeral) : List Char :=
  n.whole.chars ++ (fractionChars n.fraction ++ exponentChars n.exponent)

def literal (n : Numeral) : Literal :=
  match n.fraction, n.exponent with
  | _, some _ => .float .scientific
  | some _, none => .float .simple
  | none, none => .integer

end Numeral

/-- What the scanner reads as one part of a number: the text of the part, how far the scanner
reaches into an input, and how much further it goes behind that text. -/
structure PartRule (α : Type) where
  chars : α → List Char
  chars_injective : ∀ {a b : α}, chars a = chars b → a = b
  reach : List Char → Nat
  further : α → List Char → Nat
  reach_append : ∀ (a : α) (rest : List Char),
    reach (chars a ++ rest) = (chars a).length + further a rest
  exists_append : ∀ {input : List Char}, reach input ≠ 0 →
    ∃ (a : α) (later : List Char), input = chars a ++ later ∧ further a later = 0

namespace PartRule

variable {α : Type} (r : PartRule α)

/-- Of two readings of a part, the one that cannot go further is the longer one. -/
theorem eq_or_shorter {a b : α} {rest later : List Char}
    (h : r.chars a ++ rest = r.chars b ++ later) (hlater : r.further b later = 0) :
    (a = b ∧ rest = later) ∨
      ((r.chars a).length < (r.chars b).length ∧ r.further a rest ≠ 0) := by
  have hreach : (r.chars a).length + r.further a rest = (r.chars b).length := by
    rw [← r.reach_append, h, r.reach_append, hlater, Nat.add_zero]
  by_cases hrest : r.further a rest = 0
  · rw [hrest, Nat.add_zero] at hreach
    obtain ⟨hchars, hsame⟩ := List.append_inj h hreach
    exact .inl ⟨r.chars_injective hchars, hsame⟩
  · exact .inr ⟨by omega, hrest⟩

def optional (hne : ∀ a, r.chars a ≠ []) : PartRule (Option α) where
  chars part := part.elim [] r.chars
  chars_injective := by
    intro a b h
    cases a with
    | none =>
      cases b with
      | none => rfl
      | some b => exact absurd h.symm (hne b)
    | some a =>
      cases b with
      | none => exact absurd h (hne a)
      | some b => rw [r.chars_injective h]
  reach := r.reach
  further part rest := part.elim (r.reach rest) (r.further · rest)
  reach_append := by
    intro part rest
    cases part with
    | none => exact (Nat.zero_add _).symm
    | some a => exact r.reach_append a rest
  exists_append := by
    intro input h
    obtain ⟨a, later, hinput, hlater⟩ := r.exists_append h
    exact ⟨some a, later, hinput, hlater⟩

theorem exists_optional (hne : ∀ a, r.chars a ≠ []) (input : List Char) :
    ∃ (part : Option α) (later : List Char), input = (r.optional hne).chars part ++ later ∧
      (r.optional hne).further part later = 0 := by
  by_cases hreach : r.reach input = 0
  · exact ⟨none, input, rfl, hreach⟩
  · exact (r.optional hne).exists_append hreach

end PartRule

namespace Digits

theorem digitsLength_append (d : Digits) (rest : List Char) :
    digitsLength (d.chars ++ rest) = d.chars.length + digitsLength rest := by
  rw [digitsLength, runLength, List.takeWhile_append_of_pos d.digits, List.length_append]
  rfl

theorem length_pos (d : Digits) : 0 < d.chars.length := List.length_pos_iff.mpr d.ne_nil

theorem exists_cons (d : Digits) : ∃ c later, d.chars = c :: later ∧ c.isDigit = true := by
  cases hd : d.chars with
  | nil => exact absurd hd d.ne_nil
  | cons c later => exact ⟨c, later, rfl, d.digits c (hd ▸ List.mem_cons_self)⟩

theorem exists_append {input : List Char} (h : digitsLength input ≠ 0) :
    ∃ (d : Digits) (later : List Char), input = d.chars ++ later ∧ digitsLength later = 0 := by
  have hjoin : input = input.takeWhile Char.isDigit ++ input.dropWhile Char.isDigit :=
    List.takeWhile_append_dropWhile.symm
  have hne : input.takeWhile Char.isDigit ≠ [] := by
    intro hnil
    exact h (congrArg List.length hnil)
  let d : Digits := ⟨input.takeWhile Char.isDigit, hne, List.all_eq_true.mp List.all_takeWhile⟩
  refine ⟨d, _, hjoin, ?_⟩
  have hlength := d.digitsLength_append (input.dropWhile Char.isDigit)
  rw [show d.chars ++ _ = input from hjoin.symm] at hlength
  change digitsLength input = digitsLength input + _ at hlength
  omega

def rule : PartRule Digits where
  chars := chars
  chars_injective := Digits.ext
  reach := digitsLength
  further _ := digitsLength
  reach_append := digitsLength_append
  exists_append := exists_append

theorem fractionLength_append (d : Digits) (rest : List Char) :
    fractionLength ('.' :: d.chars ++ rest) = ('.' :: d.chars).length + digitsLength rest := by
  have hpos := d.length_pos
  rw [List.cons_append, fractionLength, d.digitsLength_append, if_neg (by omega),
    List.length_cons]
  omega

theorem exists_fraction {input : List Char} (h : fractionLength input ≠ 0) :
    ∃ (d : Digits) (later : List Char), input = '.' :: d.chars ++ later ∧
      digitsLength later = 0 := by
  unfold fractionLength at h
  split at h
  · next input =>
    have hdigits : digitsLength input ≠ 0 := by
      intro hzero
      exact h (if_pos hzero)
    obtain ⟨d, later, rfl, hlater⟩ := exists_append hdigits
    exact ⟨d, later, rfl, hlater⟩
  · exact absurd rfl h

def pointRule : PartRule Digits where
  chars d := '.' :: d.chars
  chars_injective h := Digits.ext (List.cons.inj h).2
  reach := fractionLength
  further _ := digitsLength
  reach_append := fractionLength_append
  exists_append := exists_fraction

end Digits

theorem digitsLength_of_not_digit {c : Char} (hc : c.isDigit = false) (input : List Char) :
    digitsLength (c :: input) = 0 := by
  simp [digitsLength, runLength, hc]

theorem exists_sign (input : List Char) :
    ∃ sign : Option Char, (∀ c ∈ sign, c = '+' ∨ c = '-') ∧
      input = sign.toList ++ input.drop (signLength input) := by
  unfold signLength
  split
  · exact ⟨some '+', by simp, rfl⟩
  · exact ⟨some '-', by simp, rfl⟩
  · exact ⟨none, by simp, rfl⟩

namespace Exponent

theorem mark_not_digit (e : Exponent) : e.mark.isDigit = false := by
  rcases e.mark_eq with hmark | hmark <;> rw [hmark] <;> decide

theorem mark_ne_point (e : Exponent) : e.mark ≠ '.' := by
  rcases e.mark_eq with hmark | hmark <;> rw [hmark] <;> decide

theorem signLength_append (e : Exponent) (rest : List Char) :
    signLength (e.sign.toList ++ (e.digits.chars ++ rest)) = e.sign.toList.length := by
  cases hsign : e.sign with
  | none =>
    obtain ⟨c, later, hdigits, hc⟩ := e.digits.exists_cons
    rw [hdigits, Scanning.signLength_eq]
    apply if_neg
    rintro (hplus | hminus)
    · rw [show c = '+' from hplus] at hc
      cases hc
    · rw [show c = '-' from hminus] at hc
      cases hc
  | some c => rcases e.sign_eq c hsign with rfl | rfl <;> rfl

theorem eq_of_chars {e f : Exponent} (h : e.chars = f.chars) : e = f := by
  obtain ⟨hmark, h⟩ := List.cons.inj h
  have hlength : e.sign.toList.length = f.sign.toList.length := by
    rw [← e.signLength_append [], ← f.signLength_append [], List.append_nil, List.append_nil, h]
  obtain ⟨hsign, hdigits⟩ := List.append_inj h hlength
  have hhead := congrArg List.head? hsign
  rw [Option.head?_toList, Option.head?_toList] at hhead
  exact Exponent.ext hmark hhead (Digits.ext hdigits)

theorem exponentLength_append (e : Exponent) (rest : List Char) :
    exponentLength (e.chars ++ rest) = e.chars.length + digitsLength rest := by
  have hpos := e.digits.length_pos
  have hdrop : (e.sign.toList ++ (e.digits.chars ++ rest)).drop e.sign.toList.length =
      e.digits.chars ++ rest := List.drop_left
  simp only [chars, List.cons_append, List.append_assoc, exponentLength, if_pos e.mark_eq,
    signLength_append, hdrop, Digits.digitsLength_append, List.length_cons, List.length_append]
  rw [if_neg (by omega)]
  omega

theorem exists_append {input : List Char} (h : exponentLength input ≠ 0) :
    ∃ (e : Exponent) (later : List Char), input = e.chars ++ later ∧ digitsLength later = 0 := by
  cases input with
  | nil => exact absurd rfl h
  | cons c input =>
    by_cases hmark : c = 'e' ∨ c = 'E'
    · have hdigits : digitsLength (input.drop (signLength input)) ≠ 0 := by
        intro hzero
        exact h (by simp only [exponentLength, if_pos hmark, if_pos hzero])
      obtain ⟨sign, hsign, hinput⟩ := exists_sign input
      obtain ⟨d, later, hrest, hlater⟩ := Digits.exists_append hdigits
      refine ⟨⟨c, hmark, sign, hsign, d⟩, later, ?_, hlater⟩
      rw [hinput, hrest, chars, List.cons_append, List.append_assoc]
    · exact absurd (by simp only [exponentLength, if_neg hmark]) h

def rule : PartRule Exponent where
  chars := chars
  chars_injective := eq_of_chars
  reach := exponentLength
  further _ := digitsLength
  reach_append := exponentLength_append
  exists_append := exists_append

end Exponent

def fractionRule : PartRule (Option Digits) :=
  Digits.pointRule.optional fun _ => List.cons_ne_nil _ _

def exponentRule : PartRule (Option Exponent) :=
  Exponent.rule.optional fun _ => List.cons_ne_nil _ _

/-- An exponent begins with a character that no part before it takes. -/
theorem exponent_eq_none {fraction : Option Digits} {exponent : Option Exponent}
    {rest : List Char}
    (h : fractionRule.further fraction (exponentChars exponent ++ rest) ≠ 0) :
    exponent = none := by
  cases exponent with
  | none => rfl
  | some e =>
    cases fraction with
    | none => exact absurd (Scanning.fractionLength_of_ne e.mark_ne_point _) h
    | some d => exact absurd (digitsLength_of_not_digit e.mark_not_digit _) h

namespace Numeral

/-- With `later` behind it, no part of the number goes further than it does. -/
structure Complete (n : Numeral) (later : List Char) : Prop where
  whole : Digits.rule.further n.whole
    (fractionChars n.fraction ++ (exponentChars n.exponent ++ later)) = 0
  fraction : fractionRule.further n.fraction (exponentChars n.exponent ++ later) = 0
  exponent : exponentRule.further n.exponent later = 0

theorem chars_append (n : Numeral) (later : List Char) :
    n.chars ++ later =
      n.whole.chars ++ (fractionChars n.fraction ++ (exponentChars n.exponent ++ later)) := by
  simp only [chars, List.append_assoc]

theorem exists_complete {input : List Char} (h : digitsLength input ≠ 0) :
    ∃ (n : Numeral) (later : List Char), input = n.chars ++ later ∧ n.Complete later := by
  obtain ⟨whole, rest, rfl, hwhole⟩ := Digits.exists_append h
  obtain ⟨fraction, rest, rfl, hfraction⟩ :=
    Digits.pointRule.exists_optional (fun _ => List.cons_ne_nil _ _) rest
  obtain ⟨exponent, later, rfl, hexponent⟩ :=
    Exponent.rule.exists_optional (fun _ => List.cons_ne_nil _ _) rest
  let n : Numeral := ⟨whole, fraction, exponent⟩
  exact ⟨n, later, (n.chars_append later).symm, hwhole, hfraction, hexponent⟩

/-- Neither a fraction nor an exponent begins with a digit. -/
theorem parts_eq_none {m : Numeral} {rest : List Char}
    (h : digitsLength (fractionChars m.fraction ++ (exponentChars m.exponent ++ rest)) ≠ 0) :
    m.fraction = none ∧ m.exponent = none := by
  have hfraction : m.fraction = none := by
    cases hm : m.fraction with
    | none => rfl
    | some d =>
      rw [hm] at h
      exact absurd (digitsLength_of_not_digit (by decide) _) h
  rw [hfraction] at h
  have hdigits : fractionRule.further (some m.whole) (exponentChars m.exponent ++ rest) ≠ 0 := h
  exact ⟨hfraction, exponent_eq_none hdigits⟩

theorem length_chars (n : Numeral) : n.chars.length = (Digits.rule.chars n.whole).length +
    ((fractionRule.chars n.fraction).length + (exponentRule.chars n.exponent).length) := by
  rw [chars, List.length_append, List.length_append]
  rfl

/-- Every other number that the input begins with is shorter than the complete one. -/
theorem Complete.eq_or_shorter {n m : Numeral} {later rest : List Char} (hn : n.Complete later)
    (h : m.chars ++ rest = n.chars ++ later) : m = n ∨ m.chars.length < n.chars.length := by
  have hnoFraction : (fractionRule.chars none).length = 0 := rfl
  have hnoExponent : (exponentRule.chars none).length = 0 := rfl
  rw [chars_append, chars_append] at h
  rw [length_chars, length_chars]
  rcases Digits.rule.eq_or_shorter h hn.whole with ⟨hwhole, h⟩ | ⟨hshorter, hmore⟩
  · rcases fractionRule.eq_or_shorter h hn.fraction with ⟨hfraction, h⟩ | ⟨hshorter, hmore⟩
    · rcases exponentRule.eq_or_shorter h hn.exponent with ⟨hexponent, -⟩ | ⟨hshorter, -⟩
      · exact .inl (Numeral.ext hwhole hfraction hexponent)
      · right
        rw [hwhole, hfraction]
        omega
    · right
      rw [hwhole, exponent_eq_none hmore]
      omega
  · right
    obtain ⟨hfraction, hexponent⟩ := parts_eq_none hmore
    rw [hfraction, hexponent]
    omega

theorem chars_ne_nil (n : Numeral) : n.chars ≠ [] := by
  intro hnil
  exact n.whole.ne_nil (List.append_eq_nil_iff.mp hnil).1

theorem length_fractionChars_ne_zero_iff (fraction : Option Digits) :
    (fractionChars fraction).length ≠ 0 ↔ fraction.isSome = true := by
  cases fraction <;> simp [fractionChars]

theorem length_exponentChars_ne_zero_iff (exponent : Option Exponent) :
    (exponentChars exponent).length ≠ 0 ↔ exponent.isSome = true := by
  cases exponent <;> simp [exponentChars, Exponent.chars]

theorem literal_eq (n : Numeral) : n.literal =
    if (exponentChars n.exponent).length ≠ 0 then .float .scientific
    else if (fractionChars n.fraction).length ≠ 0 then .float .simple else .integer := by
  simp only [length_fractionChars_ne_zero_iff, length_exponentChars_ne_zero_iff, literal]
  cases n.fraction <;> cases n.exponent <;> rfl

theorem Complete.number_eq {n : Numeral} {c : Char} {input later : List Char}
    (hn : n.Complete later) (h : c :: input = n.chars ++ later) :
    number input = (n.literal, n.chars.length - 1) := by
  obtain ⟨d, digits, hchars, hd⟩ := n.whole.exists_cons
  rw [chars_append, hchars, List.cons_append] at h
  obtain ⟨rfl, hinput⟩ := List.cons.inj h
  have hdigits : digitsLength input = digits.length := by
    have hwhole := Digits.rule.reach_append n.whole
      (fractionChars n.fraction ++ (exponentChars n.exponent ++ later))
    rw [hn.whole] at hwhole
    change digitsLength (n.whole.chars ++ _) = n.whole.chars.length at hwhole
    rw [hchars, List.cons_append, ← hinput, digitsLength, runLength_cons hd, List.length_cons,
      ← digitsLength] at hwhole
    omega
  have hfraction : fractionLength (input.drop digits.length) =
      (fractionChars n.fraction).length := by
    rw [hinput, List.drop_left]
    exact (fractionRule.reach_append _ _).trans (congrArg _ hn.fraction)
  have hexponent : exponentLength
      (input.drop (digits.length + (fractionChars n.fraction).length)) =
        (exponentChars n.exponent).length := by
    rw [hinput, ← List.drop_drop, List.drop_left, List.drop_left]
    exact (exponentRule.reach_append _ _).trans (congrArg _ hn.exponent)
  have hlength : n.chars.length - 1 = digits.length + (fractionChars n.fraction).length +
      (exponentChars n.exponent).length := by
    simp only [chars, hchars, List.length_append, List.length_cons]
    omega
  rw [number, hdigits, hfraction, hexponent, ← literal_eq, hlength]

end Numeral

end Scan

open Scan

/-- At a digit the scan takes the longest number that the input begins with, whose parts are the
only ones it has, and nothing behind it. -/
theorem numbers_are_longest {source : Source} {v : Vocabulary} {found : List Event}
    {before : Cursor} {passed input : List Char} {c : Char}
    (h : source.LexemeAhead v found before passed c input) (hdigit : c.isDigit = true)
    (hquote : v.isQuote c = false) :
    ∃ (n : Numeral) (later : List Char), c :: input = n.chars ++ later ∧
      (∀ (m : Numeral) (rest : List Char), c :: input = m.chars ++ rest →
        m = n ∨ m.chars.length < n.chars.length) ∧
      source.GoesOn v found before
        (.token ⟨.literal n.literal, String.ofList n.chars, .behind passed⟩) later := by
  have hdigits : digitsLength (c :: input) ≠ 0 := by
    rw [digitsLength, runLength_cons hdigit]
    omega
  obtain ⟨n, later, hinput, hn⟩ := Numeral.exists_complete hdigits
  refine ⟨n, later, hinput, ?_, ?_⟩
  · intro m rest hm
    exact hn.eq_or_shorter (hm.symm.trans hinput)
  · have hlexeme : lexeme v c input = (.token (.literal n.literal), n.chars.length - 1) := by
      simp [lexeme, hquote, hdigit, hn.number_eq hinput]
    exact h.goesOn_behind hinput n.chars_ne_nil hlexeme rfl

/-- A fraction, and an exponent mark with a sign that no digit follows. -/
theorem numbers_are_longest_cut :
    ∃ v, Language.standard.compile = .ok v ∧ ∃ (n : Numeral) (later : List Char),
      ['1', '.', '5', 'e', '+', 'x'] = n.chars ++ later ∧
        (∀ (m : Numeral) (rest : List Char), ['1', '.', '5', 'e', '+', 'x'] = m.chars ++ rest →
          m = n ∨ m.chars.length < n.chars.length) ∧
        Source.GoesOn ⟨"input", "1.5e+x"⟩ v [] (.start none "1.5e+x".toList)
          (.token ⟨.literal n.literal, String.ofList n.chars, ⟨1, 1⟩⟩) later := by
  obtain ⟨v, hv, hquote, hignored⟩ := Language.standard_satisfies (p := fun v =>
    v.isQuote '1' = false ∧ ignored? v '1' ['.', '5', 'e', '+', 'x'] = none) (by decide +kernel)
  have hpoint := Source.lexemeAhead_start ⟨"input", "1.5e+x"⟩ rfl hignored
  exact ⟨v, hv, numbers_are_longest hpoint (by decide) hquote⟩

end SourceCheck
