import Mathlib.Algebra.Order.Ring.Nat
import SourceCheck.Proofs.Json.Strings

/-!
Whole numbers in JSON text. The digits tell the number, where they end is told by what follows, and
a number that fits 64 bits is read without loss.
-/

namespace SourceCheck.Json.Lexeme

structure IsNatural (n : Nat) (digits : List Char) : Prop where
  ne_nil : digits ≠ []
  isDigit : ∀ c ∈ digits, c.isDigit = true
  head_zero : digits.head? = some '0' → digits = ['0']
  value : naturalOfDigits digits = n

inductive IsInteger : Int → List Char → Prop where
  | natural {n : Nat} {digits : List Char} (h : IsNatural n digits) : IsInteger n digits
  | negative {n : Nat} {digits : List Char} (h : IsNatural n digits) :
      IsInteger (-n) ('-' :: digits)

/-- What may stand behind a scalar: nothing, a space, or punctuation. -/
def Ended (rest : List Char) : Prop :=
  ∀ c ∈ rest.head?, isSpace c = true ∨ ∃ lexeme, Mark c lexeme

section Digits

variable {n : Nat} {digits rest : List Char}

theorem naturalOfDigits_toDigits (n : Nat) : naturalOfDigits (Nat.toDigits 10 n) = n :=
  Nat.ofDigitChars_ten_toDigits

theorem head?_toDigits (h : (Nat.toDigits 10 n).head? = some '0') : Nat.toDigits 10 n = ['0'] := by
  induction n using Nat.strongRecOn with
  | ind n ih =>
    rw [Nat.toDigits_eq_if (by decide)] at h ⊢
    by_cases hn : n < 10
    · rw [if_pos hn] at h ⊢
      rw [List.head?_cons] at h
      rw [Option.some.inj h]
    · have hsome : Nat.toDigits 10 (n / 10) ≠ [] := Nat.toDigits_ne_nil
      obtain ⟨first, later, hdigits⟩ := List.exists_cons_of_ne_nil hsome
      rw [if_neg hn, hdigits, List.cons_append, List.head?_cons, ← List.head?_cons (l := later),
        ← hdigits] at h
      have hzero := congrArg naturalOfDigits (ih (n / 10) (by omega) h)
      rw [naturalOfDigits_toDigits] at hzero
      change n / 10 = 0 at hzero
      omega

theorem isNatural_toDigits (n : Nat) : IsNatural n (Nat.toDigits 10 n) where
  ne_nil := Nat.toDigits_ne_nil
  isDigit _ hc := Nat.isDigit_of_mem_toDigits (by decide) (by decide) hc
  head_zero := head?_toDigits
  value := naturalOfDigits_toDigits n

theorem isInteger_decimal (n : Int) : IsInteger n (Text.decimal n) := by
  cases n with
  | ofNat n => exact .natural (isNatural_toDigits n)
  | negSucc n => exact .negative (isNatural_toDigits (n + 1))

theorem Ended.not_isDigit (h : Ended rest) : ∀ c ∈ rest.head?, c.isDigit = false := by
  intro c hc
  rcases h c hc with hspace | ⟨lexeme, hmark⟩
  · simp only [isSpace, Bool.or_eq_true, beq_iff_eq] at hspace
    obtain ((rfl | rfl) | rfl) | rfl := hspace <;> rfl
  · cases hmark <;> rfl

theorem Ended.not_continued (h : Ended rest) : ∀ c ∈ rest.head?, c ≠ '.' ∧ c ≠ 'e' ∧ c ≠ 'E' := by
  intro c hc
  rcases h c hc with hspace | ⟨lexeme, hmark⟩
  · simp only [isSpace, Bool.or_eq_true, beq_iff_eq] at hspace
    obtain ((rfl | rfl) | rfl) | rfl := hspace <;> decide
  · cases hmark <;> decide

theorem IsNatural.takeWhile (h : IsNatural n digits) (hrest : Ended rest) :
    (digits ++ rest).takeWhile Char.isDigit = digits := by
  rw [List.takeWhile_append_of_pos h.isDigit]
  cases rest with
  | nil => rw [List.takeWhile_nil, List.append_nil]
  | cons c rest =>
    have hc : ¬ c.isDigit = true := Bool.eq_false_iff.mp (hrest.not_isDigit c rfl)
    rw [List.takeWhile_cons_of_neg hc, List.append_nil]

end Digits

namespace Significand

theorem le_foldl_digits (digits : List Char) (n : Nat) :
    n ≤ digits.foldl (fun n d => 10 * n + digitValue d) n := by
  induction digits generalizing n with
  | nil => exact Nat.le_refl n
  | cons d digits ih =>
    have hlater := ih (10 * n + digitValue d)
    rw [List.foldl_cons]
    omega

theorem fits_iff {n : Nat} : fits n = true ↔ n < Nat.pow 2 64 := decide_eq_true_iff

theorem whole_of_fits {digits : List Char} {n : Nat}
    (h : fits (digits.foldl (fun n d => 10 * n + digitValue d) n) = true) :
    whole ⟨n, 0⟩ digits = ⟨digits.foldl (fun n d => 10 * n + digitValue d) n, 0⟩ := by
  induction digits generalizing n with
  | nil => rfl
  | cons d digits ih =>
    have hfirst : fits (10 * n + digitValue d) = true :=
      fits_iff.mpr (Nat.lt_of_le_of_lt (le_foldl_digits digits _) (fits_iff.mp h))
    rw [whole, if_pos ⟨rfl, hfirst⟩, List.foldl_cons]
    exact ih h

theorem round53_le (n : Nat) : round53 n ≤ n + Nat.pow 2 (Nat.log2 n + 1 - 53) := by
  simp only [round53]
  generalize Nat.pow 2 (Nat.log2 n + 1 - 53) = unit
  have hbelow : n / unit * unit ≤ n := Nat.div_mul_le_self n unit
  have hparity : n / unit % 2 ≤ 1 := Nat.le_of_lt_succ (Nat.mod_lt _ (by decide))
  have hnext : (n / unit + 1) * unit ≤ n + unit := by
    rw [Nat.add_mul, Nat.one_mul]
    exact Nat.add_le_add_right hbelow unit
  have hnearest : (n / unit + n / unit % 2) * unit ≤ n + unit :=
    Nat.le_trans (Nat.mul_le_mul_right unit (Nat.add_le_add_left hparity _)) hnext
  split
  · exact Nat.le_trans hbelow (Nat.le_add_right n unit)
  · split
    · exact hnearest
    · exact hnext

theorem round53_lt {n : Nat} (h : fits n = true) : round53 n < doubleLimit := by
  have hn := fits_iff.mp h
  have hlog : Nat.log2 n + 1 - 53 ≤ 64 := by
    by_cases hzero : n = 0
    · subst hzero
      decide
    · have hbits : Nat.log2 n < 64 := (Nat.log2_lt hzero).mpr hn
      omega
  have hunit : Nat.pow 2 (Nat.log2 n + 1 - 53) ≤ Nat.pow 2 64 :=
    Nat.pow_le_pow_right (by decide) hlog
  have hlimit : Nat.pow 2 64 + Nat.pow 2 64 ≤ doubleLimit := by decide +kernel
  exact Nat.lt_of_lt_of_le (Nat.lt_of_le_of_lt (round53_le n) (Nat.add_lt_add_of_lt_of_le hn hunit))
    hlimit

theorem not_overflows {n : Nat} (h : fits n = true) : overflows ⟨n, 0⟩ = false := by
  have hone : round53 (Nat.pow 10 0) = 1 := by decide
  have hlimit : ¬ doubleLimit ≤ round53 n * round53 (Nat.pow 10 (Int.toNat 0)) := by
    rw [Int.toNat_zero, hone, Nat.mul_one]
    exact Nat.not_le_of_lt (round53_lt h)
  rw [overflows, decide_eq_false hlimit]
  exact Bool.and_false _

end Significand

section Reading

variable {n : Nat} {z : Int} {digits form rest : List Char} {c : Char}

theorem unsigned?_natural (h : IsNatural n digits) (hn : Significand.fits n = true)
    (hrest : Ended rest) :
    unsigned? (digits ++ rest) = some (⟨n, 0⟩, digits.length) := by
  have hvalue : digits.foldl (fun n d => 10 * n + digitValue d) 0 = n := h.value
  have hwhole : Significand.whole ⟨0, 0⟩ digits = ⟨n, 0⟩ := by
    rw [Significand.whole_of_fits (by rwa [hvalue]), hvalue]
  have hdrop : (digits ++ rest).drop digits.length = rest := List.drop_left
  have hnonempty : ¬ digits.isEmpty = true := by simpa using h.ne_nil
  unfold unsigned?
  extract_lets +onlyGivenNames chosen
  have hchosen : chosen = digits := by
    unfold chosen
    split
    · next later hzero =>
      obtain ⟨d, others, rfl⟩ := List.exists_cons_of_ne_nil h.ne_nil
      exact (h.head_zero (congrArg List.head? hzero)).symm
    · exact h.takeWhile hrest
  clear_value chosen
  subst hchosen
  simp only [if_neg hnonempty, hwhole, hdrop]
  cases rest with
  | nil => simp [Significand.not_overflows hn]
  | cons c rest =>
    obtain ⟨hpoint, hlower, hupper⟩ := hrest.not_continued c rfl
    simp [Significand.not_overflows hn, hpoint, hlower, hupper]

theorem number?_integer (h : IsInteger z (c :: form)) (hz : Significand.fits z.natAbs = true)
    (hrest : Ended rest) :
    number? c (form ++ rest) = some (.scalar (.int z), form.length) := by
  cases h with
  | @natural n _ h =>
    have hsign : ¬ c = '-' := by
      rintro rfl
      cases h.isDigit _ List.mem_cons_self
    have hread := unsigned?_natural h hz hrest
    rw [List.cons_append] at hread
    rw [number?, if_neg hsign, hread]
    rfl
  | @negative n _ h =>
    have hn : Significand.fits n = true := by rwa [Int.natAbs_neg] at hz
    rw [number?, if_pos rfl, unsigned?_natural h hn hrest]
    rfl

theorem IsInteger.first (h : IsInteger z form) :
    ∃ c rest, form = c :: rest ∧ (c = '-' ∨ c.isDigit = true) := by
  cases h with
  | natural h =>
    obtain ⟨c, rest, rfl⟩ := List.exists_cons_of_ne_nil h.ne_nil
    exact ⟨c, rest, rfl, .inr (h.isDigit c List.mem_cons_self)⟩
  | negative h => exact ⟨_, _, rfl, .inl rfl⟩

theorem at?_number (hc : c = '-' ∨ c.isDigit = true) (rest : List Char) :
    at? c rest = number? c rest := by
  have hother : ∀ d, ¬ (d = '-' ∨ d.isDigit = true) → ¬ c = d := by
    rintro d hd rfl
    exact hd hc
  rw [at?, if_neg (hother '[' (by decide)), if_neg (hother ']' (by decide)),
    if_neg (hother '\x7b' (by decide)), if_neg (hother '\x7d' (by decide)),
    if_neg (hother ',' (by decide)), if_neg (hother ':' (by decide)),
    if_neg (hother '\"' (by decide)), if_pos hc]

theorem IsNatural.unique {m : Nat} {others later : List Char} (h : IsNatural n digits)
    (k : IsNatural m others) (hrest : Ended rest) (hlater : Ended later)
    (heq : digits ++ rest = others ++ later) : n = m ∧ rest = later := by
  have hdigits : digits = others := by
    rw [← h.takeWhile hrest, heq, k.takeWhile hlater]
  subst hdigits
  exact ⟨h.value.symm.trans k.value, List.append_cancel_left heq⟩

theorem IsNatural.ne_minus (h : IsNatural n digits) (others : List Char) :
    digits ++ rest ≠ '-' :: others := by
  obtain ⟨c, later, rfl⟩ := List.exists_cons_of_ne_nil h.ne_nil
  intro hminus
  obtain rfl : c = '-' := (List.cons.inj hminus).1
  cases h.isDigit _ List.mem_cons_self

theorem IsInteger.unique {other later : List Char} {y : Int} (h : IsInteger z form)
    (k : IsInteger y other) (hrest : Ended rest) (hlater : Ended later)
    (heq : form ++ rest = other ++ later) : z = y ∧ rest = later := by
  cases h with
  | natural hn =>
    cases k with
    | natural hm =>
      obtain ⟨rfl, hbehind⟩ := hn.unique hm hrest hlater heq
      exact ⟨rfl, hbehind⟩
    | negative hm => exact absurd heq (hn.ne_minus _)
  | negative hn =>
    cases k with
    | natural hm => exact absurd heq.symm (hm.ne_minus _)
    | negative hm =>
      obtain ⟨rfl, hbehind⟩ := hn.unique hm hrest hlater (List.cons.inj heq).2
      exact ⟨rfl, hbehind⟩

end Reading

end SourceCheck.Json.Lexeme
