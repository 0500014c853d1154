import Mathlib.Algebra.Group.Nat.Defs
import SourceCheck.Text.Decimal
import SourceCheck.Text.Escape

/-!
Integers and texts as they are written. No two integers have the same digits, and no two texts the
same escaped form: where the form of a character ends can be told from the form, and a mark is read
back alike whether it was kept or given by its code point.
-/

namespace SourceCheck.Text

/-- A text that can be told from the spaces and newlines around it. -/
structure IsWord (word : List Char) : Prop where
  ne_nil : word ≠ []
  space_not_mem : ' ' ∉ word
  newline_not_mem : '\n' ∉ word

section Runs

variable {stop : Char} {run other : List Char}

theorem takeWhile_run (h : stop ∉ run) (rest : List Char) :
    (run ++ stop :: rest).takeWhile (· ≠ stop) = run := by
  have hrun : ∀ c ∈ run, decide (c ≠ stop) := fun c hc =>
    decide_eq_true (ne_of_mem_of_not_mem hc h)
  rw [List.takeWhile_append_of_pos hrun, List.takeWhile_cons_of_neg (by simp), List.append_nil]

theorem dropWhile_run (h : stop ∉ run) (rest : List Char) :
    (run ++ stop :: rest).dropWhile (· ≠ stop) = stop :: rest := by
  have hrun : ∀ c ∈ run, decide (c ≠ stop) := fun c hc =>
    decide_eq_true (ne_of_mem_of_not_mem hc h)
  rw [List.dropWhile_append_of_pos hrun, List.dropWhile_cons_of_neg (by simp)]

/-- The first stop tells where a run ends. -/
theorem run_append_inj {rest later : List Char} (h : stop ∉ run) (k : stop ∉ other)
    (heq : run ++ stop :: rest = other ++ stop :: later) : run = other ∧ rest = later := by
  have hrun : run = other := by
    rw [← takeWhile_run h rest, heq, takeWhile_run k]
  subst hrun
  exact ⟨rfl, (List.cons.inj (List.append_cancel_left heq)).2⟩

end Runs

section Digits

variable {b m n : Nat} {c : Char}

theorem digitChar_injective : ∀ d < 16, ∀ e < 16, d.digitChar = e.digitChar → d = e := by
  decide

theorem toDigits_injective (hb : 1 < b) (hsmall : b ≤ 16)
    (h : Nat.toDigits b m = Nat.toDigits b n) : m = n := by
  induction m using Nat.strongRecOn generalizing n with
  | ind m ih =>
    rw [Nat.toDigits_eq_if hb (n := m), Nat.toDigits_eq_if hb (n := n)] at h
    by_cases hm : m < b <;> by_cases hn : n < b
    · rw [if_pos hm, if_pos hn] at h
      exact digitChar_injective m (by omega) n (by omega) (List.cons.inj h).1
    · rw [if_pos hm, if_neg hn, ← List.nil_append [m.digitChar]] at h
      exact absurd (List.append_inj' h rfl).1.symm Nat.toDigits_ne_nil
    · rw [if_neg hm, if_pos hn, ← List.nil_append [n.digitChar]] at h
      exact absurd (List.append_inj' h rfl).1 Nat.toDigits_ne_nil
    · rw [if_neg hm, if_neg hn] at h
      obtain ⟨hfront, hlast⟩ := List.append_inj' h rfl
      have hquotient := ih (m / b) (Nat.div_lt_self (by omega) hb) hfront
      have hless (k : Nat) : k % b < 16 := Nat.lt_of_lt_of_le (Nat.mod_lt k (by omega)) hsmall
      have hremainder := digitChar_injective (m % b) (hless m) (n % b) (hless n)
        (List.cons.inj hlast).1
      rw [← Nat.div_add_mod m b, hquotient, hremainder, Nat.div_add_mod]

theorem not_mem_toDigits (hb : 1 < b) (hc : ∀ d, Nat.digitChar d ≠ c) : c ∉ Nat.toDigits b n := by
  induction n using Nat.base_induction b hb with
  | single d hd =>
    rw [Nat.toDigits_of_lt_base hd, List.mem_singleton]
    exact (hc d).symm
  | digit m d hd hm ih =>
    rw [← Nat.toDigits_append_toDigits hb hm hd, Nat.toDigits_of_lt_base hd, List.mem_append,
      List.mem_singleton]
    exact not_or.mpr ⟨ih, (hc d).symm⟩

end Digits

section Decimal

/-- Only a negative integer begins with a sign. -/
theorem decimal_ofNat_ne_negSucc (m n : Nat) : decimal (.ofNat m) ≠ decimal (.negSucc n) := by
  intro h
  have hdigits : Nat.toDigits 10 m = '-' :: Nat.toDigits 10 (n + 1) := h
  have hminus : '-' ∈ Nat.toDigits 10 m := by
    rw [hdigits]
    exact List.mem_cons_self
  exact not_mem_toDigits (by decide) (fun d => by simp) hminus

theorem decimal_injective : Function.Injective decimal := by
  intro m n h
  cases m with
  | ofNat m =>
    cases n with
    | ofNat n => rw [toDigits_injective (by decide) (by decide) h]
    | negSucc n => exact absurd h (decimal_ofNat_ne_negSucc m n)
  | negSucc m =>
    cases n with
    | ofNat n => exact absurd h.symm (decimal_ofNat_ne_negSucc n m)
    | negSucc n =>
      have hdigits := toDigits_injective (by decide) (by decide) (List.cons.inj h).2
      rw [Nat.succ.inj hdigits]

theorem isWord_decimal (n : Int) : IsWord (decimal n) := by
  have hspace (n : Nat) : ' ' ∉ Nat.toDigits 10 n := not_mem_toDigits (by decide) fun d => by simp
  have hnewline (n : Nat) : '\n' ∉ Nat.toDigits 10 n :=
    not_mem_toDigits (by decide) fun d => by simp
  cases n with
  | ofNat n => exact ⟨Nat.toDigits_ne_nil, hspace n, hnewline n⟩
  | negSucc n =>
    refine ⟨List.cons_ne_nil _ _, ?_, ?_⟩
    · exact List.not_mem_cons_of_ne_of_not_mem (by decide) (hspace (n + 1))
    · exact List.not_mem_cons_of_ne_of_not_mem (by decide) (hnewline (n + 1))

theorem length_decimal_le_iff {n : Int} {k : Nat} (hk : 0 < k) :
    (decimal n).length ≤ k + 1 ↔ -(10 ^ k : Nat) < n ∧ n < (10 ^ (k + 1) : Nat) := by
  cases n with
  | ofNat n =>
    have hlength : (decimal (.ofNat n)).length ≤ k + 1 ↔ n < 10 ^ (k + 1) :=
      Nat.length_toDigits_le_iff (by decide) (by omega)
    have hpositive : 0 < 10 ^ k := Nat.pow_pos (by decide)
    rw [hlength, Int.ofNat_eq_natCast]
    omega
  | negSucc n =>
    have hlength : (decimal (.negSucc n)).length ≤ k + 1 ↔ n + 1 < 10 ^ k :=
      Nat.succ_le_succ_iff.trans (Nat.length_toDigits_le_iff (by decide) hk)
    rw [hlength]
    omega

end Decimal

section Escape

variable {c d : Char} {form other rest later : List Char}

def escapeLetters : List (Char × Char) :=
  [('\x00', '0'), ('\t', 't'), ('\r', 'r'), ('\n', 'n'), ('\\', '\\'), ('\'', '\''), ('\"', '\"')]

inductive Escaped (c : Char) : List Char → Prop where
  | plain (hescape : c ≠ '\\') (hline : c ≠ '\n') : Escaped c [c]
  | letter {code : Char} (hcode : (c, code) ∈ escapeLetters) : Escaped c ['\\', code]
  | codePoint : Escaped c (codePointEscape c)

theorem escaped_escape (style : EscapeStyle) (c : Char) : Escaped c (escape style c) := by
  fun_cases escape style c with
  | case1 h | case2 _ h | case3 _ _ h | case4 _ _ _ h | case5 _ _ _ _ h =>
    subst h
    exact .letter (by decide)
  | case6 _ _ _ _ _ h | case7 _ _ _ _ _ _ h =>
    obtain ⟨rfl, -⟩ := h
    exact .letter (by decide)
  | case8 | case10 => exact .codePoint
  | case9 _ _ _ hline hescape => exact .plain hescape hline

theorem Escaped.ne_nil (h : Escaped c form) : form ≠ [] := by
  cases h <;> exact List.cons_ne_nil _ _

theorem Escaped.newline_not_mem (h : Escaped c form) : '\n' ∉ form := by
  cases h with
  | plain hescape hline => exact fun h => hline (List.mem_singleton.mp h).symm
  | letter hcode =>
    have hletters : ∀ p ∈ escapeLetters, '\n' ∉ ['\\', p.2] := by decide
    exact hletters _ hcode
  | codePoint =>
    have hdigits : '\n' ∉ Nat.toDigits 16 c.toNat := not_mem_toDigits (by decide) fun d => by simp
    simpa [codePointEscape] using hdigits

theorem codePointEscape_append (c : Char) (rest : List Char) :
    codePointEscape c ++ rest =
      '\\' :: 'u' :: '\x7b' :: (Nat.toDigits 16 c.toNat ++ '\x7d' :: rest) := by
  simp [codePointEscape]

theorem codePoint_append_inj (h : codePointEscape c ++ rest = codePointEscape d ++ later) :
    c = d ∧ rest = later := by
  have hbrace (n : Nat) : '\x7d' ∉ Nat.toDigits 16 n :=
    not_mem_toDigits (by decide) fun d => by simp
  rw [codePointEscape_append, codePointEscape_append] at h
  simp only [List.cons.injEq, true_and] at h
  obtain ⟨hdigits, hrest⟩ := run_append_inj (hbrace _) (hbrace _) h
  have hcode := toDigits_injective (by decide) (by decide) hdigits
  exact ⟨Char.toNat_inj.mp hcode, hrest⟩

/-- What follows the form of a character begins where the form ends, and no other character has
that form. -/
theorem Escaped.append_inj (h : Escaped c form) (k : Escaped d other)
    (heq : form ++ rest = other ++ later) : c = d ∧ rest = later := by
  have hletters : ∀ p ∈ escapeLetters, ∀ q ∈ escapeLetters, p.2 = q.2 → p.1 = q.1 := by decide
  have hu : ∀ p ∈ escapeLetters, p.2 ≠ 'u' := by decide
  cases h with
  | plain hescape =>
    cases k with
    | plain => exact List.cons.inj heq
    | letter | codePoint => exact absurd (List.cons.inj heq).1 hescape
  | letter hcode =>
    cases k with
    | plain hescape => exact absurd (List.cons.inj heq).1.symm hescape
    | letter hother =>
      obtain ⟨hletter, hrest⟩ := List.cons.inj (List.cons.inj heq).2
      exact ⟨hletters _ hcode _ hother hletter, hrest⟩
    | codePoint => exact absurd (List.cons.inj (List.cons.inj heq).2).1 (hu _ hcode)
  | codePoint =>
    cases k with
    | plain hescape => exact absurd (List.cons.inj heq).1.symm hescape
    | letter hother => exact absurd (List.cons.inj (List.cons.inj heq).2).1.symm (hu _ hother)
    | codePoint => exact codePoint_append_inj heq

theorem escape_append_inj {style : EscapeStyle}
    (h : escape style c ++ rest = escape style d ++ later) : c = d ∧ rest = later :=
  (escaped_escape style c).append_inj (escaped_escape style d) h

theorem escape_append_ne_nil (style : EscapeStyle) (c : Char) (rest : List Char) :
    escape style c ++ rest ≠ [] := by
  intro h
  exact (escaped_escape style c).ne_nil (List.append_eq_nil_iff.mp h).1

theorem flatMap_escape_injective (style : EscapeStyle) :
    Function.Injective (List.flatMap (escape style)) := by
  intro text
  induction text with
  | nil =>
    intro other h
    cases other with
    | nil => rfl
    | cons d other => exact absurd h.symm (escape_append_ne_nil style d _)
  | cons c text ih =>
    intro other h
    cases other with
    | nil => exact absurd h (escape_append_ne_nil style c _)
    | cons d other =>
      rw [List.flatMap_cons, List.flatMap_cons] at h
      obtain ⟨hchar, hrest⟩ := escape_append_inj h
      rw [hchar, ih hrest]

/-- The first character has a style of its own, and so has the rest. -/
theorem escapeText_injective : Function.Injective escapeText := by
  intro text other h
  cases text with
  | nil =>
    cases other with
    | nil => rfl
    | cons d other => exact absurd h.symm (escape_append_ne_nil .full d _)
  | cons c text =>
    cases other with
    | nil => exact absurd h (escape_append_ne_nil .full c _)
    | cons d other =>
      obtain ⟨hchar, hrest⟩ := escape_append_inj h
      rw [hchar, flatMap_escape_injective .continued hrest]

theorem newline_not_mem_escapeText (text : List Char) : '\n' ∉ escapeText text := by
  cases text with
  | nil => exact List.not_mem_nil
  | cons c text =>
    rw [escapeText, List.mem_append, List.mem_flatMap]
    rintro (hfirst | ⟨d, -, hd⟩)
    · exact (escaped_escape .full c).newline_not_mem hfirst
    · exact (escaped_escape .continued d).newline_not_mem hd

end Escape

end SourceCheck.Text
