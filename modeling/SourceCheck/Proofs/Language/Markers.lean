import SourceCheck.Language.Vocabulary
import SourceCheck.Proofs.Text.Slices

/-!
Markers at the beginning of the input. Of all operators that the input begins with the longest one
counts, in whatever order they are listed and how often: trying them in the order of the table finds
it first.
-/

namespace SourceCheck

namespace Marker

variable {m n : Marker} {input : List Char}

theorem begins_iff : m.begins input = true ↔ ∃ later, input = m.chars ++ later := by
  rw [begins, List.isPrefixOf_iff_prefix]
  exact ⟨fun ⟨later, h⟩ => ⟨later, h.symm⟩, fun ⟨later, h⟩ => ⟨later, h.symm⟩⟩

theorem begins_cons {c : Char} (h : m.begins (c :: input) = true) :
    ∃ later, c :: input = m.chars ++ later ∧ input = m.rest ++ later := by
  obtain ⟨later, hinput⟩ := begins_iff.mp h
  exact ⟨later, hinput, (List.cons.inj hinput).2⟩

theorem begins_nil (m : Marker) : m.begins [] = false := rfl

@[simp] theorem length_chars (m : Marker) : m.chars.length = m.rest.length + 1 := rfl

theorem begins_of_begins {shorter : List Char} (h : m.begins shorter = true)
    (hshorter : shorter <+: input) : m.begins input = true := by
  rw [begins, List.isPrefixOf_iff_prefix] at h ⊢
  exact h.trans hshorter

/-- Of two markers that begin the same input the shorter one begins the other. -/
theorem chars_prefix_of_begins (hm : m.begins input = true) (hn : n.begins input = true)
    (hlength : m.rest.length ≤ n.rest.length) : m.chars <+: n.chars := by
  rw [begins, List.isPrefixOf_iff_prefix] at hm hn
  apply List.prefix_of_prefix_length_le hm hn
  simp only [length_chars]
  omega

theorem eq_of_begins (hm : m.begins input = true) (hn : n.begins input = true)
    (hlength : m.rest.length = n.rest.length) : m = n := by
  have hprefix := chars_prefix_of_begins hm hn (Nat.le_of_eq hlength)
  have hchars : m.chars = n.chars :=
    hprefix.eq_of_length (by simp only [length_chars]; omega)
  obtain ⟨first, rest⟩ := m
  obtain ⟨first', rest'⟩ := n
  obtain ⟨rfl, rfl⟩ := List.cons.inj hchars
  rfl

theorem le_longer_left (m n : Marker) : m.rest.length ≤ (m.longer n).rest.length := by
  unfold longer
  split <;> omega

theorem le_longer_right (m n : Marker) : n.rest.length ≤ (m.longer n).rest.length := by
  unfold longer
  split <;> omega

theorem longer_eq_or (m n : Marker) : m.longer n = m ∨ m.longer n = n := by
  unfold longer
  split
  · exact .inr rfl
  · exact .inl rfl

theorem precedes_iff : m.precedes n = true ↔
    Text.byteLength n.chars < Text.byteLength m.chars ∨
      (Text.byteLength n.chars = Text.byteLength m.chars ∧ m.text ≤ n.text) := by
  simp [precedes]

theorem precedes_trans (a b c : Marker) (hab : a.precedes b = true) (hbc : b.precedes c = true) :
    a.precedes c = true := by
  rw [precedes_iff] at *
  rcases hab with hab | ⟨hab, htext⟩
  · rcases hbc with hbc | ⟨hbc, -⟩ <;> exact .inl (by omega)
  · rcases hbc with hbc | ⟨hbc, htext'⟩
    · exact .inl (by omega)
    · exact .inr ⟨by omega, String.le_trans htext htext'⟩

theorem precedes_total (a b : Marker) : (a.precedes b || b.precedes a) = true := by
  rw [Bool.or_eq_true, precedes_iff, precedes_iff]
  rcases Nat.lt_trichotomy (Text.byteLength a.chars) (Text.byteLength b.chars) with h | h | h
  · exact .inr (.inl h)
  · rcases String.le_total a.text b.text with htext | htext
    · exact .inl (.inr ⟨h.symm, htext⟩)
    · exact .inr (.inr ⟨h, htext⟩)
  · exact .inl (.inl h)

/-- Of two markers that begin the same input the one that is tried first is the longer one. -/
theorem le_of_precedes (hm : m.begins input = true) (hn : n.begins input = true)
    (h : m.precedes n = true) : n.rest.length ≤ m.rest.length := by
  have hbytes : Text.byteLength n.chars ≤ Text.byteLength m.chars := by
    rcases precedes_iff.mp h with hless | ⟨hsame, -⟩ <;> omega
  by_cases hle : m.rest.length ≤ n.rest.length
  · have hlength := Text.length_le_of_byteLength_le (chars_prefix_of_begins hm hn hle) hbytes
    simpa using hlength
  · omega

end Marker

theorem find?_eraseReps_loop {α : Type} [BEq α] [LawfulBEq α] (p : α → Bool) (a : α)
    (later found : List α) : (List.eraseRepsBy.loop (· == ·) a later found).find? p =
      (found.reverse ++ a :: later).find? p := by
  induction later generalizing a found with
  | nil => simp [List.eraseRepsBy.loop]
  | cons b later ih =>
    by_cases h : (a == b) = true
    · have hab : a = b := eq_of_beq h
      subst hab
      simp only [List.eraseRepsBy.loop, h, ih, List.find?_append, List.find?_cons]
      cases p a <;> rfl
    · simp only [List.eraseRepsBy.loop, h, ih]
      simp

theorem find?_eraseReps {α : Type} [BEq α] [LawfulBEq α] (p : α → Bool) (as : List α) :
    as.eraseReps.find? p = as.find? p := by
  cases as with
  | nil => rfl
  | cons a as => exact find?_eraseReps_loop p a as []

namespace Vocabulary

variable {v : Vocabulary} {m : Marker} {input : List Char}

theorem lineComment?_begins (h : v.lineComment? input = some m) : m.begins input = true := by
  exact List.find?_some (p := fun m : Marker => m.begins input) h

theorem lineComment?_none_iff :
    v.lineComment? input = none ↔ ∀ m ∈ v.lineComments, m.begins input = false := by
  simp only [lineComment?, List.find?_eq_none, Bool.not_eq_true]

theorem lineComment?_nil (v : Vocabulary) : v.lineComment? [] = none := by
  simp [lineComment?_none_iff, Marker.begins_nil]

theorem longest_none_iff {operators : List Marker} :
    operators.foldr (fun m best =>
        if m.begins input then some (best.elim m m.longer) else best) none = none ↔
      ∀ n ∈ operators, n.begins input = false := by
  induction operators with
  | nil => simp
  | cons first operators ih =>
    rw [List.foldr_cons, List.forall_mem_cons, ← ih]
    cases first.begins input <;> simp

theorem operator?_none_iff :
    v.operator? input = none ↔ ∀ n ∈ v.operators, n.begins input = false := longest_none_iff

theorem operator?_spec (h : v.operator? input = some m) :
    m ∈ v.operators ∧ m.begins input = true ∧
      ∀ n ∈ v.operators, n.begins input = true → n.rest.length ≤ m.rest.length := by
  unfold operator? at h
  generalize v.operators = operators at h ⊢
  induction operators generalizing m with
  | nil => cases h
  | cons first operators ih =>
    rw [List.foldr_cons] at h
    cases hbest : operators.foldr (fun m best =>
        if m.begins input then some (best.elim m m.longer) else best) none with
    | none =>
      have hnone := longest_none_iff.mp hbest
      rw [hbest] at h
      by_cases hfirst : first.begins input = true
      · rw [if_pos hfirst] at h
        obtain rfl : first = m := Option.some.inj h
        refine ⟨List.mem_cons_self, hfirst, List.forall_mem_cons.mpr ⟨fun _ => Nat.le_refl _, ?_⟩⟩
        intro n hn hbegins
        rw [hnone n hn] at hbegins
        cases hbegins
      · rw [if_neg hfirst] at h
        cases h
    | some best =>
      obtain ⟨hmem, hbegins, hlongest⟩ := ih hbest
      rw [hbest] at h
      by_cases hfirst : first.begins input = true
      · rw [if_pos hfirst] at h
        obtain rfl : first.longer best = m := Option.some.inj h
        have hchosen : first.longer best ∈ first :: operators ∧
            (first.longer best).begins input = true := by
          rcases Marker.longer_eq_or first best with heq | heq <;> rw [heq]
          · exact ⟨List.mem_cons_self, hfirst⟩
          · exact ⟨List.mem_cons_of_mem first hmem, hbegins⟩
        refine ⟨hchosen.1, hchosen.2, ?_⟩
        refine List.forall_mem_cons.mpr ⟨fun _ => Marker.le_longer_left first best, ?_⟩
        intro n hn hnbegins
        exact Nat.le_trans (hlongest n hn hnbegins) (Marker.le_longer_right first best)
      · rw [if_neg hfirst] at h
        obtain rfl : best = m := Option.some.inj h
        exact ⟨List.mem_cons_of_mem first hmem, hbegins, List.forall_mem_cons.mpr
          ⟨fun hbegins => absurd hbegins hfirst, hlongest⟩⟩

theorem operator?_begins (h : v.operator? input = some m) : m.begins input = true :=
  (operator?_spec h).2.1

theorem operator?_eq_some_iff : v.operator? input = some m ↔
    m ∈ v.operators ∧ m.begins input = true ∧
      ∀ n ∈ v.operators, n.begins input = true → n.rest.length ≤ m.rest.length := by
  constructor
  · exact operator?_spec
  · rintro ⟨hmem, hbegins, hlongest⟩
    cases hfound : v.operator? input with
    | none =>
      rw [operator?_none_iff.mp hfound m hmem] at hbegins
      cases hbegins
    | some n =>
      obtain ⟨hn, hnbegins, hlonger⟩ := operator?_spec hfound
      have hle := hlongest n hn hnbegins
      have hge := hlonger m hmem hbegins
      rw [Marker.eq_of_begins hnbegins hbegins (by omega)]

/-- The first match in the table is the longest match of all. -/
theorem firstOperator?_eq (v : Vocabulary) (input : List Char) :
    v.firstOperator? input = v.operator? input := by
  rw [firstOperator?, v.operatorTable_eq, Marker.table, find?_eraseReps]
  have hsorted := List.pairwise_mergeSort Marker.precedes_trans Marker.precedes_total v.operators
  have hsame : ∀ n, n ∈ v.operators.mergeSort Marker.precedes ↔ n ∈ v.operators :=
    fun n => List.mem_mergeSort
  generalize v.operators.mergeSort Marker.precedes = table at hsorted hsame ⊢
  cases hfound : table.find? fun m => m.begins input with
  | none =>
    symm
    apply operator?_none_iff.mpr
    intro n hn
    exact Bool.eq_false_iff.mpr (List.find?_eq_none.mp hfound n ((hsame n).mpr hn))
  | some m =>
    symm
    obtain ⟨hbegins, before, behind, rfl, hbefore⟩ := List.find?_eq_some_iff_append.mp hfound
    refine operator?_eq_some_iff.mpr ⟨(hsame m).mp (by simp), hbegins, ?_⟩
    intro n hn hnbegins
    rcases List.mem_append.mp ((hsame n).mpr hn) with hmem | hmem
    · have hnot := hbefore n hmem
      rw [hnbegins] at hnot
      cases hnot
    rcases List.mem_cons.mp hmem with rfl | hlater
    · exact Nat.le_refl _
    · have horder := List.rel_of_pairwise_cons (List.pairwise_append.mp hsorted).2.1 hlater
      exact Marker.le_of_precedes hbegins hnbegins horder

end Vocabulary

end SourceCheck
