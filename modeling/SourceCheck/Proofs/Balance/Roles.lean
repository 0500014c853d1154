import SourceCheck.Balance.Check

/-!
What the delimiters of a token sequence do. A character that opens some pair is an opener, with the
first such pair; a character that only closes pairs is a closer. A token acts by its first
character, and what the check does with it is one of a few moves on the open delimiters.
-/

namespace SourceCheck.Balance

variable {v : Vocabulary}

def IsOpener (v : Vocabulary) (c : Char) : Prop := ∃ pair ∈ v.pairs, pair.opening = c

def IsCloser (v : Vocabulary) (c : Char) : Prop :=
  ¬ IsOpener v c ∧ ∃ pair ∈ v.pairs, pair.closing = c

instance (v : Vocabulary) (c : Char) : Decidable (IsOpener v c) :=
  inferInstanceAs (Decidable (∃ pair ∈ v.pairs, pair.opening = c))

instance (v : Vocabulary) (c : Char) : Decidable (IsCloser v c) :=
  inferInstanceAs (Decidable (¬ IsOpener v c ∧ ∃ pair ∈ v.pairs, pair.closing = c))

theorem opening_of_openingPair? {c : Char} {pair : DelimiterPair}
    (h : v.openingPair? c = some pair) : pair.opening = c := by
  simpa using List.find?_some h

theorem isOpener_of_openingPair? {c : Char} {pair : DelimiterPair}
    (h : v.openingPair? c = some pair) : IsOpener v c :=
  ⟨pair, List.mem_of_find?_eq_some h, opening_of_openingPair? h⟩

theorem not_isOpener_of_openingPair? {c : Char} (h : v.openingPair? c = none) :
    ¬ IsOpener v c := by
  rintro ⟨pair, hmem, hopening⟩
  have hne := List.find?_eq_none.mp h pair hmem
  simp [hopening] at hne

theorem closingPair?_isSome (v : Vocabulary) (c : Char) :
    (v.closingPair? c).isSome = true ↔ ∃ pair ∈ v.pairs, pair.closing = c := by
  simp [Vocabulary.closingPair?, List.find?_isSome]

def character? (t : Token) : Option Char :=
  if t.kind = .delimiter then t.text.toList.head? else none

theorem character?_eq_some_iff {t : Token} {c : Char} :
    character? t = some c ↔ t.kind = .delimiter ∧ t.text.toList.head? = some c := by
  simp [character?]

theorem character?_of_singleton {t : Token} {c : Char} (hkind : t.kind = .delimiter)
    (htext : t.text = String.singleton c) : character? t = some c :=
  character?_eq_some_iff.mpr ⟨hkind, by rw [htext, String.toList_singleton, List.head?_cons]⟩

theorem isEnd_of_character? {t : Token} {c : Char} (hc : character? t = some c) :
    t.isEnd = false := by
  rw [Token.isEnd, (character?_eq_some_iff.mp hc).1]
  rfl

inductive Acts (v : Vocabulary) (t : Token) : Role → Prop where
  | opens {c : Char} {pair : DelimiterPair} (hc : character? t = some c)
      (hpair : v.openingPair? c = some pair) : Acts v t (.opens pair)
  | closes {c : Char} (hc : character? t = some c) (hcloser : IsCloser v c) :
      Acts v t (.closes c)
  | neutral (h : ∀ c, character? t = some c → ¬ IsOpener v c ∧ ¬ IsCloser v c) :
      Acts v t .neutral

theorem role_eq (v : Vocabulary) (t : Token) :
    role v t = (character? t).elim .neutral (characterRole v) := by
  unfold role character?
  split
  · next c text hkind htext => simp [hkind, htext]
  · next hnone =>
    by_cases hkind : t.kind = .delimiter
    · cases htext : t.text.toList with
      | nil => simp
      | cons c text => exact absurd htext (hnone c text hkind)
    · simp [hkind]

theorem role_acts (v : Vocabulary) (t : Token) : Acts v t (role v t) := by
  rw [role_eq]
  cases hc : character? t with
  | none => exact .neutral fun c h => by rw [hc] at h; cases h
  | some c =>
    rw [Option.elim_some, characterRole]
    cases hpair : v.openingPair? c with
    | some pair => exact .opens hc hpair
    | none =>
      have hopener := not_isOpener_of_openingPair? hpair
      by_cases hclosing : (v.closingPair? c).isSome = true
      · simp only [hclosing, ↓reduceIte]
        exact .closes hc ⟨hopener, (closingPair?_isSome v c).mp hclosing⟩
      · simp only [hclosing]
        refine .neutral fun d hd => ?_
        obtain rfl : c = d := Option.some.inj (hc.symm.trans hd)
        exact ⟨hopener, fun hcloser => hclosing ((closingPair?_isSome v c).mpr hcloser.2)⟩

theorem role_of_neutral {t : Token}
    (h : ∀ c, character? t = some c → ¬ IsOpener v c ∧ ¬ IsCloser v c) : role v t = .neutral := by
  have hacts := role_acts v t
  generalize role v t = r at hacts ⊢
  cases hacts with
  | neutral => rfl
  | opens hc hpair => exact absurd (isOpener_of_openingPair? hpair) (h _ hc).1
  | closes hc hcloser => exact absurd hcloser (h _ hc).2

theorem role_of_closer {t : Token} {c : Char} (hc : character? t = some c)
    (hcloser : IsCloser v c) : role v t = .closes c := by
  have hacts := role_acts v t
  generalize role v t = r at hacts ⊢
  cases hacts with
  | neutral h => exact absurd hcloser (h c hc).2
  | opens hd hpair =>
    obtain rfl := Option.some.inj (hc.symm.trans hd)
    exact absurd (isOpener_of_openingPair? hpair) hcloser.1
  | closes hd =>
    obtain rfl := Option.some.inj (hc.symm.trans hd)
    rfl

theorem walk_cons (v : Vocabulary) (index : Nat) (openings : List Opening) (t : Token)
    (rest : List Token) :
    walk v index openings (t :: rest) =
      ((react (role v t) index t.position openings).2.toList ++
          (walk v (index + 1) (react (role v t) index t.position openings).1 rest).1,
        (walk v (index + 1) (react (role v t) index t.position openings).1 rest).2) := rfl

theorem closingIndex_lt {tokens : List Token} (h : tokens ≠ []) :
    closingIndex tokens < tokens.length := by
  have hlength := List.length_pos_iff.mpr h
  rw [closingIndex]
  omega

theorem closing?_eq {tokens : List Token} (h : tokens ≠ []) :
    ∃ t, tokens[closingIndex tokens]? = some t ∧
      closing? tokens = some (closingIndex tokens, t.position) := by
  have hlt := closingIndex_lt h
  refine ⟨tokens[closingIndex tokens], List.getElem?_eq_getElem hlt, ?_⟩
  rw [closing?, List.getElem?_eq_getElem hlt]
  rfl

theorem issues_eq (v : Vocabulary) (tokens : List Token) :
    issues v tokens = (walk v 0 [] (beforeEnd tokens)).1 ++
      unclosed tokens (walk v 0 [] (beforeEnd tokens)).2 := rfl

theorem issues_eq_nil (v : Vocabulary) (tokens : List Token) :
    issues v tokens = [] ↔ walk v 0 [] (beforeEnd tokens) = ([], []) := by
  rw [issues_eq, List.append_eq_nil_iff, Prod.ext_iff]
  refine and_congr_right fun _ => ?_
  by_cases htokens : tokens = []
  · subst htokens
    exact iff_of_true rfl rfl
  · obtain ⟨t, -, hclosing⟩ := closing?_eq htokens
    simp [unclosed, hclosing]

theorem check_ok (v : Vocabulary) (tokens : List Token) :
    (check v tokens).ok = true ↔ issues v tokens = [] := List.isEmpty_iff

end SourceCheck.Balance
