import SourceCheck.Proofs.Balance.Roles

/-!
Balanced words. The delimiters of a token sequence spell a word, and the check accepts the sequence
exactly when the word is generated by the grammar in which a word is empty, or an opener, a word,
the partner of the opener and another word. Since the check keeps open delimiters on a stack, the
words that it accepts from a stack are described first: they close what is open, innermost first,
with balanced words in between.
-/

namespace SourceCheck.Balance

def letters (v : Vocabulary) (tokens : List Token) : List Char :=
  (tokens.filterMap character?).filter fun c => IsOpener v c ∨ IsCloser v c

/-- The word of a token sequence, in which nothing behind the first end of input counts. -/
def word (v : Vocabulary) (tokens : List Token) : List Char := letters v (beforeEnd tokens)

/-- Words generated by `B ::= ε | o B c B`, in which `c` closes the first pair that `o` opens. -/
inductive Balanced (v : Vocabulary) : List Char → Prop where
  | empty : Balanced v []
  | nest {o : Char} {pair : DelimiterPair} {inner rest : List Char}
      (hopens : v.openingPair? o = some pair) (hcloses : IsCloser v pair.closing)
      (hinner : Balanced v inner) (hrest : Balanced v rest) :
      Balanced v (o :: inner ++ pair.closing :: rest)

inductive Settles (v : Vocabulary) : List Opening → List Char → Prop where
  | balanced {text : List Char} (h : Balanced v text) : Settles v [] text
  | close {innermost : Opening} {outer : List Opening} {inner rest : List Char}
      (hcloses : IsCloser v innermost.pair.closing) (hinner : Balanced v inner)
      (hrest : Settles v outer rest) :
      Settles v (innermost :: outer) (inner ++ innermost.pair.closing :: rest)

variable {v : Vocabulary} {c : Char} {rest : List Char} {openings : List Opening}

theorem Balanced.isOpener_head (h : Balanced v (c :: rest)) : IsOpener v c := by
  generalize htext : c :: rest = text at h
  cases h with
  | empty => cases htext
  | nest hopens =>
    obtain ⟨rfl, -⟩ := List.cons.inj htext
    exact isOpener_of_openingPair? hopens

theorem Balanced.settles_tail {o : Opening} (hopens : v.openingPair? c = some o.pair)
    (h : Balanced v (c :: rest)) : Settles v [o] rest := by
  generalize htext : c :: rest = text at h
  cases h with
  | empty => cases htext
  | @nest _ pair inner later hopens' hcloses hinner hrest =>
    obtain ⟨rfl, rfl⟩ := List.cons.inj htext
    obtain rfl : o.pair = pair := Option.some.inj (hopens.symm.trans hopens')
    exact .close hcloses hinner (.balanced hrest)

theorem settles_nil : Settles v openings [] ↔ openings = [] := by
  constructor
  · intro h
    generalize htext : [] = text at h
    cases h with
    | balanced => rfl
    | @close innermost outer inner rest =>
      cases inner <;> cases htext
  · rintro rfl
    exact .balanced .empty

theorem settles_opener {o : Opening} (hopens : v.openingPair? c = some o.pair) :
    Settles v openings (c :: rest) ↔ Settles v (o :: openings) rest := by
  constructor
  · intro h
    generalize htext : c :: rest = text at h
    cases h with
    | balanced h =>
      subst htext
      exact h.settles_tail hopens
    | @close innermost outer inner later hcloses hinner hlater =>
      cases inner with
      | nil =>
        obtain ⟨rfl, -⟩ := List.cons.inj htext
        exact absurd (isOpener_of_openingPair? hopens) hcloses.1
      | cons d inner =>
        obtain ⟨rfl, rfl⟩ := List.cons.inj htext
        have hnested := hinner.settles_tail hopens
        cases hnested with
        | @close _ _ before between hcloses' hbefore hbetween =>
          cases hbetween with
          | balanced hbetween =>
            have hword := Settles.close hcloses' hbefore (.close hcloses hbetween hlater)
            rwa [← List.cons_append, ← List.append_assoc] at hword
  · intro h
    cases h with
    | @close _ _ inner later hcloses hinner hlater =>
      cases hlater with
      | balanced hlater => exact .balanced (.nest hopens hcloses hinner hlater)
      | @close innermost outer between last hcloses' hbetween hlast =>
        have hnested : Balanced v (c :: inner ++ o.pair.closing :: between) :=
          .nest hopens hcloses hinner hbetween
        have hword := Settles.close hcloses' hnested hlast
        rwa [List.append_assoc, List.cons_append, List.cons_append] at hword

theorem not_settles_closer (hcloser : IsCloser v c) : ¬ Settles v [] (c :: rest) := by
  intro h
  cases h with
  | balanced h => exact hcloser.1 h.isOpener_head

theorem settles_closer {innermost : Opening} {outer : List Opening} (hcloser : IsCloser v c) :
    Settles v (innermost :: outer) (c :: rest) ↔
      innermost.pair.closing = c ∧ Settles v outer rest := by
  constructor
  · intro h
    generalize htext : c :: rest = text at h
    cases h with
    | @close _ _ inner later hcloses hinner hlater =>
      cases inner with
      | nil =>
        obtain ⟨rfl, rfl⟩ := List.cons.inj htext
        exact ⟨rfl, hlater⟩
      | cons d inner =>
        obtain ⟨rfl, -⟩ := List.cons.inj htext
        exact absurd hinner.isOpener_head hcloser.1
  · rintro ⟨rfl, hrest⟩
    exact .close hcloser .empty hrest

theorem letters_cons_of_acts {t : Token} (hc : character? t = some c)
    (hacts : IsOpener v c ∨ IsCloser v c) (tokens : List Token) :
    letters v (t :: tokens) = c :: letters v tokens := by
  rw [letters, List.filterMap_cons_some hc, List.filter_cons_of_pos (by simpa using hacts)]
  rfl

theorem letters_cons_of_neutral {t : Token}
    (h : ∀ c, character? t = some c → ¬ IsOpener v c ∧ ¬ IsCloser v c) (tokens : List Token) :
    letters v (t :: tokens) = letters v tokens := by
  cases hc : character? t with
  | none => rw [letters, List.filterMap_cons_none hc, letters]
  | some c =>
    obtain ⟨hopener, hcloser⟩ := h c hc
    rw [letters, List.filterMap_cons_some hc, List.filter_cons_of_neg (by simp [hopener, hcloser])]
    rfl

/-- The walk has nothing to report and leaves nothing open exactly when the word closes what is
open. -/
theorem walk_eq_nil (v : Vocabulary) (index : Nat) (openings : List Opening)
    (tokens : List Token) :
    walk v index openings tokens = ([], []) ↔ Settles v openings (letters v tokens) := by
  induction tokens generalizing index openings with
  | nil =>
    rw [show letters v [] = [] from rfl, settles_nil, walk, Prod.mk.injEq]
    exact and_iff_right rfl
  | cons t rest ih =>
    have hacts := role_acts v t
    rw [walk_cons]
    generalize role v t = r at hacts ⊢
    cases hacts with
    | @opens c pair hc hpair =>
      rw [letters_cons_of_acts hc (.inl (isOpener_of_openingPair? hpair))]
      exact (ih _ _).trans (settles_opener (o := ⟨pair, index, t.position⟩) hpair).symm
    | @closes c hc hcloser =>
      rw [letters_cons_of_acts hc (.inr hcloser)]
      cases openings with
      | nil => simp [react, not_settles_closer hcloser]
      | cons innermost outer =>
        rw [settles_closer hcloser]
        by_cases hmatch : innermost.pair.closing = c
        · simp only [react, hmatch, ↓reduceIte, true_and]
          exact ih (index + 1) outer
        · simp [react, hmatch]
    | neutral hnone =>
      rw [letters_cons_of_neutral hnone]
      exact ih _ _

/-- The check accepts exactly the token sequences whose delimiters spell a balanced word. -/
theorem check_ok_iff_balanced (v : Vocabulary) (tokens : List Token) :
    (check v tokens).ok = true ↔ Balanced v (word v tokens) := by
  have hsettles : Settles v [] (word v tokens) ↔ Balanced v (word v tokens) := by
    constructor
    · intro h
      cases h with
      | balanced h => exact h
    · exact .balanced
  rw [check_ok, issues_eq_nil, walk_eq_nil]
  exact hsettles

end SourceCheck.Balance
