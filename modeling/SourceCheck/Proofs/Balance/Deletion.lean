import Mathlib.Data.Nat.Count
import SourceCheck.Proofs.Balance.Issues
import SourceCheck.Proofs.Language.Compile

/-!
Tokens that the check can do without. A token that is no delimiter of a pair and a closer that is
reported where it stands both leave the open delimiters as they were. Where such tokens are taken
out, the check goes on as before with the rest: the issues of the closers taken out are gone, and
the others stay the same, with the tokens under new numbers.
-/

namespace SourceCheck

namespace Balance

def remaining (taken : Finset Nat) (index : Nat) (tokens : List Token) : List Token :=
  ((tokens.zipIdx index).filter fun entry => entry.2 ∉ taken).map Prod.fst

def without (taken : Finset Nat) (tokens : List Token) : List Token := remaining taken 0 tokens

def newIndex (taken : Finset Nat) (index : Nat) : Nat := Nat.count (· ∉ taken) index

namespace Opening

def renumbered (number : Nat → Nat) (o : Opening) : Opening := { o with index := number o.index }

end Opening

namespace Cause

def renumbered (number : Nat → Nat) : Cause → Cause
  | .mismatched closing innermost => .mismatched closing (innermost.renumbered number)
  | .unexpected closing => .unexpected closing
  | .unclosed opening => .unclosed (opening.renumbered number)

end Cause

namespace Issue

def renumbered (number : Nat → Nat) (issue : Issue) : Issue :=
  ⟨issue.cause.renumbered number, number issue.index, issue.position⟩

/-- What an issue says, apart from the numbers of tokens. -/
def told (issue : Issue) : BalanceProblem × String × Position :=
  (issue.cause.problem, issue.message, issue.position)

variable (number : Nat → Nat) (issue : Issue)

@[simp] theorem told_renumbered : (issue.renumbered number).told = issue.told := by
  obtain ⟨cause, index, position⟩ := issue
  cases cause <;> rfl

@[simp] theorem openedAt_renumbered :
    (issue.renumbered number).openedAt = issue.openedAt.map number := by
  obtain ⟨cause, index, position⟩ := issue
  cases cause <;> rfl

end Issue

end Balance

namespace Verdict

def without (taken : Finset Nat) (verdict : Verdict) : Verdict :=
  ⟨(verdict.issues.filter fun issue => issue.index ∉ taken).map
    (Balance.Issue.renumbered (Balance.newIndex taken))⟩

end Verdict

namespace Balance

variable {v : Vocabulary} {taken : Finset Nat} {index : Nat} {tokens before later : List Token}
  {t : Token} {openings : List Opening}

theorem remaining_cons_of_mem (h : index ∈ taken) :
    remaining taken index (t :: later) = remaining taken (index + 1) later := by
  rw [remaining, List.zipIdx_cons, List.filter_cons_of_neg (by simpa using h)]
  rfl

theorem remaining_cons_of_not_mem (h : index ∉ taken) :
    remaining taken index (t :: later) = t :: remaining taken (index + 1) later := by
  rw [remaining, List.zipIdx_cons, List.filter_cons_of_pos (by simpa using h)]
  rfl

theorem remaining_append : remaining taken index (before ++ later) =
    remaining taken index before ++ remaining taken (index + before.length) later := by
  rw [remaining, List.zipIdx_append, List.filter_append, List.map_append]
  rfl

theorem remaining_eq_self (h : ∀ i ∈ taken, i < index) : remaining taken index tokens = tokens := by
  induction tokens generalizing index with
  | nil => rfl
  | cons t tokens ih =>
    have hindex : index ∉ taken := fun hmem => Nat.lt_irrefl _ (h index hmem)
    rw [remaining_cons_of_not_mem hindex, ih fun i hi => Nat.lt_succ_of_lt (h i hi)]

theorem mem_of_mem_remaining (h : t ∈ remaining taken index tokens) : t ∈ tokens := by
  obtain ⟨entry, hentry, rfl⟩ := List.mem_map.mp h
  exact List.fst_mem_of_mem_zipIdx (List.mem_of_mem_filter hentry)

theorem newIndex_of_mem (h : index ∈ taken) : newIndex taken (index + 1) = newIndex taken index := by
  rw [newIndex, Nat.count_succ, if_neg (by simpa using h)]
  rfl

theorem newIndex_of_not_mem (h : index ∉ taken) :
    newIndex taken (index + 1) = newIndex taken index + 1 := by
  rw [newIndex, Nat.count_succ, if_pos h]
  rfl

theorem length_remaining (taken : Finset Nat) (index : Nat) (tokens : List Token) :
    newIndex taken index + (remaining taken index tokens).length =
      newIndex taken (index + tokens.length) := by
  induction tokens generalizing index with
  | nil => rfl
  | cons t tokens ih =>
    have hlength : index + (t :: tokens).length = index + 1 + tokens.length := by
      rw [List.length_cons]
      omega
    rw [hlength, ← ih]
    by_cases h : index ∈ taken
    · rw [remaining_cons_of_mem h, newIndex_of_mem h]
    · rw [remaining_cons_of_not_mem h, newIndex_of_not_mem h, List.length_cons]
      omega

theorem length_without (taken : Finset Nat) (tokens : List Token) :
    (without taken tokens).length = newIndex taken tokens.length := by
  have hlength := length_remaining taken 0 tokens
  rwa [Nat.zero_add, newIndex, Nat.count_zero, Nat.zero_add] at hlength

theorem getElem?_without (h : tokens[index]? = some t) (hleft : index ∉ taken) :
    (without taken tokens)[newIndex taken index]? = some t := by
  obtain ⟨hindex, rfl⟩ := List.getElem?_eq_some_iff.mp h
  have hlength : (tokens.take index).length = index := List.length_take_of_le hindex.le
  have hsplit : without taken tokens = without taken (tokens.take index) ++
      tokens[index] :: remaining taken (index + 1) (tokens.drop (index + 1)) := by
    conv_lhs => rw [← List.take_append_drop index tokens, List.drop_eq_getElem_cons hindex]
    rw [without, remaining_append, hlength, Nat.zero_add, remaining_cons_of_not_mem hleft]
    rfl
  have hfront : (without taken (tokens.take index)).length = newIndex taken index := by
    rw [length_without, hlength]
  rw [hsplit, ← hfront, List.getElem?_append_right (Nat.le_refl _), Nat.sub_self]
  rfl

theorem react_renumbered (r : Role) (number : Nat → Nat) (index : Nat) (position : Position)
    (openings : List Opening) :
    react r (number index) position (openings.map (Opening.renumbered number)) =
      ((react r index position openings).1.map (Opening.renumbered number),
        (react r index position openings).2.map (Issue.renumbered number)) := by
  cases r with
  | neutral => rfl
  | opens pair => rfl
  | closes c =>
    cases openings with
    | nil => rfl
    | cons innermost outer =>
      have hpair : (innermost.renumbered number).pair = innermost.pair := rfl
      by_cases hmatch : innermost.pair.closing = c
      · simp [react, hpair, hmatch]
      · simp [react, hpair, hmatch, Issue.renumbered, Cause.renumbered]

/-- A token without a part in the walk: it does nothing, or an issue is found there. -/
def Idle (v : Vocabulary) (found : List Issue) (index : Nat) (t : Token) : Prop :=
  role v t = .neutral ∨ ∃ issue ∈ found, issue.index = index

theorem react_of_idle (h : Idle v (walk v index openings (t :: later)).1 index t) :
    (react (role v t) index t.position openings).1 = openings := by
  rcases h with hneutral | ⟨issue, hissue, hindex⟩
  · rw [hneutral]
    rfl
  · rw [walk_cons, List.mem_append, Option.mem_toList] at hissue
    rcases hissue with hfirst | hlater
    · exact (leaves_of_react hfirst).after_eq
    · have hbehind := (index_of_mem_walk hlater).1
      omega

theorem idle_later {i : Nat} {s : Token} (hbehind : index < i)
    (h : Idle v (walk v index openings (t :: later)).1 i s) :
    Idle v (walk v (index + 1) (react (role v t) index t.position openings).1 later).1 i s := by
  rcases h with hneutral | ⟨issue, hissue, hindex⟩
  · exact .inl hneutral
  · rw [walk_cons, List.mem_append, Option.mem_toList] at hissue
    rcases hissue with hfirst | hlater
    · have hfirst := (leaves_of_react hfirst).index_eq
      omega
    · exact .inr ⟨issue, hlater, hindex⟩

/-- Step by step, the walk over what is left keeps the open delimiters of the whole walk. -/
theorem walk_remaining
    (h : ∀ k s, tokens[k]? = some s → index + k ∈ taken →
      Idle v (walk v index openings tokens).1 (index + k) s) :
    walk v (newIndex taken index) (openings.map (Opening.renumbered (newIndex taken)))
        (remaining taken index tokens) =
      (((walk v index openings tokens).1.filter fun issue => issue.index ∉ taken).map
          (Issue.renumbered (newIndex taken)),
        (walk v index openings tokens).2.map (Opening.renumbered (newIndex taken))) := by
  induction tokens generalizing index openings with
  | nil => rfl
  | cons t tokens ih =>
    have hlater : ∀ k s, tokens[k]? = some s → index + 1 + k ∈ taken →
        Idle v (walk v (index + 1) (react (role v t) index t.position openings).1 tokens).1
          (index + 1 + k) s := by
      intro k s hs hk
      rw [Nat.add_assoc, Nat.add_comm 1] at hk ⊢
      exact idle_later (by omega) (h (k + 1) s hs hk)
    have hrest := ih hlater
    by_cases htaken : index ∈ taken
    · have hidle := react_of_idle (h 0 t rfl htaken)
      have hgone : (react (role v t) index t.position openings).2.toList.filter
          (fun issue => issue.index ∉ taken) = [] := by
        refine List.filter_eq_nil_iff.mpr fun issue hissue => ?_
        rw [(leaves_of_react (Option.mem_toList.mp hissue)).index_eq]
        simpa using htaken
      rw [hidle, newIndex_of_mem htaken] at hrest
      rw [remaining_cons_of_mem htaken, hrest, walk_cons, hidle, List.filter_append, hgone,
        List.nil_append]
    · have hkept : (react (role v t) index t.position openings).2.toList.filter
          (fun issue => issue.index ∉ taken) =
            (react (role v t) index t.position openings).2.toList := by
        refine List.filter_eq_self.mpr fun issue hissue => ?_
        rw [(leaves_of_react (Option.mem_toList.mp hissue)).index_eq]
        simpa using htaken
      rw [newIndex_of_not_mem htaken] at hrest
      rw [remaining_cons_of_not_mem htaken, walk_cons, walk_cons, react_renumbered, hrest,
        List.filter_append, hkept, List.map_append, Option.toList_map]

/-- A token in front of the first end of input that neither opens nor closes a pair, or a closer
that is reported where it stands. -/
inductive Dispensable (v : Vocabulary) (tokens : List Token) (index : Nat) : Prop where
  | neutral {t : Token} (ht : (beforeEnd tokens)[index]? = some t)
      (hneutral : ∀ c, character? t = some c → ¬ IsOpener v c ∧ ¬ IsCloser v c) :
      Dispensable v tokens index
  | reported {issue : Issue} (hissue : issue ∈ (check v tokens).issues)
      (hindex : issue.index = index) (hcloser : issue.cause.problem ≠ .unclosedDelimiter) :
      Dispensable v tokens index

theorem not_opens_of_neutral {o : Opening} (ht : tokens[o.index]? = some t)
    (h : ∀ c, character? t = some c → ¬ IsOpener v c ∧ ¬ IsCloser v c) : ¬ Opens v tokens o := by
  rintro ⟨s, hs, c, hc, hpair, -⟩
  obtain rfl : t = s := Option.some.inj (ht.symm.trans hs)
  exact (h c hc).1 (isOpener_of_openingPair? hpair)

theorem not_opens_of_closes {o : Opening} {c : Closer} (hindex : c.index = o.index)
    (hcloses : Closes v tokens c) : ¬ Opens v tokens o := by
  rintro ⟨s, hs, hopens⟩
  obtain ⟨t, ht, hc, hcloser, -⟩ := hcloses
  rw [hindex] at ht
  obtain rfl : t = s := Option.some.inj (ht.symm.trans hs)
  exact not_tokenOpens_of_closes hc hcloser o hopens

theorem not_opens_of_dispensable {o : Opening} (h : Dispensable v tokens o.index) :
    ¬ Opens v tokens o := by
  cases h with
  | neutral ht hneutral => exact not_opens_of_neutral (getElem?_of_beforeEnd ht) hneutral
  | reported hissue hindex hcloser =>
    obtain ⟨c, hcloses, hc, -⟩ := (concerns_of_mem_issues hissue).closes hcloser
    exact not_opens_of_closes (hc.trans hindex) hcloses

section EndOfInput

variable {passed : List Token} {last : Token} (hpassed : ∀ t ∈ passed, t.isEnd = false)
  (hlast : last.isEnd = true)
  (htaken : ∀ i ∈ taken, Dispensable v (passed ++ last :: later) i)

include hpassed hlast

/-- In front of an end of input, a dispensable token has no part in the walk. -/
theorem idle_of_dispensable (h : Dispensable v (passed ++ last :: later) index) :
    index < passed.length ∧ ∀ t, passed[index]? = some t →
      Idle v (walk v 0 [] passed).1 index t := by
  cases h with
  | neutral ht hneutral =>
    rw [beforeEnd_append hpassed hlast] at ht
    refine ⟨(List.getElem?_eq_some_iff.mp ht).1, fun s hs => .inl ?_⟩
    obtain rfl := Option.some.inj (ht.symm.trans hs)
    exact role_of_neutral hneutral
  | @reported issue hissue hindex hcloser =>
    rw [check, issues_append v hpassed hlast] at hissue
    rcases List.mem_append.mp hissue with hfound | hlate
    · have hbound := (index_of_mem_walk hfound).2
      exact ⟨by omega, fun t _ => .inr ⟨issue, hfound, hindex⟩⟩
    · obtain ⟨o, -, rfl⟩ := List.mem_map.mp hlate
      exact absurd rfl hcloser

include htaken

theorem without_append :
    without taken (passed ++ last :: later) = without taken passed ++ last :: later := by
  have hbefore : ∀ i ∈ taken, i < passed.length :=
    fun i hi => (idle_of_dispensable hpassed hlast (htaken i hi)).1
  have hend : remaining taken passed.length (last :: later) = last :: later :=
    remaining_eq_self hbefore
  rw [without, remaining_append, Nat.zero_add, hend]
  rfl

theorem walk_without : walk v 0 [] (without taken passed) =
    (((walk v 0 [] passed).1.filter fun issue => issue.index ∉ taken).map
        (Issue.renumbered (newIndex taken)),
      (walk v 0 [] passed).2.map (Opening.renumbered (newIndex taken))) := by
  have hidle : ∀ k s, passed[k]? = some s → 0 + k ∈ taken →
      Idle v (walk v 0 [] passed).1 (0 + k) s := by
    intro k s hs hk
    rw [Nat.zero_add] at hk ⊢
    exact (idle_of_dispensable hpassed hlast (htaken k hk)).2 s hs
  have hwalk := walk_remaining hidle
  rwa [newIndex, Nat.count_zero] at hwalk

theorem issues_without : issues v (without taken (passed ++ last :: later)) =
    ((issues v (passed ++ last :: later)).filter fun issue => issue.index ∉ taken).map
      (Issue.renumbered (newIndex taken)) := by
  have hleft : ∀ t ∈ without taken passed, t.isEnd = false :=
    fun t ht => hpassed t (mem_of_mem_remaining ht)
  have hend : passed.length ∉ taken := fun hmem =>
    Nat.lt_irrefl _ (idle_of_dispensable hpassed hlast (htaken _ hmem)).1
  have hlate : ((walk v 0 [] passed).2.map fun o =>
      (⟨.unclosed o, passed.length, last.position⟩ : Issue)).filter
        (fun issue => issue.index ∉ taken) =
      (walk v 0 [] passed).2.map fun o => ⟨.unclosed o, passed.length, last.position⟩ := by
    refine List.filter_eq_self.mpr fun issue hissue => ?_
    obtain ⟨o, -, rfl⟩ := List.mem_map.mp hissue
    simpa using hend
  rw [without_append hpassed hlast htaken, issues_append v hleft hlast,
    walk_without hpassed hlast htaken, issues_append v hpassed hlast, List.filter_append, hlate,
    List.map_append, List.map_map, List.map_map, length_without]
  rfl

end EndOfInput

structure SameVerdict (v : Vocabulary) (tokens : List Token) (taken : Finset Nat) : Prop where
  verdict : check v (without taken tokens) = (check v tokens).without taken
  told : (check v (without taken tokens)).issues.map Issue.told =
    ((check v tokens).issues.filter fun issue => issue.index ∉ taken).map Issue.told
  openers : (check v (without taken tokens)).issues.map Issue.openedAt =
    ((check v tokens).issues.filter fun issue => issue.index ∉ taken).map fun issue =>
      issue.openedAt.map (newIndex taken)
  openers_left : ∀ issue ∈ (check v tokens).issues, ∀ i, issue.openedAt = some i → i ∉ taken
  renumbered : ∀ i t, tokens[i]? = some t → i ∉ taken →
    (without taken tokens)[newIndex taken i]? = some t

/-- Reported closers are isolated, and tokens that are no delimiters of a pair are irrelevant: where
any of them are taken out in front of the end of input, the issues found there are gone, and the
others are the same under the new numbers. -/
theorem verdict_without_dispensable (v : Vocabulary) (tokens : List Token) (taken : Finset Nat)
    (hend : ∃ t ∈ tokens, t.isEnd = true) (htaken : ∀ i ∈ taken, Dispensable v tokens i) :
    SameVerdict v tokens taken := by
  obtain ⟨passed, last, later, rfl, hpassed, hlast⟩ := exists_end hend
  have hissues := issues_without hpassed hlast htaken
  constructor
  · exact congrArg Verdict.mk hissues
  · rw [check, check, hissues, List.map_map]
    exact List.map_congr_left fun issue _ => Issue.told_renumbered _ issue
  · rw [check, check, hissues, List.map_map]
    exact List.map_congr_left fun issue _ => Issue.openedAt_renumbered _ issue
  · intro issue hissue i hi hmem
    obtain ⟨o, ho, rfl⟩ := Option.map_eq_some_iff.mp hi
    exact not_opens_of_dispensable (htaken _ hmem) ((concerns_of_mem_issues hissue).opens ho)
  · exact fun i t ht hleft => getElem?_without ht hleft

def strayTokens : List Token :=
  [⟨.identifier, "f", ⟨1, 1⟩⟩, ⟨.delimiter, "(", ⟨1, 2⟩⟩, ⟨.delimiter, "]", ⟨1, 3⟩⟩,
    .endOfInput ⟨1, 4⟩]

/-- Without the name and the closer, the opener is still reported, under its new number. -/
theorem verdict_without_dispensable_stray :
    ∃ v, Language.standard.compile = .ok v ∧
      (check v strayTokens).issues =
        [⟨.mismatched ']' ⟨⟨'(', ')'⟩, 1, ⟨1, 2⟩⟩, 2, ⟨1, 3⟩⟩,
          ⟨.unclosed ⟨⟨'(', ')'⟩, 1, ⟨1, 2⟩⟩, 3, ⟨1, 4⟩⟩] ∧
      (∃ t ∈ strayTokens, t.isEnd = true) ∧
      (∀ i ∈ ({0, 2} : Finset Nat), Dispensable v strayTokens i) ∧
      without {0, 2} strayTokens = [⟨.delimiter, "(", ⟨1, 2⟩⟩, .endOfInput ⟨1, 4⟩] ∧
      check v (without {0, 2} strayTokens) =
        ⟨[⟨.unclosed ⟨⟨'(', ')'⟩, 0, ⟨1, 2⟩⟩, 1, ⟨1, 4⟩⟩]⟩ := by
  have hstandard : ∃ v, Language.standard.compile = .ok v ∧ (check v strayTokens).issues =
      [⟨.mismatched ']' ⟨⟨'(', ')'⟩, 1, ⟨1, 2⟩⟩, 2, ⟨1, 3⟩⟩,
        ⟨.unclosed ⟨⟨'(', ')'⟩, 1, ⟨1, 2⟩⟩, 3, ⟨1, 4⟩⟩] :=
    Language.standard_satisfies (by decide +kernel)
  obtain ⟨v, hv, hissues⟩ := hstandard
  have hend : ∃ t ∈ strayTokens, t.isEnd = true :=
    ⟨.endOfInput ⟨1, 4⟩, by simp [strayTokens], rfl⟩
  have htaken : ∀ i ∈ ({0, 2} : Finset Nat), Dispensable v strayTokens i := by
    intro i hi
    rcases Finset.mem_insert.mp hi with rfl | hi
    · exact .neutral (t := ⟨.identifier, "f", ⟨1, 1⟩⟩) rfl nofun
    · have hissue : ⟨.mismatched ']' ⟨⟨'(', ')'⟩, 1, ⟨1, 2⟩⟩, 2, ⟨1, 3⟩⟩ ∈
          (check v strayTokens).issues := by
        rw [hissues]
        exact List.mem_cons_self
      exact .reported hissue (Finset.mem_singleton.mp hi).symm nofun
  refine ⟨v, hv, hissues, hend, htaken, by decide, ?_⟩
  have hverdict := (verdict_without_dispensable v strayTokens {0, 2} hend htaken).verdict
  rw [hverdict, Verdict.without, hissues]
  decide

end Balance

end SourceCheck
