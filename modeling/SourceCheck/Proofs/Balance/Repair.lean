import Mathlib.Data.List.Forall2
import SourceCheck.Proofs.Balance.Deletion

/-!
Repairing a token list by its verdict. The closers that are reported are taken out, and for every
opener that is reported as left open a closer is put in at the end, in the order of the report:
innermost first. What comes of it passes.
-/

namespace SourceCheck

namespace Verdict

def strays (verdict : Verdict) : Finset Nat :=
  ((verdict.issues.filter fun issue => issue.cause.problem ≠ .unclosedDelimiter).map
    Balance.Issue.index).toFinset

def leftOpen (verdict : Verdict) : List Balance.Issue :=
  verdict.issues.filter fun issue => issue.cause.problem = .unclosedDelimiter

end Verdict

namespace Balance

/-- The token closes the pair that is opened at the token named by the issue. -/
structure Supplies (v : Vocabulary) (tokens : List Token) (issue : Issue) (t : Token) : Prop where
  kind : t.kind = .delimiter
  text : ∃ i opener c pair, issue.openedAt = some i ∧ tokens[i]? = some opener ∧
    character? opener = some c ∧ v.openingPair? c = some pair ∧
    t.text = String.singleton pair.closing

variable {v : Vocabulary} {tokens supplied : List Token} {t : Token} {o : Opening}

theorem supplies_iff {index : Nat} {position : Position} (hopens : Opens v tokens o) :
    Supplies v tokens ⟨.unclosed o, index, position⟩ t ↔
      t.kind = .delimiter ∧ t.text = String.singleton o.pair.closing := by
  obtain ⟨s, hs, c, hc, hpair, -⟩ := hopens
  constructor
  · rintro ⟨hkind, i, opener, d, pair, hi, hopener, hd, hfirst, htext⟩
    obtain rfl := Option.some.inj hi
    obtain rfl : s = opener := Option.some.inj (hs.symm.trans hopener)
    obtain rfl : c = d := Option.some.inj (hc.symm.trans hd)
    obtain rfl : o.pair = pair := Option.some.inj (hpair.symm.trans hfirst)
    exact ⟨hkind, htext⟩
  · rintro ⟨hkind, htext⟩
    exact ⟨hkind, o.index, s, c, o.pair, rfl, hs, hc, hpair, htext⟩

theorem isEnd_of_supplies {found : List Issue}
    (h : List.Forall₂ (Supplies v tokens) found supplied) : ∀ t ∈ supplied, t.isEnd = false := by
  induction h with
  | nil => exact nofun
  | cons hfirst _ ih =>
    intro t ht
    rcases List.mem_cons.mp ht with rfl | ht
    · rw [Token.isEnd, hfirst.kind]
      rfl
    · exact ih t ht

theorem walk_closers {openings : List Opening}
    (h : List.Forall₂ (ClosedBy v) openings supplied) (index : Nat) :
    walk v index openings supplied = ([], []) := by
  induction h generalizing index with
  | nil => rfl
  | cons hcloses _ ih =>
    rw [walk_cons, react_of_closedBy hcloses, ih]
    rfl

theorem dispensable_of_mem_strays {i : Nat} (hi : i ∈ (check v tokens).strays) :
    Dispensable v tokens i := by
  obtain ⟨issue, hissue, rfl⟩ := List.mem_map.mp (List.mem_toFinset.mp hi)
  obtain ⟨hissue, hcloser⟩ := List.mem_filter.mp hissue
  exact .reported hissue rfl (by simpa using hcloser)

section Repair

variable {body : List Token} {last : Token} (hbody : ∀ t ∈ body, t.isEnd = false)
  (hlast : last.isEnd = true)

include hbody hlast

theorem leftOpen_eq : (check v (body ++ [last])).leftOpen =
    (walk v 0 [] body).2.map fun o => ⟨.unclosed o, body.length, last.position⟩ := by
  have hfound : (walk v 0 [] body).1.filter
      (fun issue => issue.cause.problem = .unclosedDelimiter) = [] :=
    List.filter_eq_nil_iff.mpr fun issue hissue => by simpa using problem_of_mem_walk hissue
  rw [Verdict.leftOpen, check, issues_append v hbody hlast, List.filter_append, hfound,
    List.nil_append, List.filter_eq_self]
  intro issue hissue
  obtain ⟨o, -, rfl⟩ := List.mem_map.mp hissue
  rfl

theorem opens_of_left (ho : o ∈ (walk v 0 [] body).2) : Opens v (body ++ [last]) o := by
  have hissue : ⟨.unclosed o, body.length, last.position⟩ ∈ issues v (body ++ [last]) := by
    rw [issues_append v hbody hlast]
    exact List.mem_append_right _ (List.mem_map_of_mem ho)
  exact (concerns_of_mem_issues hissue).opens rfl

theorem supplied_iff :
    List.Forall₂ (Supplies v (body ++ [last])) (check v (body ++ [last])).leftOpen supplied ↔
      List.Forall₂ (fun o t => t.kind = .delimiter ∧ t.text = String.singleton o.pair.closing)
        (walk v 0 [] body).2 supplied := by
  rw [leftOpen_eq hbody hlast, List.forall₂_map_left_iff]
  have hopens : ∀ o ∈ (walk v 0 [] body).2, Opens v (body ++ [last]) o :=
    fun o => opens_of_left hbody hlast
  constructor
  · intro h
    refine ((List.forall₂_and_left _ _).mpr ⟨hopens, h⟩).imp fun o t ⟨ho, hsupplies⟩ => ?_
    exact (supplies_iff ho).mp hsupplies
  · intro h
    refine ((List.forall₂_and_left _ _).mpr ⟨hopens, h⟩).imp fun o t ⟨ho, hcloses⟩ => ?_
    exact (supplies_iff ho).mpr hcloses

/-- Without the closers that are reported there is nothing to report up to the end. -/
theorem walk_without_strays :
    walk v 0 [] (without (check v (body ++ [last])).strays body) =
      ([], (walk v 0 [] body).2.map
        (Opening.renumbered (newIndex (check v (body ++ [last])).strays))) := by
  have hnone : (walk v 0 [] body).1.filter
      (fun issue => issue.index ∉ (check v (body ++ [last])).strays) = [] := by
    refine List.filter_eq_nil_iff.mpr fun issue hissue => ?_
    have hmem : issue ∈ (check v (body ++ [last])).issues := by
      rw [check, issues_append v hbody hlast]
      exact List.mem_append_left _ hissue
    have hstray : issue.index ∈ (check v (body ++ [last])).strays :=
      List.mem_toFinset.mpr (List.mem_map_of_mem (List.mem_filter.mpr
        ⟨hmem, decide_eq_true (problem_of_mem_walk hissue)⟩))
    simpa using hstray
  rw [walk_without hbody hlast fun i => dispensable_of_mem_strays, hnone]
  rfl

theorem walk_repaired (hpairs : ∀ pair ∈ v.pairs, ∀ other ∈ v.pairs, pair.closing ≠ other.opening)
    (hsupplied : List.Forall₂ (Supplies v (body ++ [last]))
      (check v (body ++ [last])).leftOpen supplied) :
    walk v 0 [] (without (check v (body ++ [last])).strays body ++ supplied) = ([], []) := by
  have hcloser : ∀ o ∈ (walk v 0 [] body).2, IsCloser v o.pair.closing := by
    intro o ho
    obtain ⟨t, -, c, -, hpair, -⟩ := opens_of_left hbody hlast ho
    have hmem := List.mem_of_find?_eq_some hpair
    refine ⟨?_, o.pair, hmem, rfl⟩
    rintro ⟨other, hother, hopens⟩
    exact hpairs o.pair hmem other hother hopens.symm
  have hcloses : List.Forall₂ (ClosedBy v) (walk v 0 [] body).2 supplied := by
    refine ((List.forall₂_and_left _ _).mpr ⟨hcloser, (supplied_iff hbody hlast).mp hsupplied⟩).imp
      fun o t ⟨ho, hkind, htext⟩ => ?_
    exact ⟨ho, character?_of_singleton hkind htext⟩
  have hrenumbered : List.Forall₂ (ClosedBy v) ((walk v 0 [] body).2.map
      (Opening.renumbered (newIndex (check v (body ++ [last])).strays))) supplied :=
    List.forall₂_map_left_iff.mpr (hcloses.imp fun o t h => ⟨h.closer, h.character⟩)
  rw [walk_append, walk_without_strays hbody hlast, walk_closers hrenumbered]
  rfl

end Repair

/-- The verdict is a sufficient repair where no closer of a pair opens another. The reported closers
are taken out, and in front of the end of input a closer is put in for each opener that is reported,
in the order of the issues: the tokens then pass. -/
theorem repaired_tokens_pass (v : Vocabulary) (body : List Token) (last : Token)
    (hpairs : ∀ pair ∈ v.pairs, ∀ other ∈ v.pairs, pair.closing ≠ other.opening)
    (hbody : ∀ t ∈ body, t.isEnd = false) (hlast : last.isEnd = true) :
    (∃ supplied, List.Forall₂ (Supplies v (body ++ [last]))
      (check v (body ++ [last])).leftOpen supplied) ∧
    ∀ supplied, List.Forall₂ (Supplies v (body ++ [last]))
        (check v (body ++ [last])).leftOpen supplied →
      (check v (without (check v (body ++ [last])).strays body ++ supplied ++ [last])).ok = true ∧
      (check v (without (check v (body ++ [last])).strays body ++ supplied ++ [last])).issues =
        [] := by
  constructor
  · refine ⟨(walk v 0 [] body).2.map fun o =>
      ⟨.delimiter, String.singleton o.pair.closing, last.position⟩, ?_⟩
    rw [supplied_iff hbody hlast, List.forall₂_map_right_iff, List.forall₂_same]
    exact fun o _ => ⟨rfl, rfl⟩
  · intro supplied hsupplied
    have hends : ∀ t ∈ without (check v (body ++ [last])).strays body ++ supplied,
        t.isEnd = false := by
      intro t ht
      rcases List.mem_append.mp ht with hleft | hput
      · exact hbody t (mem_of_mem_remaining hleft)
      · exact isEnd_of_supplies hsupplied t hput
    have hissues : issues v (without (check v (body ++ [last])).strays body ++ supplied ++ [last]) =
        [] := by
      rw [issues_append v hends hlast, walk_repaired hbody hlast hpairs hsupplied]
      rfl
    rw [check_ok, check]
    exact ⟨hissues, hissues⟩

def crossedTokens : List Token :=
  [⟨.delimiter, "(", ⟨1, 1⟩⟩, ⟨.delimiter, "]", ⟨1, 2⟩⟩, ⟨.delimiter, "[", ⟨1, 3⟩⟩]

theorem repaired_tokens_pass_crossed :
    ∃ v, Language.standard.compile = .ok v ∧
      (∀ pair ∈ v.pairs, ∀ other ∈ v.pairs, pair.closing ≠ other.opening) ∧
      (∀ t ∈ crossedTokens, t.isEnd = false) ∧ (Token.endOfInput ⟨1, 4⟩).isEnd = true ∧
      (check v (crossedTokens ++ [.endOfInput ⟨1, 4⟩])).strays = {1} ∧
      List.Forall₂ (Supplies v (crossedTokens ++ [.endOfInput ⟨1, 4⟩]))
        (check v (crossedTokens ++ [.endOfInput ⟨1, 4⟩])).leftOpen
        [⟨.delimiter, "]", ⟨1, 4⟩⟩, ⟨.delimiter, ")", ⟨1, 4⟩⟩] ∧
      (check v [⟨.delimiter, "(", ⟨1, 1⟩⟩, ⟨.delimiter, "[", ⟨1, 3⟩⟩, ⟨.delimiter, "]", ⟨1, 4⟩⟩,
        ⟨.delimiter, ")", ⟨1, 4⟩⟩, .endOfInput ⟨1, 4⟩]).ok = true := by
  have hstandard : ∃ v, Language.standard.compile = .ok v ∧
      (∀ pair ∈ v.pairs, ∀ other ∈ v.pairs, pair.closing ≠ other.opening) ∧
      v.openingPair? '(' = some ⟨'(', ')'⟩ ∧ v.openingPair? '[' = some ⟨'[', ']'⟩ ∧
      (check v (crossedTokens ++ [.endOfInput ⟨1, 4⟩])).issues =
        [⟨.mismatched ']' ⟨⟨'(', ')'⟩, 0, ⟨1, 1⟩⟩, 1, ⟨1, 2⟩⟩,
          ⟨.unclosed ⟨⟨'[', ']'⟩, 2, ⟨1, 3⟩⟩, 3, ⟨1, 4⟩⟩,
          ⟨.unclosed ⟨⟨'(', ')'⟩, 0, ⟨1, 1⟩⟩, 3, ⟨1, 4⟩⟩] :=
    Language.standard_satisfies (by decide +kernel)
  obtain ⟨v, hv, hpairs, hround, hsquare, hissues⟩ := hstandard
  have hbody : ∀ t ∈ crossedTokens, t.isEnd = false := by decide
  have hstrays : (check v (crossedTokens ++ [.endOfInput ⟨1, 4⟩])).strays = {1} := by
    rw [Verdict.strays, hissues]
    decide
  have hsupplied : List.Forall₂ (Supplies v (crossedTokens ++ [.endOfInput ⟨1, 4⟩]))
      (check v (crossedTokens ++ [.endOfInput ⟨1, 4⟩])).leftOpen
      [⟨.delimiter, "]", ⟨1, 4⟩⟩, ⟨.delimiter, ")", ⟨1, 4⟩⟩] := by
    rw [Verdict.leftOpen, hissues]
    refine .cons ⟨rfl, 2, _, '[', _, rfl, rfl, rfl, hsquare, rfl⟩ (.cons ?_ .nil)
    exact ⟨rfl, 0, _, '(', _, rfl, rfl, rfl, hround, rfl⟩
  have hpass := ((repaired_tokens_pass v crossedTokens (.endOfInput ⟨1, 4⟩) hpairs hbody rfl).2 _
    hsupplied).1
  rw [hstrays] at hpass
  exact ⟨v, hv, hpairs, hbody, rfl, hstrays, hsupplied, hpass⟩

end Balance

end SourceCheck
