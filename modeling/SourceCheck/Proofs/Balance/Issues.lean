import SourceCheck.Proofs.Balance.Account

/-!
What the issues of a check are about. An issue is found at one token, which leaves the open
delimiters as they were, and may name another token that opened what it is about. The tokens in
front of the first issue pass without one, and the opener that it names is the innermost of those
that they leave open.
-/

namespace SourceCheck.Balance

variable {v : Vocabulary} {tokens passed later : List Token} {t last : Token} {issue : Issue}

theorem walk_append (v : Vocabulary) (index : Nat) (openings : List Opening)
    (tokens later : List Token) :
    walk v index openings (tokens ++ later) =
      ((walk v index openings tokens).1 ++
          (walk v (index + tokens.length) (walk v index openings tokens).2 later).1,
        (walk v (index + tokens.length) (walk v index openings tokens).2 later).2) := by
  induction tokens generalizing index openings with
  | nil => rfl
  | cons t tokens ih =>
    have hlength : index + 1 + tokens.length = index + (t :: tokens).length := by
      rw [List.length_cons]
      omega
    rw [List.cons_append, walk_cons, walk_cons, ih, hlength, List.append_assoc]

/-- A closer that closes nothing leaves the open delimiters as they were. -/
structure Leaves (index : Nat) (openings after : List Opening) (issue : Issue) : Prop where
  index_eq : issue.index = index
  after_eq : after = openings
  opener : issue.cause.openedBy = openings.head?
  problem : issue.cause.problem ≠ .unclosedDelimiter

theorem leaves_of_react {r : Role} {index : Nat} {position : Position} {openings : List Opening}
    (h : (react r index position openings).2 = some issue) :
    Leaves index openings (react r index position openings).1 issue := by
  cases r with
  | neutral => cases h
  | opens pair => cases h
  | closes c =>
    cases openings with
    | nil =>
      cases h
      refine ⟨rfl, rfl, rfl, ?_⟩
      intro hproblem
      cases hproblem
    | cons innermost outer =>
      by_cases hmatch : innermost.pair.closing = c
      · simp [react, hmatch] at h
      · simp only [react, hmatch, ↓reduceIte, Option.some.injEq] at h ⊢
        subst h
        refine ⟨rfl, rfl, rfl, ?_⟩
        intro hproblem
        cases hproblem

structure ClosedBy (v : Vocabulary) (o : Opening) (t : Token) : Prop where
  closer : IsCloser v o.pair.closing
  character : character? t = some o.pair.closing

theorem react_of_closedBy {o : Opening} {outer : List Opening} (h : ClosedBy v o t) (index : Nat)
    (position : Position) : react (role v t) index position (o :: outer) = (outer, none) := by
  rw [role_of_closer h.character h.closer, react]
  exact if_pos rfl

theorem exists_react_of_mem_walk {index : Nat} {openings : List Opening}
    (h : issue ∈ (walk v index openings tokens).1) :
    ∃ k t opened, tokens[k]? = some t ∧
      (react (role v t) (index + k) t.position opened).2 = some issue := by
  induction tokens generalizing index openings with
  | nil => cases h
  | cons t tokens ih =>
    rw [walk_cons, List.mem_append, Option.mem_toList] at h
    rcases h with hfirst | hlater
    · exact ⟨0, t, openings, rfl, hfirst⟩
    · obtain ⟨k, s, opened, hs, hreact⟩ := ih hlater
      rw [Nat.add_right_comm] at hreact
      exact ⟨k + 1, s, opened, hs, hreact⟩

theorem index_of_mem_walk {index : Nat} {openings : List Opening}
    (h : issue ∈ (walk v index openings tokens).1) :
    index ≤ issue.index ∧ issue.index < index + tokens.length := by
  obtain ⟨k, t, opened, ht, hreact⟩ := exists_react_of_mem_walk h
  obtain ⟨hk, -⟩ := List.getElem?_eq_some_iff.mp ht
  have hindex := (leaves_of_react hreact).index_eq
  omega

theorem problem_of_mem_walk {index : Nat} {openings : List Opening}
    (h : issue ∈ (walk v index openings tokens).1) :
    issue.cause.problem ≠ .unclosedDelimiter := by
  obtain ⟨k, t, opened, -, hreact⟩ := exists_react_of_mem_walk h
  exact (leaves_of_react hreact).problem

/-- The tokens in front of the first issue, which pass without one, and what they leave open. -/
structure FirstAt (v : Vocabulary) (index : Nat) (openings : List Opening) (issue : Issue)
    (passed : List Token) (opened : List Opening) : Prop where
  index_eq : issue.index = index + passed.length
  clean : walk v index openings passed = ([], opened)
  opener : issue.cause.openedBy = opened.head?

theorem exists_firstAt {index : Nat} {openings : List Opening} {others : List Issue}
    (h : (walk v index openings tokens).1 = issue :: others) :
    ∃ passed opened, passed <+: tokens ∧ FirstAt v index openings issue passed opened := by
  induction tokens generalizing index openings with
  | nil => cases h
  | cons t tokens ih =>
    rw [walk_cons] at h
    cases hreact : (react (role v t) index t.position openings).2 with
    | some first =>
      rw [hreact] at h
      obtain rfl : first = issue := List.head_eq_of_cons_eq h
      have hleaves := leaves_of_react hreact
      exact ⟨[], openings, List.nil_prefix, hleaves.index_eq, rfl, hleaves.opener⟩
    | none =>
      rw [hreact] at h
      obtain ⟨passed, opened, hpassed, hfirst⟩ := ih h
      refine ⟨t :: passed, opened, List.cons_prefix_cons.mpr ⟨rfl, hpassed⟩, ?_, ?_, hfirst.opener⟩
      · rw [hfirst.index_eq, List.length_cons]
        omega
      · rw [walk_cons, hreact, hfirst.clean]
        rfl

theorem beforeEnd_append (hpassed : ∀ t ∈ passed, t.isEnd = false) (hlast : last.isEnd = true) :
    beforeEnd (passed ++ last :: later) = passed := by
  rw [beforeEnd, List.takeWhile_append_of_pos (by simpa using hpassed), List.takeWhile_cons_of_neg
    (by simpa using hlast), List.append_nil]

/-- What is left open at an end of input is reported there. -/
theorem issues_append (v : Vocabulary) (hpassed : ∀ t ∈ passed, t.isEnd = false)
    (hlast : last.isEnd = true) :
    issues v (passed ++ last :: later) = (walk v 0 [] passed).1 ++
      (walk v 0 [] passed).2.map fun o => ⟨.unclosed o, passed.length, last.position⟩ := by
  have hbefore : beforeEnd (passed ++ last :: later) = passed := beforeEnd_append hpassed hlast
  have hsplit : passed ++ last :: later = beforeEnd (passed ++ last :: later) ++ last :: later := by
    rw [hbefore]
  have hindex : closingIndex (passed ++ last :: later) = passed.length := by
    rw [closingIndex_of_end hsplit, hbefore]
  have hclosing : closing? (passed ++ last :: later) = some (passed.length, last.position) := by
    rw [closing?, hindex, List.getElem?_append_right (Nat.le_refl _), Nat.sub_self]
    rfl
  rw [issues_eq, hbefore, unclosed, hclosing]

theorem exists_end (hend : ∃ t ∈ tokens, t.isEnd = true) :
    ∃ passed last later, tokens = passed ++ last :: later ∧
      (∀ t ∈ passed, t.isEnd = false) ∧ last.isEnd = true := by
  rcases beforeEnd_eq tokens with ⟨-, hnone⟩ | ⟨last, later, hsplit, hlast⟩
  · obtain ⟨t, ht, hisEnd⟩ := hend
    rw [hnone t ht] at hisEnd
    cases hisEnd
  · exact ⟨beforeEnd tokens, last, later, hsplit, fun t ht => isEnd_of_mem_beforeEnd ht, hlast⟩

/-- Everything in front of the first issue passes, an end of input included. -/
theorem firstAt_of_issues {others : List Issue} (hend : ∃ t ∈ tokens, t.isEnd = true)
    (h : issues v tokens = issue :: others) :
    ∃ opened, FirstAt v 0 [] issue (tokens.take issue.index) opened := by
  obtain ⟨before, last, later, rfl, hbefore, hlast⟩ := exists_end hend
  rw [issues_append v hbefore hlast] at h
  cases hfound : (walk v 0 [] before).1 with
  | cons first found =>
    rw [hfound] at h
    obtain rfl : first = issue := List.head_eq_of_cons_eq h
    obtain ⟨passed, opened, hpassed, hfirst⟩ := exists_firstAt hfound
    have htake : (before ++ last :: later).take first.index = passed := by
      rw [hfirst.index_eq, Nat.zero_add]
      exact (List.prefix_iff_eq_take.mp (hpassed.trans (List.prefix_append _ _))).symm
    rw [htake]
    exact ⟨opened, hfirst⟩
  | nil =>
    rw [hfound, List.nil_append] at h
    obtain ⟨o, outer, hleft, rfl, -⟩ := List.map_eq_cons_iff.mp h
    refine ⟨o :: outer, ?_⟩
    rw [List.take_left]
    exact ⟨(Nat.zero_add _).symm, Prod.ext hfound hleft, rfl⟩

inductive Concerns (v : Vocabulary) (tokens : List Token) : Issue → Prop where
  | mismatched {o : Opening} {c : Closer} (hopens : Opens v tokens o) (hcloses : Closes v tokens c) :
      Concerns v tokens ⟨.mismatched c.character o, c.index, c.position⟩
  | unexpected {c : Closer} (hcloses : Closes v tokens c) :
      Concerns v tokens ⟨.unexpected c.character, c.index, c.position⟩
  | unclosed {o : Opening} {index : Nat} {position : Position} (hopens : Opens v tokens o)
      (hplace : EndPlace tokens index position) :
      Concerns v tokens ⟨.unclosed o, index, position⟩

theorem Concerns.opens {o : Opening} (h : Concerns v tokens issue)
    (ho : issue.cause.openedBy = some o) : Opens v tokens o := by
  cases h with
  | mismatched hopens =>
    obtain rfl := Option.some.inj ho
    exact hopens
  | unexpected => cases ho
  | unclosed hopens =>
    obtain rfl := Option.some.inj ho
    exact hopens

theorem Concerns.closes (h : Concerns v tokens issue)
    (hproblem : issue.cause.problem ≠ .unclosedDelimiter) :
    ∃ c, Closes v tokens c ∧ c.index = issue.index ∧ c.position = issue.position := by
  cases h with
  | mismatched _ hcloses => exact ⟨_, hcloses, rfl, rfl⟩
  | unexpected hcloses => exact ⟨_, hcloses, rfl, rfl⟩
  | unclosed => exact absurd rfl hproblem

theorem Concerns.endPlace (h : Concerns v tokens issue)
    (hproblem : issue.cause.problem = .unclosedDelimiter) :
    EndPlace tokens issue.index issue.position := by
  cases h with
  | mismatched => cases hproblem
  | unexpected => cases hproblem
  | unclosed _ hplace => exact hplace

theorem getElem?_of_beforeEnd {index : Nat} (h : (beforeEnd tokens)[index]? = some t) :
    tokens[index]? = some t := by
  obtain ⟨hindex, hget⟩ := List.getElem?_eq_some_iff.mp h
  rw [← hget]
  exact List.prefix_iff_getElem?.mp (List.takeWhile_prefix _) index hindex

theorem opens_of_beforeEnd {o : Opening} (h : Opens v (beforeEnd tokens) o) : Opens v tokens o := by
  obtain ⟨t, ht, hopens⟩ := h
  exact ⟨t, getElem?_of_beforeEnd ht, hopens⟩

theorem closes_of_beforeEnd {c : Closer} (h : Closes v (beforeEnd tokens) c) :
    Closes v tokens c := by
  obtain ⟨t, ht, hcloses⟩ := h
  exact ⟨t, getElem?_of_beforeEnd ht, hcloses⟩

theorem concerns_of_mem_issues (h : issue ∈ issues v tokens) : Concerns v tokens issue := by
  obtain ⟨pairs, hprogress⟩ := progress_walk (progress_nil v) (beforeEnd tokens)
  rw [issues_eq] at h
  rcases List.mem_append.mp h with hfound | hlate
  · obtain ⟨c, hc, hreports⟩ := hprogress.reported.found_stray issue hfound
    have hcloses := closes_of_beforeEnd hc.closes
    cases hreports with
    | unexpected => exact .unexpected hcloses
    | mismatched hopen => exact .mismatched (opens_of_beforeEnd hopen.opens) hcloses
  · rcases unclosed_eq tokens (walk v 0 [] (beforeEnd tokens)).2 with
      ⟨-, hnone⟩ | ⟨-, position, hplace, hunclosed⟩
    · rw [hnone] at hlate
      cases hlate
    · rw [hunclosed] at hlate
      obtain ⟨o, ho, rfl⟩ := List.mem_map.mp hlate
      have hopened := (hprogress.paired.mem_openings o).mp ho
      exact .unclosed (opens_of_beforeEnd hopened.opens) hplace

theorem concerns_of_issues {others : List Issue} (h : issues v tokens = issue :: others) :
    Concerns v tokens issue := by
  apply concerns_of_mem_issues
  rw [h]
  exact List.mem_cons_self

end SourceCheck.Balance
