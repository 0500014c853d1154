import SourceCheck.Balance.Report
import SourceCheck.Proofs.Balance.Roles

/-!
The account that a check gives of the delimiters. Openers and closers belong together in a matching
whose pairs do not cross. Every closer without a partner is reported once where it stands, every
opener without one is reported once at the end, and nothing else is reported.

The account is kept up token by token: a token adds an opener, adds a stray closer, closes the
innermost opener, or changes nothing.
-/

namespace SourceCheck.Balance

structure Closer where
  character : Char
  index : Nat
  position : Position
  deriving DecidableEq, Repr

structure Matching where
  Opens : Opening → Prop
  Closes : Closer → Prop
  pairs : List (Nat × Nat)

namespace Matching

structure OpenAt (m : Matching) (index : Nat) (o : Opening) : Prop where
  opens : m.Opens o
  before : o.index < index
  not_closed : ∀ closer < index, (o.index, closer) ∉ m.pairs

structure Unclosed (m : Matching) (o : Opening) : Prop where
  opens : m.Opens o
  unpaired : ∀ closer, (o.index, closer) ∉ m.pairs

structure Stray (m : Matching) (c : Closer) : Prop where
  closes : m.Closes c
  unpaired : ∀ opener, (opener, c.index) ∉ m.pairs

inductive Reports (m : Matching) (c : Closer) : Issue → Prop where
  | unexpected (hnone : ∀ o, ¬ m.OpenAt c.index o) :
      Reports m c ⟨.unexpected c.character, c.index, c.position⟩
  | mismatched {innermost : Opening} (hopen : m.OpenAt c.index innermost)
      (hinnermost : ∀ o, m.OpenAt c.index o → o.index ≤ innermost.index) :
      Reports m c ⟨.mismatched c.character innermost, c.index, c.position⟩

variable {m : Matching} {c : Closer} {issue : Issue}

theorem Reports.index_eq (h : m.Reports c issue) : issue.index = c.index := by
  cases h <;> rfl

theorem Reports.not_unclosed (h : m.Reports c issue) :
    issue.cause.problem ≠ .unclosedDelimiter := by
  cases h <;> simp [Cause.problem]

/-- A report speaks of the openers that are open at the closer, and of nothing else. -/
theorem Reports.congr {m' : Matching} (h : m.Reports c issue)
    (hopen : ∀ o, m'.OpenAt c.index o ↔ m.OpenAt c.index o) : m'.Reports c issue := by
  cases h with
  | unexpected hnone => exact .unexpected fun o ho => hnone o ((hopen o).mp ho)
  | mismatched hinnermost hmost =>
    exact .mismatched ((hopen _).mpr hinnermost) fun o ho => hmost o ((hopen o).mp ho)

def addOpener (m : Matching) (o : Opening) : Matching :=
  { m with Opens := fun p => m.Opens p ∨ p = o }

def addCloser (m : Matching) (c : Closer) : Matching :=
  { m with Closes := fun d => m.Closes d ∨ d = c }

def addPair (m : Matching) (o : Opening) (c : Closer) : Matching :=
  { m.addCloser c with pairs := (o.index, c.index) :: m.pairs }

theorem mem_addPair {o : Opening} {i j : Nat} :
    (i, j) ∈ (m.addPair o c).pairs ↔ (i = o.index ∧ j = c.index) ∨ (i, j) ∈ m.pairs := by
  simp [addPair]

end Matching

/-- Each pair joins an opener with a later closer of what it opens, no two pairs share an end, and
no two cross. -/
structure Matching.NonCrossing (m : Matching) : Prop where
  matched : ∀ i j, (i, j) ∈ m.pairs → i < j ∧
    ∃ o c, m.Opens o ∧ m.Closes c ∧ o.index = i ∧ c.index = j ∧ o.pair.closing = c.character
  opener_once : ∀ i j k, (i, j) ∈ m.pairs → (i, k) ∈ m.pairs → j = k
  closer_once : ∀ i j k, (i, k) ∈ m.pairs → (j, k) ∈ m.pairs → i = j
  nested : ∀ i j k l, (i, j) ∈ m.pairs → (k, l) ∈ m.pairs → i < k → k < j → l < j

structure Paired (m : Matching) (passed : Nat) (openings : List Opening) : Prop where
  non_crossing : m.NonCrossing
  openers_passed : ∀ o, m.Opens o → o.index < passed
  closers_passed : ∀ c, m.Closes c → c.index < passed
  mem_openings : ∀ o, o ∈ openings ↔ m.Unclosed o
  innermost_first : openings.Pairwise fun a b => b.index < a.index
  /-- What is open lies before a pair or behind it, never inside. -/
  apart : ∀ i j, (i, j) ∈ m.pairs → ∀ o ∈ openings, o.index < i ∨ j < o.index

/-- The stray closers and the issues found are the same, in the order of the tokens. -/
structure Reported (m : Matching) (found : List Issue) : Prop where
  stray_reported : ∀ c, m.Stray c → ∃ issue ∈ found, m.Reports c issue
  found_stray : ∀ issue ∈ found, ∃ c, m.Stray c ∧ m.Reports c issue
  increasing : found.Pairwise fun a b => a.index < b.index

variable {m : Matching} {passed : Nat} {openings outer : List Opening} {found : List Issue}
variable {o innermost : Opening} {c : Closer} {issue : Issue}

namespace Paired

theorem pair_passed (h : Paired m passed openings) {i j : Nat} (hpair : (i, j) ∈ m.pairs) :
    i < passed ∧ j < passed := by
  obtain ⟨hless, -, c, -, hcloses, -, rfl, -⟩ := h.non_crossing.matched i j hpair
  have hpassed := h.closers_passed c hcloses
  omega

theorem openAt_passed (h : Paired m passed openings) (o : Opening) :
    m.OpenAt passed o ↔ o ∈ openings := by
  rw [h.mem_openings]
  constructor
  · intro hopen
    refine ⟨hopen.opens, fun closer hpair => ?_⟩
    exact hopen.not_closed closer (h.pair_passed hpair).2 hpair
  · intro hopen
    exact ⟨hopen.opens, h.openers_passed o hopen.opens, fun closer _ => hopen.unpaired closer⟩

theorem skip (h : Paired m passed openings) : Paired m (passed + 1) openings :=
  { h with
    openers_passed := fun o ho => Nat.lt_succ_of_lt (h.openers_passed o ho)
    closers_passed := fun c hc => Nat.lt_succ_of_lt (h.closers_passed c hc) }

theorem addOpener (h : Paired m passed openings) (ho : o.index = passed) :
    Paired (m.addOpener o) (passed + 1) (o :: openings) := by
  constructor
  · refine { h.non_crossing with matched := fun i j hpair => ?_ }
    obtain ⟨hless, p, c, hp, hends⟩ := h.non_crossing.matched i j hpair
    exact ⟨hless, p, c, .inl hp, hends⟩
  · rintro p (hp | rfl)
    · exact h.skip.openers_passed p hp
    · omega
  · exact h.skip.closers_passed
  · intro p
    rw [List.mem_cons, h.mem_openings]
    constructor
    · rintro (rfl | hp)
      · refine ⟨.inr rfl, fun closer hpair => ?_⟩
        have hpassed := (h.pair_passed hpair).1
        omega
      · exact ⟨.inl hp.opens, hp.unpaired⟩
    · rintro ⟨hp | rfl, hunpaired⟩
      · exact .inr ⟨hp, hunpaired⟩
      · exact .inl rfl
  · refine List.pairwise_cons.mpr ⟨fun p hp => ?_, h.innermost_first⟩
    rw [ho]
    exact h.openers_passed p ((h.mem_openings p).mp hp).opens
  · intro i j hpair p hp
    rcases List.mem_cons.mp hp with rfl | hp
    · have hpassed := (h.pair_passed hpair).2
      omega
    · exact h.apart i j hpair p hp

theorem addCloser (h : Paired m passed openings) (hc : c.index = passed) :
    Paired (m.addCloser c) (passed + 1) openings := by
  constructor
  · refine { h.non_crossing with matched := fun i j hpair => ?_ }
    obtain ⟨hless, p, d, hp, hd, hends⟩ := h.non_crossing.matched i j hpair
    exact ⟨hless, p, d, hp, .inl hd, hends⟩
  · exact h.skip.openers_passed
  · rintro d (hd | rfl)
    · exact h.skip.closers_passed d hd
    · omega
  · intro p
    rw [h.mem_openings]
    exact ⟨fun hp => ⟨hp.opens, hp.unpaired⟩, fun hp => ⟨hp.opens, hp.unpaired⟩⟩
  · exact h.innermost_first
  · exact h.apart

theorem unclosed_addPair (h : Paired m passed (innermost :: outer)) :
    o ∈ outer ↔ (m.addPair innermost c).Unclosed o := by
  constructor
  · intro ho
    have hless := List.rel_of_pairwise_cons h.innermost_first ho
    have hopened := (h.mem_openings o).mp (List.mem_cons_of_mem _ ho)
    refine ⟨hopened.opens, fun closer hpair => ?_⟩
    rcases Matching.mem_addPair.mp hpair with ⟨hindex, -⟩ | hpair
    · omega
    · exact hopened.unpaired closer hpair
  · intro ho
    have hopened : m.Unclosed o :=
      ⟨ho.opens, fun closer hpair => ho.unpaired closer (Matching.mem_addPair.mpr (.inr hpair))⟩
    rcases List.mem_cons.mp ((h.mem_openings o).mpr hopened) with rfl | ho'
    · exact absurd (Matching.mem_addPair.mpr (.inl ⟨rfl, rfl⟩)) (ho.unpaired c.index)
    · exact ho'

/-- A pair of the innermost open delimiter with a closer behind all tokens crosses no other. -/
theorem nonCrossing_addPair (h : Paired m passed (innermost :: outer)) (hc : c.index = passed)
    (hcloses : innermost.pair.closing = c.character) : (m.addPair innermost c).NonCrossing := by
  have hunclosed := (h.mem_openings innermost).mp List.mem_cons_self
  have hbefore := h.openers_passed innermost hunclosed.opens
  constructor
  · intro i j hpair
    rcases Matching.mem_addPair.mp hpair with ⟨rfl, rfl⟩ | hpair
    · exact ⟨by omega, innermost, c, hunclosed.opens, .inr rfl, rfl, rfl, hcloses⟩
    · exact (h.addCloser hc).non_crossing.matched i j hpair
  · intro i j k hj hk
    rcases Matching.mem_addPair.mp hj with ⟨rfl, rfl⟩ | hj
    · rcases Matching.mem_addPair.mp hk with ⟨-, rfl⟩ | hk
      · rfl
      · exact absurd hk (hunclosed.unpaired k)
    · rcases Matching.mem_addPair.mp hk with ⟨rfl, -⟩ | hk
      · exact absurd hj (hunclosed.unpaired j)
      · exact h.non_crossing.opener_once i j k hj hk
  · intro i j k hi hj
    rcases Matching.mem_addPair.mp hi with ⟨rfl, rfl⟩ | hi
    · rcases Matching.mem_addPair.mp hj with ⟨rfl, -⟩ | hj
      · rfl
      · have hpassed := (h.pair_passed hj).2
        omega
    · rcases Matching.mem_addPair.mp hj with ⟨-, rfl⟩ | hj
      · have hpassed := (h.pair_passed hi).2
        omega
      · exact h.non_crossing.closer_once i j k hi hj
  · intro i j k l hij hkl hik hkj
    rcases Matching.mem_addPair.mp hij with ⟨rfl, rfl⟩ | hij
    · rcases Matching.mem_addPair.mp hkl with ⟨rfl, rfl⟩ | hkl
      · omega
      · have hpassed := (h.pair_passed hkl).2
        omega
    · rcases Matching.mem_addPair.mp hkl with ⟨rfl, rfl⟩ | hkl
      · have hapart := h.apart i j hij innermost List.mem_cons_self
        omega
      · exact h.non_crossing.nested i j k l hij hkl hik hkj

theorem addPair (h : Paired m passed (innermost :: outer)) (hc : c.index = passed)
    (hcloses : innermost.pair.closing = c.character) :
    Paired (m.addPair innermost c) (passed + 1) outer := by
  have hadded := h.addCloser hc
  constructor
  · exact h.nonCrossing_addPair hc hcloses
  · exact hadded.openers_passed
  · exact hadded.closers_passed
  · exact fun o => h.unclosed_addPair
  · exact h.innermost_first.of_cons
  · intro i j hpair o ho
    rcases Matching.mem_addPair.mp hpair with ⟨rfl, rfl⟩ | hpair
    · exact .inl (List.rel_of_pairwise_cons h.innermost_first ho)
    · exact h.apart i j hpair o (List.mem_cons_of_mem _ ho)

theorem reports_mismatched (h : Paired m passed (innermost :: outer)) (hc : c.index = passed) :
    m.Reports c ⟨.mismatched c.character innermost, c.index, c.position⟩ := by
  refine .mismatched ?_ fun o ho => ?_
  · rw [hc, h.openAt_passed]
    exact List.mem_cons_self
  · rw [hc, h.openAt_passed] at ho
    rcases List.mem_cons.mp ho with rfl | ho
    · exact Nat.le_refl _
    · exact Nat.le_of_lt (List.rel_of_pairwise_cons h.innermost_first ho)

theorem reports_unexpected (h : Paired m passed []) (hc : c.index = passed) :
    m.Reports c ⟨.unexpected c.character, c.index, c.position⟩ := by
  refine .unexpected fun o ho => ?_
  rw [hc, h.openAt_passed] at ho
  cases ho

end Paired

namespace Reported

/-- The issues stay right as long as the stray closers stay the same, with the same openers open. -/
theorem congr {m' : Matching} (h : Reported m found) (hstray : ∀ c, m'.Stray c ↔ m.Stray c)
    (hopen : ∀ c, m.Closes c → ∀ o, m'.OpenAt c.index o ↔ m.OpenAt c.index o) :
    Reported m' found where
  stray_reported c hc := by
    have hc' := (hstray c).mp hc
    obtain ⟨issue, hissue, hreports⟩ := h.stray_reported c hc'
    exact ⟨issue, hissue, hreports.congr (hopen c hc'.closes)⟩
  found_stray issue hissue := by
    obtain ⟨c, hc, hreports⟩ := h.found_stray issue hissue
    exact ⟨c, (hstray c).mpr hc, hreports.congr (hopen c hc.closes)⟩
  increasing := h.increasing

theorem addOpener (h : Reported m found) (hpaired : Paired m passed openings)
    (ho : o.index = passed) : Reported (m.addOpener o) found := by
  refine h.congr (fun c => ⟨fun hc => ⟨hc.closes, hc.unpaired⟩, fun hc => ⟨hc.closes, hc.unpaired⟩⟩)
    fun c hc p => ?_
  have hpassed := hpaired.closers_passed c hc
  constructor
  · rintro ⟨hp | rfl, hbefore, hclosed⟩
    · exact ⟨hp, hbefore, hclosed⟩
    · omega
  · intro hp
    exact ⟨.inl hp.opens, hp.before, hp.not_closed⟩

/-- The new pair ends behind every earlier closer, so what it closes was still open there. -/
theorem addPair (h : Reported m found) (hpaired : Paired m passed (innermost :: outer))
    (hc : c.index = passed) : Reported (m.addPair innermost c) found := by
  refine h.congr (fun d => ⟨?_, ?_⟩) fun d hd o => ⟨?_, ?_⟩
  · rintro ⟨hd | rfl, hunpaired⟩
    · exact ⟨hd, fun opener hpair => hunpaired opener (Matching.mem_addPair.mpr (.inr hpair))⟩
    · exact absurd (Matching.mem_addPair.mpr (.inl ⟨rfl, rfl⟩)) (hunpaired innermost.index)
  · rintro ⟨hd, hunpaired⟩
    have hpassed := hpaired.closers_passed d hd
    refine ⟨.inl hd, fun opener hpair => ?_⟩
    rcases Matching.mem_addPair.mp hpair with ⟨-, hlast⟩ | hpair
    · omega
    · exact hunpaired opener hpair
  · rintro ⟨ho, hbefore, hclosed⟩
    exact ⟨ho, hbefore, fun closer hless hpair =>
      hclosed closer hless (Matching.mem_addPair.mpr (.inr hpair))⟩
  · rintro ⟨ho, hbefore, hclosed⟩
    have hpassed := hpaired.closers_passed d hd
    refine ⟨ho, hbefore, fun closer hless hpair => ?_⟩
    rcases Matching.mem_addPair.mp hpair with ⟨-, rfl⟩ | hpair
    · omega
    · exact hclosed closer hless hpair

theorem addStray (h : Reported m found) (hpaired : Paired m passed openings)
    (hc : c.index = passed) (hreports : m.Reports c issue) :
    Reported (m.addCloser c) (found ++ [issue]) := by
  have hopen : ∀ index p, (m.addCloser c).OpenAt index p ↔ m.OpenAt index p := by
    intro index p
    exact ⟨fun ⟨hp, hbefore, hclosed⟩ => ⟨hp, hbefore, hclosed⟩,
      fun ⟨hp, hbefore, hclosed⟩ => ⟨hp, hbefore, hclosed⟩⟩
  have hstray : (m.addCloser c).Stray c := by
    refine ⟨.inr rfl, fun opener hpair => ?_⟩
    have hpassed := (hpaired.pair_passed hpair).2
    omega
  constructor
  · rintro d ⟨hd | rfl, hunpaired⟩
    · obtain ⟨earlier, hearlier, hdReports⟩ := h.stray_reported d ⟨hd, hunpaired⟩
      exact ⟨earlier, List.mem_append_left _ hearlier, hdReports.congr (hopen d.index)⟩
    · exact ⟨issue, List.mem_append_right _ List.mem_cons_self, hreports.congr (hopen d.index)⟩
  · intro other hother
    rcases List.mem_append.mp hother with hearlier | hlast
    · obtain ⟨d, hd, hdReports⟩ := h.found_stray other hearlier
      exact ⟨d, ⟨.inl hd.closes, hd.unpaired⟩, hdReports.congr (hopen d.index)⟩
    · rw [List.mem_singleton.mp hlast]
      exact ⟨c, hstray, hreports.congr (hopen c.index)⟩
  · refine List.pairwise_append.mpr ⟨h.increasing, List.pairwise_singleton _ _, ?_⟩
    intro earlier hearlier last hlast
    obtain ⟨d, hd, hdReports⟩ := h.found_stray earlier hearlier
    rw [List.mem_singleton.mp hlast, hreports.index_eq, hdReports.index_eq, hc]
    exact hpaired.closers_passed d hd.closes

end Reported

end SourceCheck.Balance
