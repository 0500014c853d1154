import SourceCheck.Proofs.Balance.Matching
import SourceCheck.Proofs.Language.Compile

/-!
Every issue of a check accounts for one delimiter. The tokens before the end of input have a
matching whose pairs do not cross; the closers without a partner are reported where they stand, in
the order of the tokens, and then the openers without one at the end, innermost first.
-/

namespace SourceCheck.Balance

def TokenOpens (v : Vocabulary) (t : Token) (o : Opening) : Prop :=
  ∃ c, character? t = some c ∧ v.openingPair? c = some o.pair ∧ o.position = t.position

def TokenCloses (v : Vocabulary) (t : Token) (c : Closer) : Prop :=
  character? t = some c.character ∧ IsCloser v c.character ∧ c.position = t.position

def Opens (v : Vocabulary) (tokens : List Token) (o : Opening) : Prop :=
  ∃ t, tokens[o.index]? = some t ∧ TokenOpens v t o

def Closes (v : Vocabulary) (tokens : List Token) (c : Closer) : Prop :=
  ∃ t, tokens[c.index]? = some t ∧ TokenCloses v t c

def Matching.of (v : Vocabulary) (tokens : List Token) (pairs : List (Nat × Nat)) : Matching :=
  ⟨Balance.Opens v tokens, Balance.Closes v tokens, pairs⟩

variable {v : Vocabulary} {passed : List Token} {t : Token} {pairs : List (Nat × Nat)}

theorem getElem?_concat (passed : List Token) (t s : Token) (index : Nat) :
    (passed ++ [t])[index]? = some s ↔
      passed[index]? = some s ∨ (index = passed.length ∧ s = t) := by
  rcases Nat.lt_trichotomy index passed.length with hless | rfl | hgreater
  · rw [List.getElem?_append_left hless]
    exact ⟨.inl, fun h => h.resolve_right fun hlast => by omega⟩
  · simp [eq_comm]
  · rw [List.getElem?_eq_none (by simp; omega), List.getElem?_eq_none (by omega)]
    simp
    omega

theorem opens_concat (o : Opening) :
    Opens v (passed ++ [t]) o ↔ Opens v passed o ∨ (o.index = passed.length ∧ TokenOpens v t o) := by
  simp only [Opens, getElem?_concat]
  constructor
  · rintro ⟨s, hs | ⟨hindex, rfl⟩, hopens⟩
    · exact .inl ⟨s, hs, hopens⟩
    · exact .inr ⟨hindex, hopens⟩
  · rintro (⟨s, hs, hopens⟩ | ⟨hindex, hopens⟩)
    · exact ⟨s, .inl hs, hopens⟩
    · exact ⟨t, .inr ⟨hindex, rfl⟩, hopens⟩

theorem closes_concat (c : Closer) :
    Closes v (passed ++ [t]) c ↔
      Closes v passed c ∨ (c.index = passed.length ∧ TokenCloses v t c) := by
  simp only [Closes, getElem?_concat]
  constructor
  · rintro ⟨s, hs | ⟨hindex, rfl⟩, hcloses⟩
    · exact .inl ⟨s, hs, hcloses⟩
    · exact .inr ⟨hindex, hcloses⟩
  · rintro (⟨s, hs, hcloses⟩ | ⟨hindex, hcloses⟩)
    · exact ⟨s, .inl hs, hcloses⟩
    · exact ⟨t, .inr ⟨hindex, rfl⟩, hcloses⟩

theorem of_concat_eq {m : Matching} (hpairs : m.pairs = pairs)
    (hopens : ∀ o, Opens v (passed ++ [t]) o ↔ m.Opens o)
    (hcloses : ∀ c, Closes v (passed ++ [t]) c ↔ m.Closes c) :
    Matching.of v (passed ++ [t]) pairs = m := by
  subst hpairs
  obtain ⟨opens, closes, pairs⟩ := m
  rw [Matching.of, Matching.mk.injEq]
  exact ⟨funext fun o => propext (hopens o), funext fun c => propext (hcloses c), rfl⟩

theorem not_tokenCloses_of_opens {c : Char} {pair : DelimiterPair} (hc : character? t = some c)
    (hpair : v.openingPair? c = some pair) (d : Closer) : ¬ TokenCloses v t d := by
  rintro ⟨hd, hcloser, -⟩
  obtain rfl : c = d.character := Option.some.inj (hc.symm.trans hd)
  exact hcloser.1 (isOpener_of_openingPair? hpair)

theorem not_tokenOpens_of_closes {c : Char} (hc : character? t = some c) (hcloser : IsCloser v c)
    (o : Opening) : ¬ TokenOpens v t o := by
  rintro ⟨d, hd, hpair, -⟩
  obtain rfl : c = d := Option.some.inj (hc.symm.trans hd)
  exact hcloser.1 (isOpener_of_openingPair? hpair)

theorem of_opens {c : Char} {pair : DelimiterPair} (hc : character? t = some c)
    (hpair : v.openingPair? c = some pair) :
    Matching.of v (passed ++ [t]) pairs =
      (Matching.of v passed pairs).addOpener ⟨pair, passed.length, t.position⟩ := by
  refine of_concat_eq rfl (fun o => ?_) fun d => ?_
  · rw [opens_concat]
    refine or_congr_right ⟨?_, ?_⟩
    · rintro ⟨hindex, d, hd, hopens, hposition⟩
      obtain rfl : c = d := Option.some.inj (hc.symm.trans hd)
      obtain ⟨opair, index, position⟩ := o
      obtain rfl : pair = opair := Option.some.inj (hpair.symm.trans hopens)
      simp only at hindex hposition
      rw [hindex, hposition]
    · rintro rfl
      exact ⟨rfl, c, hc, hpair, rfl⟩
  · rw [closes_concat]
    exact or_iff_left fun h => not_tokenCloses_of_opens hc hpair d h.2

theorem of_closes {c : Char} (hc : character? t = some c) (hcloser : IsCloser v c) :
    Matching.of v (passed ++ [t]) pairs =
      (Matching.of v passed pairs).addCloser ⟨c, passed.length, t.position⟩ := by
  refine of_concat_eq rfl (fun o => ?_) fun d => ?_
  · rw [opens_concat]
    exact or_iff_left fun h => not_tokenOpens_of_closes hc hcloser o h.2
  · rw [closes_concat]
    refine or_congr_right ⟨?_, ?_⟩
    · rintro ⟨hindex, hd, -, hposition⟩
      obtain ⟨character, index, position⟩ := d
      obtain rfl : c = character := Option.some.inj (hc.symm.trans hd)
      simp only at hindex hposition
      rw [hindex, hposition]
    · rintro rfl
      exact ⟨rfl, hc, hcloser, rfl⟩

theorem of_pair {o : Opening} {c : Char} (hc : character? t = some c) (hcloser : IsCloser v c) :
    Matching.of v (passed ++ [t]) ((o.index, passed.length) :: pairs) =
      (Matching.of v passed pairs).addPair o ⟨c, passed.length, t.position⟩ := by
  have hadded : Matching.of v (passed ++ [t]) pairs =
      (Matching.of v passed pairs).addCloser ⟨c, passed.length, t.position⟩ := of_closes hc hcloser
  rw [Matching.addPair, ← hadded]
  rfl

theorem of_neutral (h : ∀ c, character? t = some c → ¬ IsOpener v c ∧ ¬ IsCloser v c) :
    Matching.of v (passed ++ [t]) pairs = Matching.of v passed pairs := by
  refine of_concat_eq rfl (fun o => ?_) fun d => ?_
  · rw [opens_concat]
    refine or_iff_left ?_
    rintro ⟨-, c, hc, hpair, -⟩
    exact (h c hc).1 (isOpener_of_openingPair? hpair)
  · rw [closes_concat]
    refine or_iff_left ?_
    rintro ⟨-, hc, hcloser, -⟩
    exact (h d.character hc).2 hcloser

structure Progress (v : Vocabulary) (passed : List Token) (openings : List Opening)
    (found : List Issue) (pairs : List (Nat × Nat)) : Prop where
  paired : Paired (.of v passed pairs) passed.length openings
  reported : Reported (.of v passed pairs) found

theorem progress_nil (v : Vocabulary) : Progress v [] [] [] [] := by
  have hopens : ∀ o, ¬ Opens v [] o := by
    rintro o ⟨t, ht, -⟩
    cases ht
  have hcloses : ∀ c, ¬ Closes v [] c := by
    rintro c ⟨t, ht, -⟩
    cases ht
  refine ⟨?_, ?_⟩
  · constructor
    · constructor <;> intros <;> contradiction
    · exact fun o ho => absurd ho (hopens o)
    · exact fun c hc => absurd hc (hcloses c)
    · exact fun o => iff_of_false List.not_mem_nil fun ho => hopens o ho.opens
    · exact .nil
    · exact fun i j hpair => absurd hpair List.not_mem_nil
  · constructor
    · exact fun c hc => absurd hc.closes (hcloses c)
    · exact fun issue hissue => absurd hissue List.not_mem_nil
    · exact .nil

variable {openings : List Opening} {found : List Issue}

/-- Each token keeps the account, with one more pair when it closes the innermost opener. -/
theorem progress_step (h : Progress v passed openings found pairs) (t : Token) :
    ∃ pairs, Progress v (passed ++ [t])
      (react (role v t) passed.length t.position openings).1
      (found ++ (react (role v t) passed.length t.position openings).2.toList) pairs := by
  have hacts := role_acts v t
  have hlength : (passed ++ [t]).length = passed.length + 1 := by
    rw [List.length_append, List.length_singleton]
  generalize role v t = r at hacts ⊢
  cases hacts with
  | @opens c pair hc hpair =>
    refine ⟨pairs, ?_, ?_⟩
    · rw [hlength, of_opens hc hpair]
      exact h.paired.addOpener rfl
    · rw [of_opens hc hpair, react, Option.toList_none, List.append_nil]
      exact h.reported.addOpener h.paired rfl
  | @closes c hc hcloser =>
    cases openings with
    | nil =>
      refine ⟨pairs, ?_, ?_⟩
      · rw [hlength, of_closes hc hcloser]
        exact h.paired.addCloser rfl
      · rw [of_closes hc hcloser]
        exact h.reported.addStray h.paired rfl
          (h.paired.reports_unexpected (c := ⟨c, passed.length, t.position⟩) rfl)
    | cons innermost outer =>
      by_cases hmatch : innermost.pair.closing = c
      · refine ⟨(innermost.index, passed.length) :: pairs, ?_, ?_⟩
        · rw [hlength, of_pair hc hcloser]
          simp only [react, hmatch, ↓reduceIte]
          exact h.paired.addPair rfl hmatch
        · rw [of_pair hc hcloser]
          simp only [react, hmatch, ↓reduceIte, Option.toList_none, List.append_nil]
          exact h.reported.addPair h.paired rfl
      · refine ⟨pairs, ?_, ?_⟩
        · rw [hlength, of_closes hc hcloser]
          simp only [react, hmatch, ↓reduceIte]
          exact h.paired.addCloser rfl
        · rw [of_closes hc hcloser]
          simp only [react, hmatch, ↓reduceIte]
          exact h.reported.addStray h.paired rfl
            (h.paired.reports_mismatched (c := ⟨c, passed.length, t.position⟩) rfl)
  | neutral hnone =>
    refine ⟨pairs, ?_, ?_⟩
    · rw [hlength, of_neutral hnone]
      exact h.paired.skip
    · rw [of_neutral hnone, react, Option.toList_none, List.append_nil]
      exact h.reported

theorem progress_walk (h : Progress v passed openings found pairs) (rest : List Token) :
    ∃ pairs, Progress v (passed ++ rest) (walk v passed.length openings rest).2
      (found ++ (walk v passed.length openings rest).1) pairs := by
  induction rest generalizing passed openings found pairs with
  | nil =>
    refine ⟨pairs, ?_⟩
    rwa [walk, List.append_nil, List.append_nil]
  | cons t rest ih =>
    obtain ⟨later, hstep⟩ := progress_step h t
    have hrest := ih hstep
    rwa [List.length_append, List.length_singleton, List.append_assoc, List.append_assoc,
      List.singleton_append] at hrest

/-- Where unclosed openers are reported. -/
inductive EndPlace (tokens : List Token) : Nat → Position → Prop where
  | endOfInput {index : Nat} {t : Token} (ht : tokens[index]? = some t) (hend : t.isEnd = true)
      (hfirst : ∀ earlier < index, ∀ s, tokens[earlier]? = some s → s.isEnd = false) :
      EndPlace tokens index t.position
  | last {index : Nat} {t : Token} (ht : tokens[index]? = some t)
      (hlast : tokens.length = index + 1) (hnone : ∀ s ∈ tokens, s.isEnd = false) :
      EndPlace tokens index t.position

theorem isEnd_of_mem_beforeEnd {tokens : List Token} (ht : t ∈ beforeEnd tokens) :
    t.isEnd = false := by
  have hall := List.all_eq_true.mp (List.all_takeWhile (p := fun t : Token => !t.isEnd)) t ht
  simpa using hall

/-- The tokens before the end of input are all tokens, or the end of input is the next. -/
theorem beforeEnd_eq (tokens : List Token) :
    (beforeEnd tokens = tokens ∧ ∀ t ∈ tokens, t.isEnd = false) ∨
      ∃ t later, tokens = beforeEnd tokens ++ t :: later ∧ t.isEnd = true := by
  have hsplit : beforeEnd tokens ++ tokens.dropWhile (fun t => !t.isEnd) = tokens :=
    List.takeWhile_append_dropWhile
  cases hrest : tokens.dropWhile (fun t => !t.isEnd) with
  | nil =>
    rw [hrest, List.append_nil] at hsplit
    refine .inl ⟨hsplit, fun t ht => ?_⟩
    rw [← hsplit] at ht
    exact isEnd_of_mem_beforeEnd ht
  | cons t later =>
    rw [hrest] at hsplit
    refine .inr ⟨t, later, hsplit.symm, ?_⟩
    have hhead := List.head_dropWhile_not (fun t : Token => !t.isEnd) (l := tokens)
      (by rw [hrest]; exact List.cons_ne_nil _ _)
    simpa [hrest] using hhead

theorem closingIndex_of_end {tokens later : List Token}
    (hsplit : tokens = beforeEnd tokens ++ t :: later) :
    closingIndex tokens = (beforeEnd tokens).length := by
  have hlength := congrArg List.length hsplit
  rw [List.length_append, List.length_cons] at hlength
  rw [closingIndex]
  omega

theorem endPlace_closing {tokens : List Token} (h : tokens ≠ []) :
    ∃ position, closing? tokens = some (closingIndex tokens, position) ∧
      EndPlace tokens (closingIndex tokens) position := by
  obtain ⟨t, ht, hclosing⟩ := closing?_eq h
  refine ⟨t.position, hclosing, ?_⟩
  rcases beforeEnd_eq tokens with ⟨hall, hnone⟩ | ⟨s, later, hsplit, hend⟩
  · have hlength := List.length_pos_iff.mpr h
    refine .last ht ?_ hnone
    rw [closingIndex, hall]
    omega
  · rw [closingIndex_of_end hsplit] at ht ⊢
    have hs : tokens[(beforeEnd tokens).length]? =
        (beforeEnd tokens ++ s :: later)[(beforeEnd tokens).length]? :=
      congrArg (fun l : List Token => l[(beforeEnd tokens).length]?) hsplit
    rw [List.getElem?_append_right (Nat.le_refl _), Nat.sub_self, List.getElem?_cons_zero] at hs
    obtain rfl : s = t := Option.some.inj (hs.symm.trans ht)
    refine .endOfInput ht hend fun earlier hless u hu => ?_
    rw [hsplit, List.getElem?_append_left hless] at hu
    exact isEnd_of_mem_beforeEnd (List.mem_of_getElem? hu)

theorem filter_key_eq {α : Type} {key : α → Nat} {l : List α} {a : α}
    (h : l.Pairwise fun a b => key a ≠ key b) (ha : a ∈ l) :
    l.filter (fun b => key b = key a) = [a] := by
  induction l with
  | nil => cases ha
  | cons b l ih =>
    obtain ⟨hb, hl⟩ := List.pairwise_cons.mp h
    rcases List.mem_cons.mp ha with rfl | ha
    · have hnone : l.filter (fun b => key b = key a) = [] :=
        List.filter_eq_nil_iff.mpr fun c hc => by simpa using (hb c hc).symm
      rw [List.filter_cons_of_pos (by simp), hnone]
    · rw [List.filter_cons_of_neg (by simpa using hb a ha), ih hl ha]

theorem unclosed_eq (tokens : List Token) (left : List Opening) :
    (tokens = [] ∧ unclosed tokens left = []) ∨
      tokens ≠ [] ∧ ∃ position, EndPlace tokens (closingIndex tokens) position ∧
        unclosed tokens left =
          left.map fun opening => ⟨.unclosed opening, closingIndex tokens, position⟩ := by
  by_cases htokens : tokens = []
  · subst htokens
    exact .inl ⟨rfl, rfl⟩
  · obtain ⟨position, hclosing, hplace⟩ := endPlace_closing htokens
    exact .inr ⟨htokens, position, hplace, by rw [unclosed, hclosing]⟩

theorem mem_unclosed {tokens : List Token} {left : List Opening} {issue : Issue}
    (h : issue ∈ unclosed tokens left) :
    issue.index = closingIndex tokens ∧ closingIndex tokens < tokens.length ∧
      ∃ o ∈ left, issue.cause = .unclosed o := by
  rcases unclosed_eq tokens left with ⟨-, hnone⟩ | ⟨htokens, position, -, heq⟩
  · rw [hnone] at h
    cases h
  · rw [heq] at h
    obtain ⟨o, ho, rfl⟩ := List.mem_map.mp h
    exact ⟨rfl, closingIndex_lt htokens, o, ho, rfl⟩

theorem problem_of_mem_unclosed {tokens : List Token} {left : List Opening} {issue : Issue}
    (h : issue ∈ unclosed tokens left) : issue.cause.problem = .unclosedDelimiter := by
  obtain ⟨-, -, o, -, hcause⟩ := mem_unclosed h
  rw [hcause]
  rfl

/-- How the issues of a check account for the delimiters that a matching leaves over. -/
structure Account (tokens : List Token) (verdict : Verdict) (m : Matching) : Prop where
  non_crossing : m.NonCrossing
  /-- Unless unclosed openers are reported at the last token, no other issue is there. -/
  stray : ∀ c, m.Stray c → ∃ issue, m.Reports c issue ∧
    verdict.issues.filter (fun other =>
      other.index = c.index ∧ other.cause.problem ≠ .unclosedDelimiter) = [issue] ∧
    ((∃ t ∈ tokens, t.isEnd = true) →
      verdict.issues.filter (fun other => other.index = c.index) = [issue])
  unclosed : ∀ o, m.Unclosed o → ∃ index position, EndPlace tokens index position ∧
    verdict.issues.filter (fun other =>
      other.openedAt = some o.index ∧ other.cause.problem = .unclosedDelimiter) =
        [⟨.unclosed o, index, position⟩]
  no_other : ∀ issue ∈ verdict.issues,
    (∃ c, m.Stray c ∧ m.Reports c issue) ∨ ∃ o, m.Unclosed o ∧ issue.cause = .unclosed o
  ordered : ∃ strays unclosed, verdict.issues = strays ++ unclosed ∧
    (∀ issue ∈ strays, issue.cause.problem ≠ .unclosedDelimiter) ∧
    strays.Pairwise (fun a b => a.index < b.index) ∧
    (∀ issue ∈ unclosed, issue.cause.problem = .unclosedDelimiter) ∧
    unclosed.Pairwise fun a b =>
      ∀ i j, a.openedAt = some i → b.openedAt = some j → j < i
  ok_iff : verdict.ok = true ↔ verdict.issues = []
  within : ∀ issue ∈ verdict.issues, issue.index < tokens.length ∧
    ∀ i, issue.openedAt = some i → i < tokens.length ∧ i ≤ issue.index

namespace Progress

variable {tokens : List Token} {left : List Opening}
variable (h : Progress v (beforeEnd tokens) left found pairs)

include h

theorem found_problem {issue : Issue} (hissue : issue ∈ found) :
    issue.cause.problem ≠ .unclosedDelimiter := by
  obtain ⟨c, -, hreports⟩ := h.reported.found_stray issue hissue
  exact hreports.not_unclosed

theorem found_index {c : Closer} {issue : Issue} (hissue : issue ∈ found)
    (hreports : (Matching.of v (beforeEnd tokens) pairs).Reports c issue) :
    found.filter (fun other => other.index = c.index) = [issue] := by
  rw [← hreports.index_eq]
  exact filter_key_eq (h.reported.increasing.imp fun hless => Nat.ne_of_lt hless) hissue

theorem left_before {o : Opening} (ho : o ∈ left) : o.index < (beforeEnd tokens).length :=
  h.paired.openers_passed o ((h.paired.mem_openings o).mp ho).opens

theorem stray_once {c : Closer} {issue : Issue} (hissue : issue ∈ found)
    (hreports : (Matching.of v (beforeEnd tokens) pairs).Reports c issue) :
    (found ++ unclosed tokens left).filter (fun other =>
      other.index = c.index ∧ other.cause.problem ≠ .unclosedDelimiter) = [issue] := by
  have hfound : found.filter (fun other =>
      other.index = c.index ∧ other.cause.problem ≠ .unclosedDelimiter) =
        found.filter (fun other => other.index = c.index) :=
    List.filter_congr fun other hother => by simp [h.found_problem hother]
  have hlate : (unclosed tokens left).filter (fun other =>
      other.index = c.index ∧ other.cause.problem ≠ .unclosedDelimiter) = [] :=
    List.filter_eq_nil_iff.mpr fun other hother => by simp [problem_of_mem_unclosed hother]
  rw [List.filter_append, hfound, hlate, h.found_index hissue hreports, List.append_nil]

/-- With an end of input, nothing else is reported at a stray closer. -/
theorem stray_alone {c : Closer} {issue : Issue} (hissue : issue ∈ found)
    (hc : (Matching.of v (beforeEnd tokens) pairs).Stray c)
    (hreports : (Matching.of v (beforeEnd tokens) pairs).Reports c issue)
    (hend : ∃ t ∈ tokens, t.isEnd = true) :
    (found ++ unclosed tokens left).filter (fun other => other.index = c.index) = [issue] := by
  have hpassed := h.paired.closers_passed c hc.closes
  have hindex : closingIndex tokens = (beforeEnd tokens).length := by
    rcases beforeEnd_eq tokens with ⟨-, hnone⟩ | ⟨t, later, hsplit, -⟩
    · obtain ⟨t, ht, hisEnd⟩ := hend
      rw [hnone t ht] at hisEnd
      cases hisEnd
    · exact closingIndex_of_end hsplit
  have hlate : (unclosed tokens left).filter (fun other => other.index = c.index) = [] := by
    refine List.filter_eq_nil_iff.mpr fun other hother => ?_
    obtain ⟨hother, -, -⟩ := mem_unclosed hother
    rw [decide_eq_true_eq]
    omega
  rw [List.filter_append, hlate, h.found_index hissue hreports, List.append_nil]

theorem unclosed_once {o : Opening} (ho : o ∈ left) :
    ∃ index position, EndPlace tokens index position ∧
      (found ++ unclosed tokens left).filter (fun other =>
        other.openedAt = some o.index ∧ other.cause.problem = .unclosedDelimiter) =
          [⟨.unclosed o, index, position⟩] := by
  have hbefore := h.left_before ho
  rcases unclosed_eq tokens left with ⟨rfl, -⟩ | ⟨-, position, hplace, heq⟩
  · exact absurd hbefore (Nat.not_lt_zero _)
  refine ⟨closingIndex tokens, position, hplace, ?_⟩
  have hfound : found.filter (fun other =>
      other.openedAt = some o.index ∧ other.cause.problem = .unclosedDelimiter) = [] :=
    List.filter_eq_nil_iff.mpr fun other hother => by simp [h.found_problem hother]
  have hone : left.filter (fun p => p.index = o.index) = [o] :=
    filter_key_eq (h.paired.innermost_first.imp fun hless => Nat.ne_of_gt hless) ho
  rw [List.filter_append, hfound, List.nil_append, heq, List.filter_map]
  have hsame : ((fun other : Issue => decide (other.openedAt = some o.index ∧
      other.cause.problem = .unclosedDelimiter)) ∘
        fun opening => ⟨.unclosed opening, closingIndex tokens, position⟩) =
      fun p : Opening => decide (p.index = o.index) := by
    funext p
    simp [Issue.openedAt, Cause.openedBy, Cause.problem]
  rw [hsame, hone, List.map_singleton]

theorem issue_within {issue : Issue} (hissue : issue ∈ found ++ unclosed tokens left) :
    issue.index < tokens.length ∧
      ∀ i, issue.openedAt = some i → i < tokens.length ∧ i ≤ issue.index := by
  have hlength : (beforeEnd tokens).length ≤ tokens.length :=
    (List.takeWhile_sublist _).length_le
  rcases List.mem_append.mp hissue with hfound | hlate
  · obtain ⟨c, hc, hreports⟩ := h.reported.found_stray issue hfound
    have hpassed := h.paired.closers_passed c hc.closes
    cases hreports with
    | unexpected hnone => exact ⟨Nat.lt_of_lt_of_le hpassed hlength, fun i hi => by cases hi⟩
    | @mismatched innermost hopen =>
      refine ⟨Nat.lt_of_lt_of_le hpassed hlength, fun i hi => ?_⟩
      obtain rfl : innermost.index = i := Option.some.inj hi
      have hbefore := hopen.before
      exact ⟨by omega, Nat.le_of_lt hbefore⟩
  · obtain ⟨hindex, hless, o, ho, hcause⟩ := mem_unclosed hlate
    have hbefore := h.left_before ho
    refine ⟨by omega, fun i hi => ?_⟩
    rw [Issue.openedAt, hcause] at hi
    obtain rfl : o.index = i := Option.some.inj hi
    rw [closingIndex] at hindex
    omega

theorem late_decreasing : (unclosed tokens left).Pairwise fun a b =>
    ∀ i j, a.openedAt = some i → b.openedAt = some j → j < i := by
  rcases unclosed_eq tokens left with ⟨-, hnone⟩ | ⟨-, position, -, heq⟩
  · rw [hnone]
    exact .nil
  · rw [heq, List.pairwise_map]
    refine h.paired.innermost_first.imp fun hless i j hi hj => ?_
    cases hi
    cases hj
    exact hless

theorem account : Account tokens ⟨found ++ unclosed tokens left⟩
    (.of v (beforeEnd tokens) pairs) := by
  constructor
  · exact h.paired.non_crossing
  · intro c hc
    obtain ⟨issue, hissue, hreports⟩ := h.reported.stray_reported c hc
    exact ⟨issue, hreports, h.stray_once hissue hreports, h.stray_alone hissue hc hreports⟩
  · intro o ho
    exact h.unclosed_once ((h.paired.mem_openings o).mpr ho)
  · intro issue hissue
    rcases List.mem_append.mp hissue with hfound | hlate
    · exact .inl (h.reported.found_stray issue hfound)
    · obtain ⟨-, -, o, ho, hcause⟩ := mem_unclosed hlate
      exact .inr ⟨o, (h.paired.mem_openings o).mp ho, hcause⟩
  · exact ⟨found, unclosed tokens left, rfl, fun issue => h.found_problem, h.reported.increasing,
      fun issue => problem_of_mem_unclosed, h.late_decreasing⟩
  · exact List.isEmpty_iff
  · exact fun issue => h.issue_within

end Progress

/-- The matched delimiters of a token sequence are well nested, and its issues are one for each
delimiter that is left over. -/
theorem issues_account_for_delimiters (v : Vocabulary) (tokens : List Token) :
    ∃ pairs, Account tokens (check v tokens) (.of v (beforeEnd tokens) pairs) := by
  obtain ⟨pairs, h⟩ := progress_walk (progress_nil v) (beforeEnd tokens)
  exact ⟨pairs, h.account⟩

/-- A bracket that closes nothing is the last token, so the parenthesis that is never closed is
reported there too. -/
theorem last_closer_has_two_issues :
    ∃ v, Language.standard.compile = .ok v ∧
      let tokens : List Token := [⟨.delimiter, "(", ⟨1, 1⟩⟩, ⟨.delimiter, "]", ⟨1, 2⟩⟩]
      ∀ pairs, (Matching.of v (beforeEnd tokens) pairs).NonCrossing →
        ∃ c, (Matching.of v (beforeEnd tokens) pairs).Stray c ∧
          ((check v tokens).issues.filter (fun issue => issue.index = c.index)).length = 2 := by
  obtain ⟨v, hv, hopening, hcloser, htwo⟩ := Language.standard_satisfies
    (p := fun v => v.openingPair? '(' = some ⟨'(', ')'⟩ ∧ IsCloser v ']' ∧
      ((check v [⟨.delimiter, "(", ⟨1, 1⟩⟩, ⟨.delimiter, "]", ⟨1, 2⟩⟩]).issues.filter
        (fun issue => issue.index = 1)).length = 2) (by decide +kernel)
  refine ⟨v, hv, fun pairs h => ⟨⟨']', 1, ⟨1, 2⟩⟩, ⟨?_, ?_⟩, htwo⟩⟩
  · exact ⟨_, rfl, rfl, hcloser, rfl⟩
  · intro opener hpaired
    obtain ⟨hless, o, c, hopens, hcloses, rfl, hindex, hclosing⟩ := h.matched _ _ hpaired
    obtain ⟨t, ht, d, hd, hpair, -⟩ := hopens
    obtain ⟨s, hs, hcharacter, -, -⟩ := hcloses
    have hfirst : o.index = 0 := Nat.lt_one_iff.mp hless
    rw [hfirst] at ht
    rw [hindex] at hs
    cases ht
    cases hs
    have hparenthesis : '(' = d := Option.some.inj hd
    have hbracket : ']' = c.character := Option.some.inj hcharacter
    rw [← hparenthesis, hopening] at hpair
    rw [← hbracket, ← Option.some.inj hpair] at hclosing
    exact absurd hclosing (by decide)

end SourceCheck.Balance
