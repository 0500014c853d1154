import SourceCheck.Proofs.Scan.Rules

/-!
Runs of the cursor. What it yields is what the division of the source into spans reports, one item
at a time, until the end of the input; the run ends, and no operation fails on the way.
-/

namespace SourceCheck.Scan

/-- The input that the scan passes over from `c`, in the cases in which it is not a lexeme. -/
inductive Ignored (v : Vocabulary) (c : Char) (input : List Char) : SpanKind → Nat → Prop where
  | blank (hblank : Text.isBlank c = true) :
      Ignored v c input .blank (runLength Text.isBlank input)
  | lineComment {m : Marker} (hblank : ¬ Text.isBlank c = true)
      (hline : v.lineComment? (c :: input) = some m) :
      Ignored v c input .comment
        (m.rest.length + runLength (· ≠ '\n') (input.drop m.rest.length))
  | blockComment {block : BlockComment} {body : Nat} (hblank : ¬ Text.isBlank c = true)
      (hline : v.lineComment? (c :: input) = none) (hblock : v.blockComment = some block)
      (hbegins : block.opening.begins (c :: input) = true)
      (hbody : block.closing.end? (input.drop block.opening.rest.length) = some body) :
      Ignored v c input .comment (block.opening.rest.length + body)
  | unterminated {block : BlockComment} (hblank : ¬ Text.isBlank c = true)
      (hline : v.lineComment? (c :: input) = none) (hblock : v.blockComment = some block)
      (hbegins : block.opening.begins (c :: input) = true)
      (hbody : block.closing.end? (input.drop block.opening.rest.length) = none) :
      Ignored v c input (.fault (.unterminatedComment block.opening)) input.length

variable {v : Vocabulary} {c : Char} {input : List Char}

theorem ignored_of_eq_some {kind : SpanKind} {length : Nat}
    (h : ignored? v c input = some (kind, length)) : Ignored v c input kind length := by
  unfold ignored? at h
  split at h
  · next hblank => cases h; exact .blank hblank
  next hblank =>
  split at h
  · next m hline => cases h; exact .lineComment hblank hline
  next hline =>
  split at h
  · cases h
  next block hblock =>
  split at h
  · next hbegins =>
    simp only at h
    split at h
    · next body hbody => cases h; exact .blockComment hblank hline hblock hbegins hbody
    · next hbody => cases h; exact .unterminated hblank hline hblock hbegins hbody
  · cases h

theorem ignored?_eq_none (h : ignored? v c input = none) :
    ¬ Text.isBlank c = true ∧ v.lineComment? (c :: input) = none ∧
      v.blockComment.filter (fun block => block.opening.begins (c :: input)) = none := by
  unfold ignored? at h
  split at h
  · cases h
  next hblank =>
  split at h
  · cases h
  next hline =>
  split at h
  · next hblock => exact ⟨hblank, hline, by simp [hblock]⟩
  next block hblock =>
  split at h
  · simp only at h
    split at h <;> cases h
  · next hbegins => exact ⟨hblank, hline, by simp [hblock, hbegins]⟩

theorem spansAfter_eq (v : Vocabulary) (skip : Nat) (input : List Char) :
    spansAfter v skip input = spans v (input.drop skip) := by
  induction skip generalizing input with
  | zero => rfl
  | succ skip ih =>
    cases input with
    | nil => rfl
    | cons c input => exact ih input

theorem spans_cons (v : Vocabulary) (c : Char) (input : List Char) :
    spans v (c :: input) = ⟨(spanAt v c input).1, c :: input.take (spanAt v c input).2⟩ ::
      spans v (input.drop (spanAt v c input).2) := by
  rw [← spansAfter_eq]
  rfl

theorem spanAt_of_ignored {kind : SpanKind} {length : Nat}
    (h : ignored? v c input = some (kind, length)) : spanAt v c input = (kind, length) := by
  rw [spanAt, h]

theorem spanAt_of_not_ignored (h : ignored? v c input = none) :
    spanAt v c input = lexeme v c input := by
  rw [spanAt, h]

theorem Span.isEnd_event? {span : Span} {position : Position} {event : Event}
    (hkind : span.kind ≠ .token .endOfInput) (h : span.event? position = some event) :
    event.isEnd = false := by
  obtain ⟨kind, text⟩ := span
  cases kind with
  | blank => cases h
  | comment => cases h
  | fault reason => cases h; rfl
  | token kind =>
    cases h
    simpa [Event.isEnd, Token.isEnd] using hkind

theorem eventsFrom_cons (position : Position) (span : Span) (rest : List Span) :
    eventsFrom position (span :: rest) =
      (span.event? position).toList ++ eventsFrom (position.after span.text) rest := by
  obtain ⟨kind, text⟩ := span
  cases kind <;> rfl

def eventsAt (v : Vocabulary) (text : List Char) (place : Nat) : List Event :=
  eventsFrom (.behind (text.take place)) (spans v (text.drop place))

theorem eventsAt_zero (v : Vocabulary) (text : List Char) : eventsAt v text 0 = events v text := rfl

variable {text : List Char} {start place : Nat}

theorem take_further (h : text.drop place = c :: input) (n : Nat) :
    text.take (place + 1 + n) = text.take place ++ c :: input.take n := by
  rw [Nat.add_assoc, List.take_add, h, Nat.add_comm, List.take_succ_cons]

theorem eventsAt_end (h : text.drop place = []) :
    eventsAt v text place = [.token (.endOfInput (.behind text))] := by
  rw [eventsAt, h, List.take_of_length_le (List.drop_eq_nil_iff.mp h)]
  rfl

theorem eventsAt_cons (h : text.drop place = c :: input) :
    eventsAt v text place =
      (Span.event? (.behind (text.take place))
        ⟨(spanAt v c input).1, c :: input.take (spanAt v c input).2⟩).toList ++
      eventsAt v text (place + 1 + (spanAt v c input).2) := by
  rw [eventsAt, h, spans_cons, eventsFrom_cons, ← Position.behind_append, ← take_further h,
    ← drop_further (drop_next h)]
  rfl

namespace Scanning

open Cursor

variable {capacity : Option Int} (fits : Fits capacity text)

include fits

theorem skipRound_returns {kind : SpanKind} {length : Nat} (hstart : start ≤ place)
    (h : text.drop place = c :: input) (hspan : ignored? v c input = some (kind, length)) :
    (∃ block, kind = .fault (.unterminatedComment block) ∧
      Returns (skipRound v) (placed capacity text start place)
        (.done (some (.behind (text.take place), .unterminatedComment block)))
        (placed capacity text (place + 1 + length) (place + 1 + length))) ∨
    ((kind = .blank ∨ kind = .comment) ∧ ∃ start' ≤ place + 1 + length,
      Returns (skipRound v) (placed capacity text start place) (.again ())
        (placed capacity text start' (place + 1 + length))) := by
  cases ignored_of_eq_some hspan with
  | blank hblank =>
    refine .inr ⟨.inl rfl, start, by omega, .read ?_⟩
    rw [first_placed h, if_pos (by simpa [atEnd_placed h] using hblank)]
    exact .bind (wholeRun_returns fits hblank h) (.pure _ _)
  | @lineComment m hblank hline =>
    refine .inr ⟨.inr rfl, start, by omega, .read ?_⟩
    rw [first_placed h, if_neg (by simp [hblank]), rest_placed h, hline]
    refine .bind (marker_returns fits (Vocabulary.lineComment?_begins hline) h) ?_
    refine .bind (eatWhile_returns fits _ (drop_further (drop_next h) _)) ?_
    rw [Nat.add_assoc (place + 1)]
    exact .pure _ _
  | @blockComment block body hblank hline hblock hbegins hbody =>
    refine .inr ⟨.inr rfl, _, Nat.le_refl _, .read ?_⟩
    rw [first_placed h, if_neg (by simp [hblank]), rest_placed h, hline, hblock]
    simp only [Option.filter_some, hbegins, ↓reduceIte]
    refine .bind (marker_returns fits hbegins h) ?_
    refine .bind (blockComment_returns fits _ (drop_further (drop_next h) _)) ?_
    rw [hbody, Option.getD_some, Nat.add_assoc (place + 1)]
    exact .bind (extract_returns (by omega)) (.pure _ _)
  | @unterminated block hblank hline hblock hbegins hbody =>
    refine .inl ⟨_, rfl, .read ?_⟩
    rw [first_placed h, if_neg (by simp [hblank]), rest_placed h, hline, hblock]
    simp only [Option.filter_some, hbegins, ↓reduceIte]
    have hlength : place + 1 + block.opening.rest.length +
        (input.drop block.opening.rest.length).length = place + 1 + input.length := by
      obtain ⟨later, -, hlater⟩ := Marker.begins_cons hbegins
      rw [hlater, List.drop_left, List.length_append]
      omega
    refine .bind (marker_returns fits hbegins h) ?_
    refine .bind (blockComment_returns fits _ (drop_further (drop_next h) _)) ?_
    rw [hbody, Option.getD_none, hlength]
    exact .bind (extract_returns (by omega)) (.pure _ _)

omit fits in
/-- Where no ignored span starts, a round passes over nothing and is the last. -/
theorem skipRound_stops (hstart : start ≤ place)
    (h : ∀ c input, text.drop place = c :: input → ignored? v c input = none) :
    Returns (skipRound v) (placed capacity text start place) (.done none)
      (placed capacity text place place) := by
  refine .read ?_
  cases hinput : text.drop place with
  | nil =>
    have hnone : v.blockComment.filter (fun block => block.opening.begins []) = none := by
      cases v.blockComment <;> simp [Marker.begins_nil]
    rw [if_neg (by simp [atEnd_placed hinput]), rest_placed hinput, Vocabulary.lineComment?_nil]
    simp only [hnone]
    exact .bind (extract_returns hstart) (.pure _ _)
  | cons c input =>
    obtain ⟨hblank, hline, hblock⟩ := ignored?_eq_none (h c input hinput)
    rw [first_placed hinput, if_neg (by simp [hblank]), rest_placed hinput, hline]
    simp only [hblock]
    exact .bind (extract_returns hstart) (.pure _ _)

/-- Skipping stops before the next lexeme, at the end of the input, or behind an unterminated
comment, and what it passes over is not reported otherwise. -/
theorem skipIgnored_returns (v : Vocabulary) (hstart : start ≤ place) :
    ∃ place', place ≤ place' ∧
      ((Returns (skipIgnored v) (placed capacity text start place) none
          (placed capacity text place' place') ∧
        (∀ c input, text.drop place' = c :: input → ignored? v c input = none) ∧
        eventsAt v text place = eventsAt v text place') ∨
      ∃ position reason, place < place' ∧ place < text.length ∧
        Returns (skipIgnored v) (placed capacity text start place) (some (position, reason))
          (placed capacity text place' place') ∧
        eventsAt v text place = .fault position reason :: eventsAt v text place') := by
  induction hleft : text.length - place using Nat.strongRecOn generalizing start place with
  | ind left ih =>
    cases h : text.drop place with
    | nil =>
      have hnone : ∀ c input, text.drop place = c :: input → ignored? v c input = none := by
        intro c input hc
        rw [h] at hc
        cases hc
      exact ⟨place, Nat.le_refl _, .inl ⟨.done (skipRound_stops hstart hnone), hnone, rfl⟩⟩
    | cons c input =>
      have hlt := place_lt h
      cases hspan : ignored? v c input with
      | none =>
        have hnone : ∀ c input, text.drop place = c :: input → ignored? v c input = none := by
          intro d later hd
          obtain ⟨rfl, rfl⟩ := List.cons.inj (h.symm.trans hd)
          exact hspan
        exact ⟨place, Nat.le_refl _, .inl ⟨.done (skipRound_stops hstart hnone), hnone, rfl⟩⟩
      | some span =>
        obtain ⟨kind, length⟩ := span
        have hevents := eventsAt_cons (v := v) h
        rw [spanAt_of_ignored hspan] at hevents
        rcases skipRound_returns fits hstart h hspan with
          ⟨block, rfl, hround⟩ | ⟨hkind, start', hle, hround⟩
        · exact ⟨_, by omega, .inr ⟨_, _, by omega, hlt, .done hround, hevents⟩⟩
        · have hsame : eventsAt v text place = eventsAt v text (place + 1 + length) := by
            rcases hkind with rfl | rfl <;> exact hevents
          obtain ⟨place', hplace, hskip⟩ := ih _ (by omega) hle rfl
          refine ⟨place', by omega, ?_⟩
          rcases hskip with ⟨hrun, hlexeme, hlater⟩ |
            ⟨position, reason, hless, hlength, hrun, hlater⟩
          · exact .inl ⟨.again hround hrun, hlexeme, hsame.trans hlater⟩
          · exact .inr ⟨position, reason, by omega, hlt, .again hround hrun, hsame.trans hlater⟩

/-- What the cursor yields from a place: the end of the input, or else a token or fault, for which
it passes over some of the input. -/
inductive Yields (v : Vocabulary) (capacity : Option Int) (text : List Char) (start place : Nat) :
    Prop where
  | final (hrun : Returns (next v) (placed capacity text start place)
        (some (.token (.endOfInput (.behind text)))) (ended capacity text))
      (hevents : eventsAt v text place = [.token (.endOfInput (.behind text))])
  | item (event : Event) (place' : Nat) (hplace : place < place') (hrest : place < text.length)
      (hkind : event.isEnd = false)
      (hrun : Returns (next v) (placed capacity text start place) (some event)
        (placed capacity text place' place'))
      (hevents : eventsAt v text place = event :: eventsAt v text place')

theorem next_lexeme (v : Vocabulary) {place' : Nat}
    (hskip : Returns (skipIgnored v) (placed capacity text start place) none
      (placed capacity text place' place'))
    (h : text.drop place' = c :: input) :
    ∃ event, Span.event? (.behind (text.take place'))
        ⟨(lexeme v c input).1, c :: input.take (lexeme v c input).2⟩ = some event ∧
      Returns (next v) (placed capacity text start place) (some event)
        (placed capacity text (place' + 1 + (lexeme v c input).2)
          (place' + 1 + (lexeme v c input).2)) := by
  obtain ⟨kind, hkind, hevent⟩ := lexemeKind_returns fits place' v h
  refine ⟨_, hevent _, .read (.bind hskip (.read ?_))⟩
  rw [if_neg (not_atEnd_placed h), first_placed h]
  refine .bind hkind (.bind (extract_returns (by omega)) ?_)
  refine (Returns.pure _ _).congr ?_ rfl
  rw [h, show place' + 1 + (lexeme v c input).2 - place' = (lexeme v c input).2 + 1 by omega,
    List.take_succ_cons]
  rfl

theorem next_yields (v : Vocabulary) (hstart : start ≤ place) :
    Yields v capacity text start place := by
  obtain ⟨place', hplace, hskip⟩ := skipIgnored_returns fits v hstart
  rcases hskip with ⟨hskip, hlexeme, hsame⟩ | ⟨position, reason, hless, hlength, hskip, hevents⟩
  · cases h : text.drop place' with
    | nil =>
      refine .final ?_ (hsame.trans (eventsAt_end h))
      refine .read (.bind hskip (.read ?_))
      rw [if_pos (atEnd_placed_nil h)]
      refine .bind (.write rfl) (.bind (finishLine_returns h) ?_)
      refine (Returns.pure _ _).congr ?_ rfl
      rw [placed, List.take_of_length_le (List.drop_eq_nil_iff.mp h)]
    | cons c input =>
      have hlt := place_lt h
      have hevents := eventsAt_cons (v := v) h
      rw [spanAt_of_not_ignored (hlexeme c input h)] at hevents
      obtain ⟨event, hevent, hrun⟩ := next_lexeme fits v hskip h
      rw [hevent] at hevents
      exact .item event (place' + 1 + (lexeme v c input).2) (by omega) (by omega)
        (Span.isEnd_event? (lexeme_ne_endOfInput v c input) hevent) hrun (hsame.trans hevents)
  · exact .item _ place' hless hlength rfl (.read (.bind hskip (.pure _ _))) hevents

omit fits in
theorem next_ended (v : Vocabulary) :
    Returns (next v) (ended capacity text) none (ended capacity text) := by
  have hfinished : (ended capacity text).finished = true := rfl
  refine .read ?_
  rw [if_pos hfinished]
  exact .pure _ _

/-- The rounds of a drain that has `found` some events before. -/
theorem drainLoop_returns (v : Vocabulary) (found : Array Event) (hstart : start ≤ place) :
    Returns (drainLoop v found) (placed capacity text start place)
      (found.toList ++ eventsAt v text place) (ended capacity text) := by
  induction hleft : text.length - place using Nat.strongRecOn generalizing start place found with
  | ind left ih =>
    cases next_yields fits v hstart with
    | final hrun hevents =>
      rw [hevents, ← Array.toList_push]
      exact .again (.bind hrun (.pure _ _)) (.done (.bind (next_ended v) (.pure _ _)))
    | item event place' hplace hrest hkind hrun hevents =>
      have hlater :=
        ih (text.length - place') (by omega) (found.push event) (Nat.le_refl place') rfl
      rw [Array.toList_push, List.append_assoc, List.singleton_append, ← hevents] at hlater
      exact .again (.bind hrun (.pure _ _)) hlater

theorem drain_returns (v : Vocabulary) (hstart : start ≤ place) :
    Returns (drain v) (placed capacity text start place) (eventsAt v text place)
      (ended capacity text) := drainLoop_returns fits v #[] hstart

end Scanning

def untilFault : List Event → List Token × Option (Position × Fault)
  | [] => ([], none)
  | .token t :: rest => (t :: (untilFault rest).1, (untilFault rest).2)
  | .fault position reason :: _ => ([], some (position, reason))

namespace Scanning

open Cursor

variable {capacity : Option Int} (fits : Fits capacity text)

include fits

/-- The rounds of a drain to the first fault that has `found` some tokens before. -/
theorem drainToFaultLoop_returns (v : Vocabulary) (found : Array Token) (hstart : start ≤ place) :
    ∃ after, Returns (drainToFaultLoop v found) (placed capacity text start place)
        (found.toList ++ (untilFault (eventsAt v text place)).1,
          (untilFault (eventsAt v text place)).2) after ∧
      ((untilFault (eventsAt v text place)).2 = none → after = ended capacity text) := by
  induction hleft : text.length - place using Nat.strongRecOn generalizing start place found with
  | ind left ih =>
    cases next_yields fits v hstart with
    | final hrun hevents =>
      rw [hevents]
      refine ⟨_, .again (.bind hrun (.pure _ _)) ?_, fun _ => rfl⟩
      refine .done (.bind (next_ended v) ?_)
      exact (Returns.pure _ _).congr (by simp [untilFault]) rfl
    | item event place' hplace hrest hkind hrun hevents =>
      rw [hevents]
      cases event with
      | fault position reason =>
        refine ⟨placed capacity text place' place', .done (.bind hrun ?_), fun h => by cases h⟩
        exact (Returns.pure _ _).congr (by simp [untilFault]) rfl
      | token t =>
        obtain ⟨after, hlater, hend⟩ :=
          ih (text.length - place') (by omega) (found.push t) (Nat.le_refl place') rfl
        rw [Array.toList_push, List.append_assoc, List.singleton_append] at hlater
        exact ⟨after, .again (.bind hrun (.pure _ _)) hlater, hend⟩

/-- The run that stops at the first fault, and its end when there is none. -/
theorem drainToFault_returns (v : Vocabulary) (hstart : start ≤ place) :
    ∃ after, Returns (drainToFault v) (placed capacity text start place)
        (untilFault (eventsAt v text place)) after ∧
      ((untilFault (eventsAt v text place)).2 = none → after = ended capacity text) :=
  drainToFaultLoop_returns fits v #[] hstart

end Scanning

namespace Scanning

variable {α : Type}

theorem result_eq {action : Scanning α} {c after : Cursor} {a : α}
    (h : Returns action c a after) : result action c ⟨a, after, h⟩ = (a, after) := by
  unfold result
  split
  · next r hrun => exact Except.ok.inj (Option.some.inj (hrun.symm.trans h))
  · next hrun => cases hrun.symm.trans h
  · next hrun => cases hrun.symm.trans h

theorem drain_ends (v : Vocabulary) (text : List Char) : Ends (drain v) (.start none text) :=
  ⟨_, _, drain_returns (fits_unbounded text) v (Nat.le_refl 0)⟩

theorem drainToFault_ends (v : Vocabulary) (text : List Char) :
    Ends (drainToFault v) (.start none text) := by
  obtain ⟨after, hrun, -⟩ := drainToFault_returns (fits_unbounded text) v (Nat.le_refl 0)
  exact ⟨_, _, hrun⟩

end Scanning

end SourceCheck.Scan
