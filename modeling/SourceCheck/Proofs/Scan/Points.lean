import SourceCheck.Proofs.Scan.Termination

/-!
Points of a scan. Between two steps, blanks and comments are passed over up to the character with
which the next lexeme begins. What the next step yields is decided by the text from there on: the
rule that this character selects, and how far it reaches.
-/

namespace SourceCheck

namespace Scan.Scanning

open Cursor

variable {v : Vocabulary} {capacity : Option Int} {text : List Char}

theorem run_concat {c d e : Cursor} {events : List Event} {event : Event}
    (h : Run v c events d) (hstep : Returns (next v) d (some event) e) :
    Run v c (events ++ [event]) e := by
  induction h with
  | nil c => exact .cons hstep (.nil e)
  | cons hfirst _ ih => exact .cons hfirst (ih hstep)

/-- A run yields what there is to report from where it starts, as far as it goes. -/
theorem run_prefix (fits : Fits capacity text) {place : Nat} {events : List Event} {c : Cursor}
    (h : Run v (placed capacity text place place) events c) : events <+: eventsAt v text place := by
  generalize hbefore : placed capacity text place place = before at h
  induction h generalizing place with
  | nil => exact List.nil_prefix
  | cons hstep hrun ih =>
    subst hbefore
    cases next_yields fits v (Nat.le_refl place) with
    | final hend hevents =>
      obtain ⟨hevent, rfl⟩ := hend.unique hstep
      obtain ⟨rfl, -⟩ := run_ended hrun
      obtain rfl := Option.some.inj hevent
      exact hevents ▸ List.prefix_refl _
    | item event place' hplace hrest hkind hitem hevents =>
      obtain ⟨hevent, hafter⟩ := hitem.unique hstep
      rw [hevents, Option.some.inj hevent]
      exact (List.prefix_cons_inj _).mpr (ih hafter)

end Scan.Scanning

open Scan Scanning Cursor

namespace Source

/-- The scan of the source has yielded `found` and left the cursor as `before`. From there, what is
ignored reaches up to `c`, the first character that is not. -/
structure LexemeAhead (source : Source) (v : Vocabulary) (found : List Event) (before : Cursor)
    (passed : List Char) (c : Char) (input : List Char) : Prop where
  text : source.text.toList = passed ++ c :: input
  run : Run v source.cursor found before
  unfinished : before.finished = false
  skipped : ∃ reached, Returns (skipIgnored v) before none reached ∧ reached.rest = c :: input

structure GoesOn (source : Source) (v : Vocabulary) (found : List Event) (before : Cursor)
    (event : Event) (rest : List Char) : Prop where
  step : ∃ after, Returns (next v) before (some event) after ∧ after.rest = rest
  tokens : (found ++ [event]).filterMap Event.token? <+: (source.scan v).buffer.tokens
  diagnostics : ((found ++ [event]).filterMap Event.fault?).map source.diagnostic <+:
    (source.scan v).diagnostics

variable {source : Source} {v : Vocabulary} {found : List Event} {before : Cursor}
  {passed input : List Char} {c : Char}

theorem goesOn_of_run {event : Event} {after : Cursor} (hrun : Run v source.cursor found before)
    (hstep : Returns (next v) before (some event) after) :
    source.GoesOn v found before event after.rest := by
  have hwhole : Run v (placed none source.text.toList 0 0) (found ++ [event]) after :=
    run_concat hrun hstep
  have hfront : found ++ [event] <+: events v source.text.toList :=
    run_prefix (fits_unbounded _) hwhole
  refine ⟨⟨after, hstep, rfl⟩, ?_, ?_⟩
  · rw [tokens_scan]
    exact hfront.filterMap _
  · rw [diagnostics_scan]
    exact (hfront.filterMap _).map _

namespace LexemeAhead

/-- The two places in the source: where the scan has stopped, and where the lexeme begins. -/
theorem places (h : source.LexemeAhead v found before passed c input) :
    ∃ place place', before = placed none source.text.toList place place ∧
      Returns (skipIgnored v) before none (placed none source.text.toList place' place') ∧
      source.text.toList.take place' = passed ∧ source.text.toList.drop place' = c :: input ∧
      ignored? v c input = none := by
  have fits := fits_unbounded source.text.toList
  have hrun : Run v (placed none source.text.toList 0 0) found before := h.run
  rcases run_reaches fits hrun with ⟨place, rfl⟩ | rfl
  · obtain ⟨reached, hskipped, hrest⟩ := h.skipped
    obtain ⟨place', -, hskip⟩ := skipIgnored_returns fits v (Nat.le_refl place)
    rcases hskip with ⟨hskip, hlexeme, -⟩ | ⟨position, reason, -, -, hskip, -⟩
    · obtain ⟨-, rfl⟩ := hskipped.unique hskip
      have htext : source.text.toList.take place' ++ source.text.toList.drop place' =
          passed ++ c :: input := (List.take_append_drop _ _).trans h.text
      rw [show source.text.toList.drop place' = c :: input from hrest] at htext
      exact ⟨place, place', rfl, hskip, List.append_cancel_right htext, hrest,
        hlexeme c input hrest⟩
    · cases (hskipped.unique hskip).1
  · cases h.unfinished

theorem not_ignored (h : source.LexemeAhead v found before passed c input) :
    ignored? v c input = none := by
  obtain ⟨_, _, -, -, -, -, hignored⟩ := h.places
  exact hignored

theorem not_blank (h : source.LexemeAhead v found before passed c input) :
    Text.isBlank c = false := Bool.eq_false_iff.mpr (ignored?_eq_none h.not_ignored).1

/-- The scan goes on with the lexeme that begins at the point, and stops right behind it. -/
theorem goesOn (h : source.LexemeAhead v found before passed c input) {kind : SpanKind}
    {length : Nat} (hlexeme : lexeme v c input = (kind, length)) {event : Event}
    (hevent : Span.event? (.behind passed) ⟨kind, c :: input.take length⟩ = some event) :
    source.GoesOn v found before event (input.drop length) := by
  obtain ⟨place, place', rfl, hskip, hpassed, hrest, -⟩ := h.places
  obtain ⟨yielded, hyielded, hstep⟩ := next_lexeme (fits_unbounded _) v hskip hrest
  rw [hpassed, hlexeme, hevent] at hyielded
  rw [hlexeme] at hstep
  obtain rfl : event = yielded := Option.some.inj hyielded
  have hgoes := goesOn_of_run h.run hstep
  rwa [rest_placed (drop_further (drop_next hrest) length)] at hgoes

theorem goesOn_behind (h : source.LexemeAhead v found before passed c input) {kind : SpanKind}
    {text later : List Char} (hinput : c :: input = text ++ later) (hne : text ≠ [])
    (hlexeme : lexeme v c input = (kind, text.length - 1)) {event : Event}
    (hevent : Span.event? (.behind passed) ⟨kind, text⟩ = some event) :
    source.GoesOn v found before event later := by
  cases text with
  | nil => exact absurd rfl hne
  | cons d text =>
    rw [List.cons_append] at hinput
    obtain ⟨rfl, rfl⟩ := List.cons.inj hinput
    rw [List.length_cons, Nat.add_sub_cancel] at hlexeme
    have htake : (text ++ later).take text.length = text := List.take_left
    have hgoes := h.goesOn hlexeme (by rwa [htake])
    rwa [List.drop_left] at hgoes

end LexemeAhead

theorem lexemeAhead_start (source : Source) (htext : source.text.toList = c :: input)
    (hignored : ignored? v c input = none) :
    source.LexemeAhead v [] source.cursor [] c input := by
  refine ⟨htext, .nil _, rfl, placed none source.text.toList 0 0, ?_, htext⟩
  refine .done (skipRound_stops (Nat.le_refl 0) ?_)
  intro d later hdrop
  obtain ⟨rfl, rfl⟩ := List.cons.inj (htext.symm.trans hdrop)
  exact hignored

end Source

end SourceCheck
