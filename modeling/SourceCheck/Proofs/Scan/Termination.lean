import SourceCheck.Proofs.Language.Compile
import SourceCheck.Proofs.Scan.Reports

/-!
The run of a cursor whose counters have 32 bits. Each step from each cursor that a run reaches
ends and breaks no condition: no length falls below zero, every slice is cut between characters,
and the line counter is the number of collected lines. Since every item but the last takes some
input, the run ends as well, with the end of the input.
-/

namespace SourceCheck

namespace Scan

def counterLimit : Int := 2147483647

inductive Run (v : Vocabulary) : Cursor → List Event → Cursor → Prop where
  | nil (c) : Run v c [] c
  | cons {c d e event events} (hstep : Scanning.Returns (Scanning.next v) c (some event) d)
      (hrun : Run v d events e) : Run v c (event :: events) e

theorem length_itemsFrom (position : Position) (spans : List Span) :
    (itemsFrom position spans).length ≤ spans.length := by
  induction spans generalizing position with
  | nil => simp [itemsFrom]
  | cons span rest ih =>
    have hrest := ih (position.after span.text)
    have hone : (span.event? position).toList.length ≤ 1 := by
      cases span.event? position <;> simp
    simp only [itemsFrom, List.length_append, List.length_cons]
    omega

theorem length_items (v : Vocabulary) (text : List Char) : (items v text).length ≤ text.length := by
  have hspans := length_le_flatMap (text_ne_nil_of_mem_spans v text)
  rw [spans_flatMap] at hspans
  exact Nat.le_trans (length_itemsFrom .start (spans v text)) hspans

theorem length_token?_fault? (events : List Event) :
    (events.filterMap Event.token?).length + (events.filterMap Event.fault?).length =
      events.length := by
  induction events with
  | nil => rfl
  | cons event events ih =>
    cases event with
    | token t =>
      rw [List.filterMap_cons_some (Event.token?_token t),
        List.filterMap_cons_none (Event.fault?_token t), List.length_cons, List.length_cons]
      omega
    | fault position reason =>
      rw [List.filterMap_cons_none (Event.token?_fault position reason),
        List.filterMap_cons_some (Event.fault?_fault position reason), List.length_cons,
        List.length_cons]
      omega

namespace Scanning

open Cursor

variable {v : Vocabulary} {capacity : Option Int} {text : List Char} (fits : Fits capacity text)

theorem run_ended {events : List Event} {c : Cursor} (h : Run v (ended capacity text) events c) :
    events = [] ∧ c = ended capacity text := by
  cases h with
  | nil => exact ⟨rfl, rfl⟩
  | cons hstep hrun => exact absurd ((next_ended v).unique hstep).1 (by simp)

include fits

/-- A run from a place in the text is at a later place or behind the end of the input. -/
theorem run_reaches {place : Nat} {events : List Event} {c : Cursor}
    (h : Run v (placed capacity text place place) events c) :
    (∃ place', c = placed capacity text place' place') ∨ c = ended capacity text := by
  generalize hbefore : placed capacity text place place = before at h
  induction h generalizing place with
  | nil => exact .inl ⟨place, hbefore.symm⟩
  | cons hstep hrun ih =>
    subst hbefore
    cases next_yields fits v (Nat.le_refl place) with
    | final hend hevents =>
      obtain ⟨-, rfl⟩ := hend.unique hstep
      exact .inr (run_ended hrun).2
    | item event place' hplace hrest hkind hitem hevents =>
      exact ih (hitem.unique hstep).2

theorem run_exists {start place : Nat} (hstart : start ≤ place) :
    ∃ events last, Run v (placed capacity text start place) events last ∧
      Returns (next v) last (some (.token (.endOfInput (.behind text)))) (ended capacity text) ∧
      eventsAt v text place = events ++ [.token (.endOfInput (.behind text))] := by
  induction hleft : text.length - place using Nat.strongRecOn generalizing start place with
  | ind left ih =>
    cases next_yields fits v hstart with
    | final hend hevents => exact ⟨[], _, .nil _, hend, hevents⟩
    | item event place' hplace hrest hkind hitem hevents =>
      obtain ⟨events, last, hrun, hend, hlater⟩ :=
        ih (text.length - place') (by omega) (Nat.le_refl place') rfl
      exact ⟨event :: events, last, .cons hitem hrun, hend, by rw [hevents, hlater]; rfl⟩

/-- From every cursor that a run reaches the next step returns, and a step that does not come to
the end of the input takes some of it. -/
theorem next_returns_of_run {place : Nat} {events : List Event} {c : Cursor}
    (h : Run v (placed capacity text place place) events c) :
    ∃ item d, Returns (next v) c item d ∧
      ∀ event, item = some event → event.isEnd = false →
        ∃ taken, taken ≠ [] ∧ c.rest = taken ++ d.rest := by
  rcases run_reaches fits h with ⟨place, rfl⟩ | rfl
  · cases next_yields fits v (Nat.le_refl place) with
    | final hend hevents =>
      refine ⟨_, _, hend, fun event hevent hkind => ?_⟩
      cases hevent
      cases hkind
    | item event place' hplace hrest hkind hitem hevents =>
      refine ⟨_, _, hitem, fun _ _ _ => ⟨(text.drop place).take (place' - place), ?_, ?_⟩⟩
      · have hlength : ((text.drop place).take (place' - place)).length ≠ 0 := by
          rw [List.length_take, List.length_drop]
          omega
        exact fun hnil => hlength (by rw [hnil]; rfl)
      · have hdrop : text.drop place' = (text.drop place).drop (place' - place) := by
          rw [List.drop_drop]
          congr 1
          omega
        simp only [placed]
        rw [hdrop, List.take_append_drop]
  · exact ⟨none, _, next_ended v, fun event hevent => by cases hevent⟩

end Scanning

end Scan

open Scan Scanning

/-- A complete run over the source with 32-bit counters, which breaks no condition. -/
structure CompleteRun (source : Source) (v : Vocabulary) (items : List Event)
    (last final : Cursor) : Prop where
  run : Run v (.start (some counterLimit) source.text.toList) items last
  finish : Returns (next v) last (some (.token (.endOfInput (.behind source.text.toList)))) final
  exhausted : Returns (next v) final none final
  not_end : ∀ item ∈ items, item.isEnd = false
  /-- Every step on the way returns, and takes some input before it comes to the end. -/
  steps : ∀ events c, Run v (.start (some counterLimit) source.text.toList) events c →
    ∃ item d, Returns (next v) c item d ∧
      ∀ event, item = some event → event.isEnd = false →
        ∃ taken, taken ≠ [] ∧ c.rest = taken ++ d.rest
  tokens : (source.scan v).buffer.tokens =
    items.filterMap Event.token? ++ [.endOfInput (.behind source.text.toList)]
  diagnostics : (source.scan v).diagnostics =
    (items.filterMap Event.fault?).map source.diagnostic
  count : (source.scan v).buffer.tokens.length + (source.scan v).diagnostics.length ≤
    source.text.toList.length + 1

/-- Scanning ends and never fails, for every vocabulary, since a marker is never empty. -/
theorem scan_terminates_without_failure (source : Source) (v : Vocabulary)
    (h : (source.text.toList.length : Int) < counterLimit) :
    ∃ items last final, CompleteRun source v items last final := by
  have fits := fits_of_lt h
  obtain ⟨found, last, hrun, hend, hevents⟩ := run_exists (v := v) fits (Nat.le_refl 0)
  have hitems : found = items v source.text.toList :=
    List.append_cancel_right (hevents.symm.trans (events_eq v source.text.toList))
  subst hitems
  have htokens : (source.scan v).buffer.tokens =
      (items v source.text.toList).filterMap Event.token? ++
        [.endOfInput (.behind source.text.toList)] := by
    rw [Source.tokens_scan, events_eq, List.filterMap_append]
    rfl
  have hdiagnostics : (source.scan v).diagnostics =
      ((items v source.text.toList).filterMap Event.fault?).map source.diagnostic := by
    rw [Source.diagnostics_scan, events_eq, List.filterMap_append]
    simp
  refine ⟨items v source.text.toList, last, .ended (some counterLimit) source.text.toList, ?_⟩
  constructor
  · exact hrun
  · exact hend
  · exact next_ended v
  · exact isEnd_of_mem_items v source.text.toList
  · intro events c hreached
    rw [Cursor.start_eq_placed] at hreached
    exact next_returns_of_run fits hreached
  · exact htokens
  · exact hdiagnostics
  · have hcount := length_token?_fault? (items v source.text.toList)
    have hlength := length_items v source.text.toList
    rw [htokens, hdiagnostics, List.length_append, List.length_map, List.length_singleton]
    omega

/-- A string that is not closed on its line, and a comment that is not closed at all. -/
theorem scan_terminates_without_failure_unclosed :
    ∃ v, Language.standard.compile = .ok v ∧
      (("'a\n+/*".toList.length : Int) < counterLimit) ∧
      ∃ items last final, CompleteRun ⟨"input", "'a\n+/*"⟩ v items last final := by
  obtain ⟨v, hv⟩ := Language.standard_compiles
  exact ⟨v, hv, by decide, scan_terminates_without_failure _ v (by decide)⟩

end SourceCheck
