import SourceCheck.Diagnostic.Record
import SourceCheck.Proofs.Scan.Division
import SourceCheck.Proofs.Scan.Termination

/-!
The positions that a scan reports. A token or diagnostic that starts behind a prefix of the source
stands on the line told by the newlines of the prefix, in the column told by what follows the last
of them. So positions increase in the order of the scan, and every record has line and column.
-/

namespace SourceCheck

namespace Scan

def preceded : List Char → List Span → List (List Char × Span)
  | _, [] => []
  | before, span :: rest => (before, span) :: preceded (before ++ span.text) rest

theorem prefix_of_mem_preceded {before : List Char} {spans : List Span} {p : List Char}
    {span : Span} (h : (p, span) ∈ preceded before spans) :
    ∃ rest, before ++ spans.flatMap Span.text = p ++ span.text ++ rest := by
  induction spans generalizing before with
  | nil => cases h
  | cons first later ih =>
    rcases List.mem_cons.mp h with heq | hlater
    · obtain ⟨rfl, rfl⟩ := Prod.mk.inj heq
      exact ⟨later.flatMap Span.text, by rw [List.flatMap_cons, List.append_assoc]⟩
    · obtain ⟨rest, hrest⟩ := ih hlater
      exact ⟨rest, by rw [List.flatMap_cons, ← List.append_assoc, hrest]⟩

def reportBehind (found : List Char × Span) : Option Event := found.2.event? (.behind found.1)

theorem itemsFrom_eq (before : List Char) (spans : List Span) :
    itemsFrom (.behind before) spans = (preceded before spans).filterMap reportBehind := by
  induction spans generalizing before with
  | nil => rfl
  | cons span rest ih =>
    rw [itemsFrom, preceded, ← Position.behind_append, ih, List.filterMap_cons]
    cases h : span.event? (.behind before) <;> simp [reportBehind, h]

theorem position_of_mem_items (before : List Char) {spans : List Span} {event : Event}
    (h : event ∈ itemsFrom (.behind before) spans) :
    ∃ p rest, before ++ spans.flatMap Span.text = p ++ rest ∧ event.position = .behind p := by
  rw [itemsFrom_eq] at h
  obtain ⟨⟨p, span⟩, hmem, hreport⟩ := List.mem_filterMap.mp h
  obtain ⟨rest, hrest⟩ := prefix_of_mem_preceded hmem
  exact ⟨p, span.text ++ rest, by rw [hrest, List.append_assoc], position_of_event? hreport⟩

theorem position_of_mem_events {v : Vocabulary} {text : List Char} {event : Event}
    (h : event ∈ events v text) : ∃ p rest, text = p ++ rest ∧ event.position = .behind p := by
  rw [events_eq] at h
  rcases List.mem_append.mp h with hitem | hend
  · obtain ⟨p, rest, htext, hposition⟩ := position_of_mem_items [] hitem
    rw [spans_flatMap] at htext
    exact ⟨p, rest, htext, hposition⟩
  · rw [List.mem_singleton.mp hend]
    exact ⟨text, [], (List.append_nil text).symm, rfl⟩

theorem position_bounds {v : Vocabulary} {text : List Char} {event : Event}
    (h : event ∈ events v text) :
    1 ≤ event.position.line ∧ event.position.line ≤ text.length + 1 ∧
      1 ≤ event.position.column ∧ event.position.column ≤ text.length + 1 := by
  obtain ⟨p, rest, rfl, hposition⟩ := position_of_mem_events h
  have hbounds := Position.behind_bounds p
  rw [hposition, List.length_append]
  omega

structure ExactPositions (source : Source) (v : Vocabulary) (division : List Span)
    (items : List Event) : Prop where
  divided : Divided v source.text.toList division
  items_behind : items = (preceded [] division).filterMap reportBehind ++
    [.token (.endOfInput (.behind source.text.toList))]
  preceded_prefix : ∀ p span, (p, span) ∈ preceded [] division →
    ∃ rest, source.text.toList = p ++ span.text ++ rest
  tokens : (source.scan v).buffer.tokens = items.filterMap Event.token?
  diagnostics : (source.scan v).diagnostics.map (·.message.location.position) =
    (items.filterMap Event.fault?).map Prod.fst
  /-- The counters of 32 bits come to the same. -/
  counted : ∃ final, Scanning.Returns (Scanning.drain v)
    (.start (some counterLimit) source.text.toList) items final
  increasing : items.Pairwise fun e f => e.position.Before f.position
  bounded : ∀ event ∈ items, 1 ≤ event.position.line ∧ event.position.line ≤ counterLimit ∧
    1 ≤ event.position.column ∧ event.position.column ≤ counterLimit
  records : ∀ d ∈ (source.scan v).diagnostics,
    (DiagnosticRecord.ofDiagnostic d).line = some d.message.location.position.line ∧
    (DiagnosticRecord.ofDiagnostic d).column = some d.message.location.position.column

end Scan

open Scan

/-- Every token, the end of the input included, and every diagnostic carries the position behind
the text before it, as long as the counters hold the length of the source. -/
theorem scan_positions_are_exact (source : Source) (v : Vocabulary)
    (h : (source.text.toList.length : Int) < counterLimit) :
    ∃ division items, ExactPositions source v division items := by
  have fits := fits_of_lt h
  have hdivided := divided_spans v source.text.toList
  refine ⟨spans v source.text.toList, events v source.text.toList, ?_⟩
  constructor
  · exact hdivided
  · rw [events_eq, ← itemsFrom_eq]
    rfl
  · intro p span hmem
    obtain ⟨rest, hrest⟩ := prefix_of_mem_preceded hmem
    rw [hdivided.flatMap] at hrest
    exact ⟨rest, hrest⟩
  · exact Source.tokens_scan source v
  · rw [Source.diagnostics_scan, List.map_map]
    rfl
  · exact ⟨_, Scanning.drain_returns fits v (Nat.le_refl 0)⟩
  · exact increasing_events v source.text.toList
  · intro event hevent
    have hbounds := position_bounds hevent
    omega
  · intro d hd
    rw [Source.diagnostics_scan] at hd
    obtain ⟨⟨position, reason⟩, hfound, rfl⟩ := List.mem_map.mp hd
    obtain ⟨event, hevent, hfault⟩ := List.mem_filterMap.mp hfound
    have hbounds := position_bounds hevent
    cases event with
    | token t => cases hfault
    | fault p r =>
      cases hfault
      simp only [DiagnosticRecord.ofDiagnostic, DiagnosticRecord.known]
      exact ⟨if_pos (by exact hbounds.1), if_pos (by exact hbounds.2.2.1)⟩

/-- A string over the end of a line, a comment over another, and a character behind it. -/
theorem scan_positions_are_exact_over_lines :
    ∃ v, Language.standard.compile = .ok v ∧
      (("'a\n/* b\n */ $".toList.length : Int) < counterLimit) ∧
      ∃ division items, ExactPositions ⟨"input", "'a\n/* b\n */ $"⟩ v division items := by
  obtain ⟨v, hv⟩ := Language.standard_compiles
  exact ⟨v, hv, by decide, scan_positions_are_exact _ v (by decide)⟩

end SourceCheck
