import SourceCheck.Scan.Buffer

/-!
What a scan reports, as a list of events in the order of the source. Every span holds some text,
so the positions of the events increase, and the end of the input comes last and once.
-/

namespace SourceCheck

namespace Scan

/-- Spans are cut off the front of the input, one after the other. -/
theorem spans_induction {v : Vocabulary} {motive : List Char → List Span → Prop}
    (nil : motive [] [])
    (cons : ∀ c input, motive (input.drop (spanAt v c input).2)
        (spans v (input.drop (spanAt v c input).2)) →
      motive (c :: input) (⟨(spanAt v c input).1, c :: input.take (spanAt v c input).2⟩ ::
        spans v (input.drop (spanAt v c input).2)))
    (input : List Char) : motive input (spans v input) := by
  induction hlength : input.length using Nat.strongRecOn generalizing input with
  | ind length ih =>
    cases input with
    | nil => exact nil
    | cons c input =>
      rw [spans_cons]
      refine cons c input (ih _ ?_ _ rfl)
      simp only [List.length_cons] at hlength
      simp only [List.length_drop]
      omega

theorem spans_flatMap (v : Vocabulary) (input : List Char) :
    (spans v input).flatMap Span.text = input := by
  induction input using spans_induction (v := v) with
  | nil => rfl
  | cons c input ih => rw [List.flatMap_cons, ih, List.cons_append, List.take_append_drop]

theorem text_ne_nil_of_mem_spans (v : Vocabulary) (input : List Char) :
    ∀ span ∈ spans v input, span.text ≠ [] := by
  induction input using spans_induction (v := v) with
  | nil => simp
  | cons c input ih => simpa using ih

theorem length_le_flatMap {spans : List Span} (h : ∀ span ∈ spans, span.text ≠ []) :
    spans.length ≤ (spans.flatMap Span.text).length := by
  induction spans with
  | nil => simp
  | cons span rest ih =>
    have hrest := ih fun span hspan => h span (List.mem_cons_of_mem _ hspan)
    have hspan := List.length_pos_iff.mpr (h span List.mem_cons_self)
    simp only [List.length_cons, List.flatMap_cons, List.length_append]
    omega

theorem spanAt_ne_endOfInput (v : Vocabulary) (c : Char) (input : List Char) :
    (spanAt v c input).1 ≠ .token .endOfInput := by
  cases h : ignored? v c input with
  | none => rw [spanAt_of_not_ignored h]; exact lexeme_ne_endOfInput v c input
  | some span =>
    obtain ⟨kind, length⟩ := span
    rw [spanAt_of_ignored h]
    cases ignored_of_eq_some h <;> simp

theorem kind_ne_endOfInput_of_mem_spans (v : Vocabulary) (input : List Char) :
    ∀ span ∈ spans v input, span.kind ≠ .token .endOfInput := by
  induction input using spans_induction (v := v) with
  | nil => simp
  | cons c input ih => simpa using ⟨spanAt_ne_endOfInput v c input, ih⟩

namespace Event

@[simp] theorem token?_token (t : Token) : (token t).token? = some t := rfl
@[simp] theorem token?_fault (p : Position) (reason : Fault) : (fault p reason).token? = none := rfl
@[simp] theorem fault?_token (t : Token) : (token t).fault? = none := rfl
@[simp] theorem fault?_fault (p : Position) (reason : Fault) :
    (fault p reason).fault? = some (p, reason) := rfl

theorem mem_tokens_iff {events : List Event} {t : Token} :
    t ∈ events.filterMap token? ↔ .token t ∈ events := by
  rw [List.mem_filterMap]
  constructor
  · rintro ⟨event, hevent, htoken⟩
    cases event <;> cases htoken
    exact hevent
  · intro h
    exact ⟨.token t, h, rfl⟩

theorem mem_faults_iff {events : List Event} {p : Position} {reason : Fault} :
    (p, reason) ∈ events.filterMap fault? ↔ .fault p reason ∈ events := by
  rw [List.mem_filterMap]
  constructor
  · rintro ⟨event, hevent, hfault⟩
    cases event <;> cases hfault
    exact hevent
  · intro h
    exact ⟨.fault p reason, h, rfl⟩

def position : Event → Position
  | .token t => t.position
  | .fault position _ => position

theorem position_fault (p : Position) (reason : Fault) : (fault p reason).position = p := rfl

def Increasing (events : List Event) : Prop :=
  events.Pairwise fun e f => e.position.Before f.position

end Event

theorem position_of_event? {span : Span} {position : Position} {event : Event}
    (h : span.event? position = some event) : event.position = position := by
  obtain ⟨kind, text⟩ := span
  cases kind <;> cases h <;> rfl

def itemsFrom (position : Position) : List Span → List Event
  | [] => []
  | span :: rest => (span.event? position).toList ++ itemsFrom (position.after span.text) rest

theorem eventsFrom_eq (position : Position) (spans : List Span) :
    eventsFrom position spans = itemsFrom position spans ++
      [.token (.endOfInput (position.after (spans.flatMap Span.text)))] := by
  induction spans generalizing position with
  | nil => rfl
  | cons span rest ih =>
    rw [eventsFrom_cons, itemsFrom, ih, List.flatMap_cons, Position.after_append, List.append_assoc]

theorem isEnd_of_mem_itemsFrom {position : Position} {spans : List Span}
    (h : ∀ span ∈ spans, span.kind ≠ .token .endOfInput) :
    ∀ event ∈ itemsFrom position spans, event.isEnd = false := by
  induction spans generalizing position with
  | nil => simp [itemsFrom]
  | cons span rest ih =>
    intro event hevent
    rw [itemsFrom, List.mem_append, Option.mem_toList] at hevent
    rcases hevent with hevent | hevent
    · exact Span.isEnd_event? (h span List.mem_cons_self) hevent
    · exact ih (fun span hspan => h span (List.mem_cons_of_mem _ hspan)) event hevent

theorem before_of_mem_eventsFrom {position : Position} {spans : List Span}
    (h : ∀ span ∈ spans, span.text ≠ []) :
    ∀ event ∈ eventsFrom position spans,
      event.position = position ∨ position.Before event.position := by
  induction spans generalizing position with
  | nil => intro event hevent; rw [List.mem_singleton.mp hevent]; exact .inl rfl
  | cons span rest ih =>
    intro event hevent
    rw [eventsFrom_cons, List.mem_append, Option.mem_toList] at hevent
    rcases hevent with hevent | hevent
    · exact .inl (position_of_event? hevent)
    · have hpassed := Position.before_after position (h span List.mem_cons_self)
      rcases ih (fun span hspan => h span (List.mem_cons_of_mem _ hspan)) event hevent with
        hsame | hlater
      · exact .inr (hsame ▸ hpassed)
      · exact .inr (Position.before_trans hpassed hlater)

theorem increasing_eventsFrom {position : Position} {spans : List Span}
    (h : ∀ span ∈ spans, span.text ≠ []) : Event.Increasing (eventsFrom position spans) := by
  induction spans generalizing position with
  | nil => exact List.pairwise_singleton _ _
  | cons span rest ih =>
    have hrest : ∀ span ∈ rest, span.text ≠ [] :=
      fun span hspan => h span (List.mem_cons_of_mem _ hspan)
    rw [eventsFrom_cons]
    refine List.pairwise_append.mpr ⟨by cases span.event? position <;> simp, ih hrest, ?_⟩
    intro event hevent later hlater
    rw [Option.mem_toList] at hevent
    rw [position_of_event? hevent]
    have hpassed := Position.before_after position (h span List.mem_cons_self)
    rcases before_of_mem_eventsFrom hrest later hlater with hsame | hbefore
    · exact hsame ▸ hpassed
    · exact Position.before_trans hpassed hbefore

theorem increasing_events (v : Vocabulary) (text : List Char) :
    Event.Increasing (events v text) := increasing_eventsFrom (text_ne_nil_of_mem_spans v text)

def items (v : Vocabulary) (text : List Char) : List Event := itemsFrom .start (spans v text)

theorem events_eq (v : Vocabulary) (text : List Char) :
    events v text = items v text ++ [.token (.endOfInput (.behind text))] := by
  rw [events, eventsFrom_eq, spans_flatMap, Position.start_after]
  rfl

theorem isEnd_of_mem_items (v : Vocabulary) (text : List Char) :
    ∀ event ∈ items v text, event.isEnd = false :=
  isEnd_of_mem_itemsFrom (kind_ne_endOfInput_of_mem_spans v text)

end Scan

namespace Source

variable (source : Source) (v : Vocabulary)

theorem drain_result : ((Scan.Scanning.drain v).result source.cursor
    (Scan.Scanning.drain_ends v source.text.toList)) =
      (Scan.events v source.text.toList, Scan.Cursor.ended none source.text.toList) :=
  Scan.Scanning.result_eq (Scan.Scanning.drain_returns (Scan.fits_unbounded _) v (Nat.le_refl 0))

theorem buffer_scan : (source.scan v).buffer =
    ⟨source, (Scan.events v source.text.toList).filterMap Scan.Event.token?,
      Text.lineTable source.text.toList⟩ := by
  rw [scan, drain_result]
  rfl

theorem tokens_scan : (source.scan v).buffer.tokens =
    (Scan.events v source.text.toList).filterMap Scan.Event.token? := by
  rw [buffer_scan]

def locate (position : Position) : Location :=
  ⟨source.name, position, Text.lineText source.text.toList position.line⟩

theorem locationAt_scan (position : Position) :
    (source.scan v).buffer.locationAt position = source.locate position := by
  rw [locate, Text.lineText_eq, buffer_scan]
  rfl

theorem lineText_locate {passed ahead : List Char} (htext : source.text.toList = passed ++ ahead) :
    (source.locate (.behind passed)).lineText = String.ofList (Text.withoutReturn
      (Text.afterLastNewline passed ++ ahead.takeWhile (· ≠ '\n'))) := by
  rw [locate, htext, Text.lineText_behind]

def diagnostic (found : Position × Scan.Fault) : Diagnostic :=
  found.2.diagnostic
    ⟨source.name, found.1, Text.lineText source.text.toList found.1.line⟩

theorem diagnostics_scan : (source.scan v).diagnostics =
    ((Scan.events v source.text.toList).filterMap Scan.Event.fault?).map source.diagnostic := by
  rw [scan, drain_result]
  refine List.map_congr_left fun found _ => ?_
  rw [diagnostic, Text.lineText_eq]
  rfl

theorem tokens_scan_eq : (source.scan v).buffer.tokens =
    (Scan.items v source.text.toList).filterMap Scan.Event.token? ++
      [.endOfInput (.behind source.text.toList)] := by
  rw [tokens_scan, Scan.events_eq, List.filterMap_append]
  rfl

theorem diagnostics_scan_eq : (source.scan v).diagnostics =
    ((Scan.items v source.text.toList).filterMap Scan.Event.fault?).map source.diagnostic := by
  rw [diagnostics_scan, Scan.events_eq, List.filterMap_append]
  simp

theorem scanStrictly_eq : source.scanStrictly v =
    match Scan.untilFault (Scan.events v source.text.toList) with
    | (tokens, none) => .ok ⟨source, tokens, Text.lineTable source.text.toList⟩
    | (tokens, some found) => .error ⟨source.diagnostic found, tokens⟩ := by
  obtain ⟨after, hrun, hend⟩ := Scan.Scanning.drainToFault_returns
    (Scan.fits_unbounded source.text.toList) v (Nat.le_refl 0)
  have hresult : ((Scan.Scanning.drainToFault v).result source.cursor
      (Scan.Scanning.drainToFault_ends v source.text.toList)) =
        (Scan.untilFault (Scan.events v source.text.toList), after) :=
    Scan.Scanning.result_eq hrun
  rw [scanStrictly, hresult]
  rw [Scan.eventsAt_zero] at hend
  cases hcut : Scan.untilFault (Scan.events v source.text.toList) with
  | mk tokens found =>
    rw [hcut] at hend
    cases found with
    | none => rw [hend rfl]; rfl
    | some found => rfl

end Source

end SourceCheck
