import SourceCheck.Proofs.Language.Compile
import SourceCheck.Proofs.Scan.LineEnds
import SourceCheck.Proofs.Scan.Positions

/-!
Scanning line by line. When the scanner is not inside a string or a comment at the end of a text, it
carries nothing over to the next line: what it finds in both texts together is what it finds in
each, the second moved down by the lines of the first.
-/

namespace SourceCheck

namespace Position

def down (p : Position) (lines : Nat) : Position := ⟨p.line + lines, p.column⟩

theorem next_down (p : Position) (lines : Nat) (c : Char) :
    (p.down lines).next c = (p.next c).down lines := by
  unfold next down
  split
  · exact congrArg (Position.mk · 1) (Int.add_right_comm _ _ _)
  · rfl

theorem after_down (p : Position) (lines : Nat) (text : List Char) :
    (p.down lines).after text = (p.after text).down lines := by
  induction text generalizing p with
  | nil => rfl
  | cons c text ih =>
    have hnext := ih (p.next c)
    rw [← next_down] at hnext
    exact hnext

theorem start_after_line (text : List Char) :
    start.after (text ++ ['\n']) = start.down (1 + text.count '\n') := by
  rw [start_after]
  simp only [behind, Text.afterLastNewline_newline, start, down, List.count_append]
  simp
  omega

end Position

def Token.down (t : Token) (lines : Nat) : Token := ⟨t.kind, t.text, t.position.down lines⟩

def Location.down (l : Location) (lines : Nat) : Location :=
  ⟨l.file, l.position.down lines, l.lineText⟩

def Message.down (m : Message) (lines : Nat) : Message := ⟨m.kind, m.location.down lines, m.body⟩

def Diagnostic.down (d : Diagnostic) (lines : Nat) : Diagnostic :=
  ⟨d.severity, d.message.down lines, d.notes.map (·.down lines)⟩

namespace Scan

namespace Event

def down (lines : Nat) : Event → Event
  | .token t => .token (t.down lines)
  | .fault position reason => .fault (position.down lines) reason

theorem token?_down (lines : Nat) (event : Event) :
    (event.down lines).token? = event.token?.map (·.down lines) := by
  cases event <;> rfl

theorem fault?_down (lines : Nat) (event : Event) :
    (event.down lines).fault? =
      event.fault?.map fun (position, reason) => (position.down lines, reason) := by
  cases event <;> rfl

end Event

theorem event?_down (span : Span) (position : Position) (lines : Nat) :
    span.event? (position.down lines) = (span.event? position).map (Event.down lines) := by
  obtain ⟨kind, text⟩ := span
  cases kind <;> rfl

theorem eventsFrom_down (spans : List Span) (position : Position) (lines : Nat) :
    eventsFrom (position.down lines) spans = (eventsFrom position spans).map (Event.down lines) := by
  induction spans generalizing position with
  | nil => rfl
  | cons span rest ih =>
    rw [eventsFrom_cons, eventsFrom_cons, event?_down, Position.after_down, ih, List.map_append]
    cases span.event? position <;> rfl

variable {v : Vocabulary} {c : Char} {input : List Char}

/-- With more text behind a newline, the first span is reported as without it, and the scan goes on
behind it. A blank run may reach over the newline, but nothing is reported of it. -/
theorem eventsFrom_first_span (hmarkers : v.MarkersInLine)
    (h : ∀ reason, (spanAt v c input).1 = .fault reason → reason.openEnded v = false)
    (position : Position) (later : List Char) :
    eventsFrom position (spans v (c :: input ++ '\n' :: later)) =
      (Span.event? position
        ⟨(spanAt v c input).1, c :: input.take (spanAt v c input).2⟩).toList ++
      eventsFrom (position.after (c :: input.take (spanAt v c input).2))
        (spans v (input.drop (spanAt v c input).2 ++ '\n' :: later)) := by
  by_cases hblank : Text.isBlank c = true
  · have hblanks := blank_run hblank input
    have hinput : c :: input ++ '\n' :: later = (c :: input.takeWhile Text.isBlank) ++
        (input.dropWhile Text.isBlank ++ '\n' :: later) := by
      rw [List.cons_append, List.cons_append, ← List.append_assoc,
        List.takeWhile_append_dropWhile]
    rw [spanAt_of_blank hblank, take_runLength, drop_runLength, hinput, eventsFrom_blanks hblanks]
    rfl
  · have hlength := spanAt_le v c input
    rw [List.cons_append, spans_cons, spanAt_before_newline hmarkers hblank h,
      List.take_append_of_le_length hlength, List.drop_append_of_le_length hlength,
      eventsFrom_cons]

/-- Scanning a text and more behind a newline finds the items of the text and goes on at the
beginning of the next line. -/
theorem eventsFrom_lines (hmarkers : v.MarkersInLine) (input later : List Char) :
    (∀ reason ∈ (spans v input).filterMap Span.fault?, reason.openEnded v = false) →
    ∀ position, eventsFrom position (spans v (input ++ '\n' :: later)) =
      itemsFrom position (spans v input) ++
        eventsFrom (position.after (input ++ ['\n'])) (spans v later) := by
  induction input using spans_induction (v := v) with
  | nil =>
    intro _ position
    have hnewline : Text.Blank ['\n'] := by decide
    exact eventsFrom_blanks hnewline position later
  | cons c input ih =>
    intro hclosed position
    have hfirst : ∀ reason, (spanAt v c input).1 = .fault reason → reason.openEnded v = false := by
      intro reason hreason
      refine hclosed reason ?_
      rw [hreason]
      exact List.mem_cons_self
    have hlater : ∀ reason ∈ (spans v (input.drop (spanAt v c input).2)).filterMap Span.fault?,
        reason.openEnded v = false := by
      intro reason hreason
      obtain ⟨span, hspan, hfault⟩ := List.mem_filterMap.mp hreason
      exact hclosed reason (List.mem_filterMap.mpr ⟨span, List.mem_cons_of_mem _ hspan, hfault⟩)
    have hwhole : position.after (c :: input ++ ['\n']) =
        (position.after (c :: input.take (spanAt v c input).2)).after
          (input.drop (spanAt v c input).2 ++ ['\n']) := by
      rw [← Position.after_append, List.cons_append, List.cons_append, ← List.append_assoc,
        List.take_append_drop]
    rw [eventsFrom_first_span hmarkers hfirst, ih hlater, itemsFrom, hwhole, List.append_assoc]

theorem events_lines (hmarkers : v.MarkersInLine) {first : List Char}
    (hclosed : ∀ reason ∈ (spans v first).filterMap Span.fault?, reason.openEnded v = false)
    (second : List Char) : events v (first ++ '\n' :: second) =
      items v first ++ (events v second).map (Event.down (1 + first.count '\n')) := by
  rw [events, eventsFrom_lines hmarkers first second hclosed, Position.start_after_line,
    eventsFrom_down]
  rfl

theorem token?_events_down (events : List Event) (lines : Nat) :
    (events.map (Event.down lines)).filterMap Event.token? =
      (events.filterMap Event.token?).map (·.down lines) := by
  have hdown : Event.token? ∘ Event.down lines = fun event => event.token?.map (·.down lines) :=
    funext (Event.token?_down lines)
  rw [List.filterMap_map, hdown, List.map_filterMap]

theorem fault?_events_down (events : List Event) (lines : Nat) :
    (events.map (Event.down lines)).filterMap Event.fault? =
      (events.filterMap Event.fault?).map
        fun (position, reason) => (position.down lines, reason) := by
  have hdown : Event.fault? ∘ Event.down lines = fun event =>
      event.fault?.map fun (position, reason) => (position.down lines, reason) :=
    funext (Event.fault?_down lines)
  rw [List.filterMap_map, hdown, List.map_filterMap]

theorem line_of_mem_items {text : List Char} {event : Event} (h : event ∈ items v text) :
    1 ≤ event.position.line ∧ event.position.line ≤ 1 + text.count '\n' := by
  obtain ⟨before, rest, htext, hposition⟩ := position_of_mem_items [] h
  rw [spans_flatMap, List.nil_append] at htext
  have hcount : text.count '\n' = before.count '\n' + rest.count '\n' := by
    rw [htext, List.count_append]
  have hline : event.position.line = 1 + before.count '\n' := by
    rw [hposition]
    rfl
  omega

end Scan

namespace Source

variable {v : Vocabulary} {name first second : String}

theorem toList_lines (first second : String) :
    (first ++ "\n" ++ second).toList = first.toList ++ '\n' :: second.toList := by
  simp [String.toList_append]

theorem diagnostics_before_newline :
    ((Scan.items v first.toList).filterMap Scan.Event.fault?).map
        (diagnostic ⟨name, first ++ "\n" ++ second⟩) =
      (scan ⟨name, first⟩ v).diagnostics := by
  rw [diagnostics_scan_eq]
  refine List.map_congr_left fun (position, reason) hfound => ?_
  obtain ⟨hfirst, hlast⟩ := Scan.line_of_mem_items (Scan.Event.mem_faults_iff.mp hfound)
  rw [Scan.Event.position_fault] at hfirst hlast
  simp only [diagnostic, toList_lines, Text.lineText_before_newline hfirst hlast]

theorem diagnostics_behind_newline :
    (((Scan.events v second.toList).map (Scan.Event.down (1 + first.toList.count '\n'))).filterMap
        Scan.Event.fault?).map (diagnostic ⟨name, first ++ "\n" ++ second⟩) =
      (scan ⟨name, second⟩ v).diagnostics.map (·.down (1 + first.toList.count '\n')) := by
  rw [diagnostics_scan, Scan.fault?_events_down, List.map_map, List.map_map]
  refine List.map_congr_left fun (position, reason) hfound => ?_
  have hfirst := (Scan.position_bounds (Scan.Event.mem_faults_iff.mp hfound)).1
  rw [Scan.Event.position_fault] at hfirst
  have hline := Text.lineText_behind_newline hfirst first.toList second.toList
  simp only [Function.comp_apply, diagnostic, toList_lines, Position.down, hline]
  rfl

/-- Of a text that leaves no comment open, nor a string where strings may go on in the next line,
no fault goes on behind its end. -/
theorem closed_of_diagnostics {source : Source}
    (hcomment : ∀ d ∈ (source.scan v).diagnostics,
      d.message.kind ≠ .lexical .unterminatedComment)
    (hstring : v.multilineStrings = true → ∀ d ∈ (source.scan v).diagnostics,
      d.message.kind ≠ .lexical .unterminatedString) :
    ∀ reason ∈ (Scan.spans v source.text.toList).filterMap Scan.Span.fault?,
      reason.openEnded v = false := by
  intro reason hreason
  rw [← Scan.faults_eventsFrom .start] at hreason
  obtain ⟨found, hfound, rfl⟩ := List.mem_map.mp hreason
  have hd : source.diagnostic found ∈ (source.scan v).diagnostics := by
    rw [diagnostics_scan]
    exact List.mem_map_of_mem hfound
  obtain ⟨position, reason⟩ := found
  cases reason with
  | unrecognizedCharacter character => rfl
  | unterminatedString quote =>
    exact Bool.eq_false_iff.mpr fun hmultiline => hstring hmultiline _ hd rfl
  | unterminatedComment opening => exact absurd rfl (hcomment _ hd)

end Source

/-- Scanning composes line by line. Unless the scanner is still inside a comment or a string at the
end of the first text, both texts with a newline between them have the tokens and diagnostics that
each of them has, those of the second as many lines further down as the first has lines. -/
theorem scan_composes_by_lines (v : Vocabulary) (name first second : String)
    (hmarkers : v.MarkersInLine)
    (hcomment : ∀ d ∈ (Source.scan ⟨name, first⟩ v).diagnostics,
      d.message.kind ≠ .lexical .unterminatedComment)
    (hstring : v.multilineStrings = true → ∀ d ∈ (Source.scan ⟨name, first⟩ v).diagnostics,
      d.message.kind ≠ .lexical .unterminatedString) :
    (∃ kept, (Source.scan ⟨name, first⟩ v).buffer.tokens =
        kept ++ [.endOfInput (.behind first.toList)] ∧
      (Source.scan ⟨name, first ++ "\n" ++ second⟩ v).buffer.tokens =
        kept ++ (Source.scan ⟨name, second⟩ v).buffer.tokens.map
          (·.down (1 + first.toList.count '\n'))) ∧
    (Source.scan ⟨name, first ++ "\n" ++ second⟩ v).diagnostics =
      (Source.scan ⟨name, first⟩ v).diagnostics ++
        (Source.scan ⟨name, second⟩ v).diagnostics.map
          (·.down (1 + first.toList.count '\n')) := by
  have hclosed := Source.closed_of_diagnostics hcomment hstring
  have hevents : Scan.events v (first.toList ++ '\n' :: second.toList) =
      Scan.items v first.toList ++
        (Scan.events v second.toList).map (Scan.Event.down (1 + first.toList.count '\n')) :=
    Scan.events_lines hmarkers hclosed second.toList
  constructor
  · refine ⟨_, Source.tokens_scan_eq _ v, ?_⟩
    rw [Source.tokens_scan, Source.tokens_scan, Source.toList_lines, hevents,
      List.filterMap_append, Scan.token?_events_down]
  · rw [Source.diagnostics_scan, Source.toList_lines, hevents, List.filterMap_append,
      List.map_append, Source.diagnostics_before_newline, Source.diagnostics_behind_newline]

/-- A string that ends unclosed with a backslash, and a point without digits behind a number. -/
theorem scan_composes_by_lines_unclosed :
    ∃ v, Language.standard.compile = .ok v ∧ v.MarkersInLine ∧
      (∀ d ∈ (Source.scan ⟨"input", "1.\n'a\\"⟩ v).diagnostics,
        d.message.kind ≠ .lexical .unterminatedComment) ∧
      v.multilineStrings = false ∧
      (Source.scan ⟨"input", "1.\n'a\\" ++ "\n" ++ "2 $"⟩ v).diagnostics =
        (Source.scan ⟨"input", "1.\n'a\\"⟩ v).diagnostics ++
          (Source.scan ⟨"input", "2 $"⟩ v).diagnostics.map (·.down 2) := by
  obtain ⟨v, hv, hmarkers, hsingle, hproblems⟩ := Language.standard_satisfies
    (p := fun v => v.MarkersInLine ∧ v.multilineStrings = false ∧
      ∀ found ∈ (Scan.events v "1.\n'a\\".toList).filterMap Scan.Event.fault?,
        found.2.problem ≠ .unterminatedComment) (by decide +kernel)
  have hcomment : ∀ d ∈ (Source.scan ⟨"input", "1.\n'a\\"⟩ v).diagnostics,
      d.message.kind ≠ .lexical .unterminatedComment := by
    intro d hd
    rw [Source.diagnostics_scan] at hd
    obtain ⟨found, hfound, rfl⟩ := List.mem_map.mp hd
    exact fun heq => hproblems found hfound (DiagnosticKind.lexical.inj heq)
  have hlines := scan_composes_by_lines v "input" "1.\n'a\\" "2 $" hmarkers hcomment
    (fun hmultiline => absurd hmultiline (Bool.eq_false_iff.mp hsingle))
  exact ⟨v, hv, hmarkers, hcomment, hsingle, hlines.2⟩

end SourceCheck
