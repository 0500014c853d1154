import SourceCheck.Proofs.Language.Compile
import SourceCheck.Proofs.Scan.LineEnds

/-!
Comments as blanks. Where no marker holds a blank, spaces in the place of a comment end what stands
before it just as the comment did, so the scan goes on in step, from the same positions.
-/

namespace SourceCheck

namespace Scan

def blankedOut (text : List Char) : List Char := text.map fun c => if c = '\n' then '\n' else ' '

theorem blank_blankedOut (text : List Char) : Text.Blank (blankedOut text) := by
  intro c hc
  obtain ⟨d, -, rfl⟩ := List.mem_map.mp hc
  split <;> decide

theorem after_blankedOut (position : Position) (text : List Char) :
    position.after (blankedOut text) = position.after text := by
  induction text generalizing position with
  | nil => rfl
  | cons c text ih =>
    have hnext : position.next (if c = '\n' then '\n' else ' ') = position.next c := by
      by_cases hc : c = '\n' <;> simp [hc, Position.next]
    have hlater := ih (position.next c)
    rw [Position.after, blankedOut, List.map_cons, List.foldl_cons, hnext]
    exact hlater

namespace Span

def withoutComment : Span → List Char
  | ⟨.comment, text⟩ => blankedOut text
  | ⟨.blank, text⟩ | ⟨.token _, text⟩ | ⟨.fault _, text⟩ => text

end Span

def withoutComments (v : Vocabulary) (input : List Char) : List Char :=
  (spans v input).flatMap Span.withoutComment

theorem takeWhile_append_shown {p : Char → Bool} {rest other : List Char}
    (h : other.takeWhile p <+: rest) (text : List Char) :
    (text ++ other).takeWhile p <+: text ++ rest := by
  induction text with
  | nil => exact h
  | cons c text ih =>
    rw [List.cons_append, List.cons_append]
    by_cases hc : p c = true
    · rw [List.takeWhile_cons_of_pos hc]
      exact (List.prefix_cons_inj c).mpr ih
    · rw [List.takeWhile_cons_of_neg hc]
      exact List.nil_prefix

theorem shown_withoutComment (spans : List Span) :
    (spans.flatMap Span.withoutComment).takeWhile (fun d => !Text.isBlank d) <+:
      spans.flatMap Span.text := by
  induction spans with
  | nil => exact List.nil_prefix
  | cons span rest ih =>
    obtain ⟨kind, text⟩ := span
    rw [List.flatMap_cons, List.flatMap_cons]
    cases kind with
    | comment =>
      cases text with
      | nil => exact ih
      | cons c text =>
        have hblank : Text.isBlank (if c = '\n' then '\n' else ' ') = true :=
          blank_blankedOut (c :: text) _ List.mem_cons_self
        simp only [Span.withoutComment]
        rw [blankedOut, List.map_cons, List.cons_append,
          List.takeWhile_cons_of_neg (by simp [hblank])]
        exact List.nil_prefix
    | blank => exact takeWhile_append_shown ih text
    | token kind => exact takeWhile_append_shown ih text
    | fault reason => exact takeWhile_append_shown ih text

variable {v : Vocabulary} {c : Char} {input : List Char}

theorem withoutComments_newline (v : Vocabulary) (later : List Char) :
    ∃ other, withoutComments v ('\n' :: later) = '\n' :: other := by
  have hblank : Text.isBlank '\n' = true := by decide
  rw [withoutComments, spans_cons, spanAt_of_blank hblank]
  exact ⟨_, rfl⟩

theorem withoutComment_lexeme (v : Vocabulary) (c : Char) (input text : List Char) :
    Span.withoutComment ⟨(lexeme v c input).1, text⟩ = text := by
  unfold lexeme
  split
  · simp only
    split <;> rfl
  split
  · rfl
  split
  · rfl
  split
  · rfl
  split <;> rfl

/-- Where a lexeme begins, it is the same with the comments behind it blanked out. -/
theorem spanAt_withoutComments (hmarkers : v.MarkersAvoid Text.isBlank)
    (hlexeme : ignored? v c input = none) :
    spanAt v c (input.take (spanAt v c input).2 ++
      withoutComments v (input.drop (spanAt v c input).2)) = spanAt v c input := by
  have hinput := List.take_append_drop (spanAt v c input).2 input
  by_cases hstring : ∃ quote, (spanAt v c input).1 = .fault (.unterminatedString quote)
  · -- What follows an open string is no comment, but the end of the line or of the input.
    obtain ⟨quote, hquote⟩ := hstring
    rw [spanAt_of_not_ignored hlexeme] at hquote hinput ⊢
    rcases drop_of_unterminated hquote with hend | ⟨hsingle, later, hend⟩
    · rw [hend, List.append_nil] at hinput
      rw [hend, hinput, withoutComments, spans, spansAfter, List.flatMap_nil, List.append_nil,
        spanAt_of_not_ignored hlexeme]
    · obtain ⟨other, hother⟩ := withoutComments_newline v later
      rw [hend] at hinput
      rw [← hinput] at hlexeme
      rw [hend, hother, spanAt_next_line hmarkers (by decide) hsingle hlexeme,
        spanAt_of_not_ignored hlexeme, hinput]
  · have hshown := shown_withoutComment (spans v (input.drop (spanAt v c input).2))
    rw [spans_flatMap] at hshown
    have hlength : (input.take (spanAt v c input).2).length = (spanAt v c input).2 :=
      List.length_take_of_le (spanAt_le v c input)
    have hsame := spanAt_shown (v := v) (c := c) hmarkers (by rwa [hinput])
      (by rw [hinput, hlength]) (by rw [hinput]; exact fun quote h => hstring ⟨quote, h⟩) hshown
    rwa [hinput] at hsame

/-- The scan passes over the blanks in the place of a span that is not reported. -/
theorem eventsFrom_unreported {span : Span} {blanks later : List Char} {rest : List Span}
    (hspan : ∀ position, span.event? position = none)
    (hblank : Text.Blank blanks)
    (hafter : ∀ position : Position, position.after blanks = position.after span.text)
    (hlater : ∀ position, eventsFrom position (spans v later) = eventsFrom position rest)
    (position : Position) :
    eventsFrom position (spans v (blanks ++ later)) = eventsFrom position (span :: rest) := by
  rw [eventsFrom_blanks hblank, hafter, hlater, eventsFrom_cons, hspan]
  rfl

theorem eventsFrom_withoutComments (hmarkers : v.MarkersAvoid Text.isBlank) (input : List Char) :
    ∀ position, eventsFrom position (spans v (withoutComments v input)) =
      eventsFrom position (spans v input) := by
  unfold withoutComments
  induction input using spans_induction (v := v) with
  | nil => exact fun _ => rfl
  | cons c input ih =>
    intro position
    rw [List.flatMap_cons]
    cases hfound : ignored? v c input with
    | none =>
      have hspan := spanAt_withoutComments hmarkers hfound
      have hlength : (input.take (spanAt v c input).2).length = (spanAt v c input).2 :=
        List.length_take_of_le (spanAt_le v c input)
      have hkept : Span.withoutComment
          ⟨(spanAt v c input).1, c :: input.take (spanAt v c input).2⟩ =
            c :: input.take (spanAt v c input).2 := by
        rw [spanAt_of_not_ignored hfound, withoutComment_lexeme]
      rw [hkept, List.cons_append, spans_cons]
      rw [withoutComments] at hspan
      rw [hspan, List.take_left' hlength, List.drop_left' hlength, eventsFrom_cons,
        eventsFrom_cons, ih]
    | some span =>
      obtain ⟨kind, length⟩ := span
      rw [spanAt_of_ignored hfound] at ih ⊢
      cases ignored_of_eq_some hfound with
      | blank hblank =>
        rw [take_runLength]
        exact eventsFrom_unreported (fun _ => rfl) (blank_run hblank input) (fun _ => rfl) ih
          position
      | lineComment | blockComment =>
        apply eventsFrom_unreported (fun _ => rfl) (blank_blankedOut _) _ ih position
        intro position
        exact after_blankedOut position _
      | unterminated =>
        have hnil : spans v [] = [] := rfl
        have hwhole := spans_cons v c input
        rw [spanAt_of_ignored hfound] at hwhole
        rw [List.take_length, List.drop_length] at hwhole ⊢
        rw [hnil, List.flatMap_nil, List.append_nil]
        exact congrArg (eventsFrom position) hwhole

end Scan

namespace Source

def withoutComments (source : Source) (v : Vocabulary) : Source :=
  ⟨source.name, String.ofList (Scan.withoutComments v source.text.toList)⟩

end Source

/-- Comments scan as the spaces that could stand in their place: the tokens are the same, at the same
positions, and so are the diagnostics, but for the texts of their lines. -/
theorem comments_scan_as_blanks (source : Source) (v : Vocabulary)
    (hmarkers : v.MarkersAvoid Text.isBlank) :
    ((source.withoutComments v).scan v).buffer.tokens = (source.scan v).buffer.tokens ∧
      ((source.withoutComments v).scan v).diagnostics.map
          (fun d => (d.message.kind, d.message.body, d.message.location.position)) =
        (source.scan v).diagnostics.map
          (fun d => (d.message.kind, d.message.body, d.message.location.position)) := by
  have hevents : Scan.events v (source.withoutComments v).text.toList =
      Scan.events v source.text.toList := by
    rw [Source.withoutComments, String.toList_ofList]
    exact Scan.eventsFrom_withoutComments hmarkers source.text.toList .start
  constructor
  · rw [Source.tokens_scan, Source.tokens_scan, hevents]
  · rw [Source.diagnostics_scan, Source.diagnostics_scan, hevents, List.map_map, List.map_map]
    rfl

def Source.touchedByComments : Source := ⟨"input", "1//e5\n/*\n*/$+/**/+"⟩

theorem comments_scan_as_blanks_touching :
    ∃ v, Language.standard.compile = .ok v ∧ v.MarkersAvoid Text.isBlank ∧
      (Source.touchedByComments.withoutComments v).text = "1    \n  \n  $+    +" ∧
      ((Source.touchedByComments.withoutComments v).scan v).buffer.tokens =
        (Source.touchedByComments.scan v).buffer.tokens ∧
      ((Source.touchedByComments.withoutComments v).scan v).diagnostics.map
          (fun d => (d.message.kind, d.message.body, d.message.location.position)) =
        (Source.touchedByComments.scan v).diagnostics.map
          (fun d => (d.message.kind, d.message.body, d.message.location.position)) := by
  obtain ⟨v, hv, hmarkers, htext⟩ := Language.standard_satisfies
    (p := fun v => v.MarkersAvoid Text.isBlank ∧
      (Source.touchedByComments.withoutComments v).text = "1    \n  \n  $+    +")
    (by decide +kernel)
  exact ⟨v, hv, hmarkers, htext, comments_scan_as_blanks _ v hmarkers⟩

end SourceCheck
