import SourceCheck.Proofs.Scan.Reports

/-!
The division of a source. Every character belongs to exactly one span, and a span is a lexeme, the
input that a fault skips, a blank run or a whole comment. The lexemes and the faults in their order
are the tokens and the diagnostics of the scan.
-/

namespace SourceCheck

namespace Marker

theorem end?_some {m : Marker} {input : List Char} {length : Nat} (h : m.end? input = some length) :
    ∃ body rest, input = body ++ m.chars ++ rest ∧ length = body.length + m.chars.length ∧
      ∀ n < body.length, m.begins (input.drop n) = false := by
  fun_induction m.end? input generalizing length with
  | case1 => cases h
  | case2 c input hbegins =>
    cases h
    obtain ⟨rest, hrest⟩ := begins_iff.mp hbegins
    exact ⟨[], rest, hrest, by simp, by simp⟩
  | case3 c input hbegins ih =>
    obtain ⟨shorter, hshorter, rfl⟩ := Option.map_eq_some_iff.mp h
    obtain ⟨body, rest, rfl, rfl, hfirst⟩ := ih hshorter
    refine ⟨c :: body, rest, rfl, by simp only [List.length_cons]; omega, fun n hn => ?_⟩
    cases n with
    | zero => exact Bool.eq_false_iff.mpr hbegins
    | succ n => exact hfirst n (by simpa using hn)

theorem end?_none {m : Marker} {input : List Char} (h : m.end? input = none) (n : Nat) :
    m.begins (input.drop n) = false := by
  fun_induction m.end? input generalizing n with
  | case1 => rw [List.drop_nil, begins_nil]
  | case2 => cases h
  | case3 c input hbegins ih =>
    cases n with
    | zero => exact Bool.eq_false_iff.mpr hbegins
    | succ n => exact ih (Option.map_eq_none_iff.mp h) n

end Marker

namespace Scan

inductive Span.Complete (v : Vocabulary) : Span → List Char → Prop where
  | token {kind text rest} (htext : text ≠ []) : Complete v ⟨.token kind, text⟩ rest
  | blank {text rest} (htext : text ≠ []) (hblank : ∀ c ∈ text, Text.isBlank c = true) :
      Complete v ⟨.blank, text⟩ rest
  | lineComment {marker body rest} (hmarker : marker ∈ v.lineComments) (hbody : '\n' ∉ body)
      (hrest : rest = [] ∨ ∃ later, rest = '\n' :: later) :
      Complete v ⟨.comment, marker.chars ++ body⟩ rest
  | blockComment {block body rest} (hblock : v.blockComment = some block)
      (hfirst : ∀ n < body.length,
        block.closing.begins ((body ++ block.closing.chars ++ rest).drop n) = false) :
      Complete v ⟨.comment, block.opening.chars ++ body ++ block.closing.chars⟩ rest
  | unrecognizedCharacter {c rest} : Complete v ⟨.fault (.unrecognizedCharacter c), [c]⟩ rest
  | unterminatedString {quote body rest} (hquote : v.isQuote quote = true) :
      Complete v ⟨.fault (.unterminatedString quote), quote :: body⟩ rest
  | unterminatedComment {block body} (hblock : v.blockComment = some block)
      (hnone : ∀ n, block.closing.begins (body.drop n) = false) :
      Complete v ⟨.fault (.unterminatedComment block.opening), block.opening.chars ++ body⟩ []

/-- The text is divided into the spans, each of them complete before the next. -/
inductive Divided (v : Vocabulary) : List Char → List Span → Prop where
  | nil : Divided v [] []
  | cons {span rest spans} (hspan : span.Complete v rest) (hrest : Divided v rest spans) :
      Divided v (span.text ++ rest) (span :: spans)

theorem Divided.flatMap {v : Vocabulary} {text : List Char} {spans : List Span}
    (h : Divided v text spans) : spans.flatMap Span.text = text := by
  induction h with
  | nil => rfl
  | cons _ _ ih => rw [List.flatMap_cons, ih]

theorem take_runLength (p : Char → Bool) (input : List Char) :
    input.take (runLength p input) = input.takeWhile p :=
  (List.prefix_iff_eq_take.mp (List.takeWhile_prefix p)).symm

theorem drop_runLength (p : Char → Bool) (input : List Char) :
    input.drop (runLength p input) = input.dropWhile p := by
  have hjoin := List.take_append_drop (runLength p input) input
  rw [take_runLength] at hjoin
  exact List.append_cancel_left (hjoin.trans List.takeWhile_append_dropWhile.symm)

variable {v : Vocabulary} {c : Char} {input : List Char}

theorem complete_lineComment {m : Marker} (hline : v.lineComment? (c :: input) = some m) :
    Span.Complete v
      ⟨.comment, c :: input.take (m.rest.length +
        runLength (· ≠ '\n') (input.drop m.rest.length))⟩
      (input.drop (m.rest.length + runLength (· ≠ '\n') (input.drop m.rest.length))) := by
  obtain ⟨later, hinput, hlater⟩ := Marker.begins_cons (Vocabulary.lineComment?_begins hline)
  obtain ⟨hc, -⟩ := List.cons.inj hinput
  have htext : c :: input.take (m.rest.length +
      runLength (· ≠ '\n') (input.drop m.rest.length)) =
        m.chars ++ later.takeWhile (· ≠ '\n') := by
    rw [hlater, List.drop_left, List.take_add, List.take_left, List.drop_left, take_runLength, hc]
    rfl
  have hrest : input.drop (m.rest.length +
      runLength (· ≠ '\n') (input.drop m.rest.length)) = later.dropWhile (· ≠ '\n') := by
    rw [hlater, List.drop_left, ← List.drop_drop, List.drop_left, drop_runLength]
  rw [htext, hrest]
  exact .lineComment (List.mem_of_find?_eq_some hline) (Text.newline_not_mem_takeWhile later)
    (Text.dropWhile_newline later)

theorem complete_blockComment {block : BlockComment} {length : Nat}
    (hblock : v.blockComment = some block)
    (hbegins : block.opening.begins (c :: input) = true)
    (hbody : block.closing.end? (input.drop block.opening.rest.length) = some length) :
    Span.Complete v ⟨.comment, c :: input.take (block.opening.rest.length + length)⟩
      (input.drop (block.opening.rest.length + length)) := by
  obtain ⟨later, hinput, hlater⟩ := Marker.begins_cons hbegins
  obtain ⟨hc, -⟩ := List.cons.inj hinput
  rw [hlater, List.drop_left] at hbody
  obtain ⟨body, rest, hrest, rfl, hfirst⟩ := Marker.end?_some hbody
  have hlength : body.length + block.closing.chars.length =
      (body ++ block.closing.chars).length := by rw [List.length_append]
  have htext : c :: input.take (block.opening.rest.length +
      (body.length + block.closing.chars.length)) =
        block.opening.chars ++ body ++ block.closing.chars := by
    rw [hlater, List.take_add, List.take_left, List.drop_left, hrest, hlength, List.take_left, hc,
      List.append_assoc]
    rfl
  have hdrop : input.drop (block.opening.rest.length +
      (body.length + block.closing.chars.length)) = rest := by
    rw [hlater, ← List.drop_drop, List.drop_left, hrest, hlength, List.drop_left]
  rw [htext, hdrop]
  exact .blockComment hblock (hrest ▸ hfirst)

theorem complete_unterminated {block : BlockComment} (hblock : v.blockComment = some block)
    (hbegins : block.opening.begins (c :: input) = true)
    (hbody : block.closing.end? (input.drop block.opening.rest.length) = none) :
    Span.Complete v
      ⟨.fault (.unterminatedComment block.opening), c :: input.take input.length⟩
      (input.drop input.length) := by
  obtain ⟨later, hinput, hlater⟩ := Marker.begins_cons hbegins
  rw [hlater, List.drop_left] at hbody
  rw [List.take_length, List.drop_length, hinput]
  exact .unterminatedComment hblock (Marker.end?_none hbody)

theorem complete_of_ignored {kind : SpanKind} {length : Nat} (h : Ignored v c input kind length) :
    Span.Complete v ⟨kind, c :: input.take length⟩ (input.drop length) := by
  cases h with
  | blank hblank =>
    refine .blank (List.cons_ne_nil _ _) fun d hd => ?_
    rw [take_runLength] at hd
    rcases List.mem_cons.mp hd with rfl | hd
    · exact hblank
    · exact List.all_eq_true.mp List.all_takeWhile d hd
  | lineComment hblank hline => exact complete_lineComment hline
  | blockComment hblank hline hblock hbegins hbody =>
    exact complete_blockComment hblock hbegins hbody
  | unterminated hblank hline hblock hbegins hbody =>
    exact complete_unterminated hblock hbegins hbody

theorem complete_lexeme (v : Vocabulary) (c : Char) (input : List Char) :
    Span.Complete v ⟨(lexeme v c input).1, c :: input.take (lexeme v c input).2⟩
      (input.drop (lexeme v c input).2) := by
  unfold lexeme
  split
  · next hquote =>
    simp only
    split
    · exact .token (List.cons_ne_nil _ _)
    · exact .unterminatedString hquote
  split
  · exact .token (List.cons_ne_nil _ _)
  split
  · exact .token (List.cons_ne_nil _ _)
  split
  · exact .token (List.cons_ne_nil _ _)
  split
  · exact .token (List.cons_ne_nil _ _)
  · exact .unrecognizedCharacter

theorem complete_spanAt (v : Vocabulary) (c : Char) (input : List Char) :
    Span.Complete v ⟨(spanAt v c input).1, c :: input.take (spanAt v c input).2⟩
      (input.drop (spanAt v c input).2) := by
  cases h : ignored? v c input with
  | none => rw [spanAt_of_not_ignored h]; exact complete_lexeme v c input
  | some span => rw [spanAt_of_ignored h]; exact complete_of_ignored (ignored_of_eq_some h)

theorem divided_spans (v : Vocabulary) (input : List Char) : Divided v input (spans v input) := by
  induction input using spans_induction (v := v) with
  | nil => exact .nil
  | cons c input ih =>
    have h := Divided.cons (complete_spanAt v c input) ih
    rwa [List.cons_append, List.take_append_drop] at h

namespace Span

def lexeme? : Span → Option (TokenKind × String)
  | ⟨.token kind, text⟩ => some (kind, String.ofList text)
  | ⟨.blank, _⟩ | ⟨.comment, _⟩ | ⟨.fault _, _⟩ => none

def fault? : Span → Option Fault
  | ⟨.fault reason, _⟩ => some reason
  | ⟨.blank, _⟩ | ⟨.comment, _⟩ | ⟨.token _, _⟩ => none

end Span

theorem lexemes_eventsFrom (position : Position) (spans : List Span) :
    ((eventsFrom position spans).filterMap Event.token?).map (fun t => (t.kind, t.text)) =
      spans.filterMap Span.lexeme? ++ [(.endOfInput, "")] := by
  induction spans generalizing position with
  | nil => rfl
  | cons span rest ih =>
    obtain ⟨kind, text⟩ := span
    rw [eventsFrom_cons]
    cases kind <;> simp [Span.event?, Span.lexeme?, List.filterMap_cons, ih]

theorem faults_eventsFrom (position : Position) (spans : List Span) :
    ((eventsFrom position spans).filterMap Event.fault?).map Prod.snd =
      spans.filterMap Span.fault? := by
  induction spans generalizing position with
  | nil => rfl
  | cons span rest ih =>
    obtain ⟨kind, text⟩ := span
    rw [eventsFrom_cons]
    cases kind <;> simp [Span.event?, Span.fault?, List.filterMap_cons, ih]

theorem lexeme_ne_empty {text : List Char} {spans : List Span} (h : Divided v text spans) :
    ∀ lexeme ∈ spans.filterMap Span.lexeme?, lexeme.2 ≠ "" := by
  induction h with
  | nil => simp
  | cons hspan _ ih =>
    intro lexeme hlexeme
    rw [List.filterMap_cons] at hlexeme
    cases hspan with
    | token htext =>
      rcases List.mem_cons.mp hlexeme with rfl | hlater
      · simpa using htext
      · exact ih lexeme hlater
    | _ => exact ih lexeme hlexeme

end Scan

open Scan

/-- The source is the concatenation of spans, each complete before what follows it. The lexemes in
order are the tokens before the end of the input, none of them empty, and the faults in order are
the diagnostics. -/
theorem scan_accounts_for_every_character (source : Source) (v : Vocabulary) :
    ∃ division : List Span,
      division.flatMap Span.text = source.text.toList ∧
      Divided v source.text.toList division ∧
      (source.scan v).buffer.tokens.map (fun t => (t.kind, t.text)) =
        division.filterMap Span.lexeme? ++ [(.endOfInput, "")] ∧
      (∀ lexeme ∈ division.filterMap Span.lexeme?, lexeme.2 ≠ "") ∧
      (source.scan v).diagnostics.map (fun d => (d.message.kind, d.message.body)) =
        (division.filterMap Span.fault?).map
          (fun reason => (.lexical reason.problem, reason.message)) := by
  have hdivided := divided_spans v source.text.toList
  refine ⟨spans v source.text.toList, hdivided.flatMap, hdivided, ?_, lexeme_ne_empty hdivided, ?_⟩
  · rw [Source.tokens_scan]
    exact lexemes_eventsFrom _ _
  · rw [Source.diagnostics_scan, ← faults_eventsFrom .start, List.map_map, List.map_map]
    rfl

end SourceCheck
