import SourceCheck.Proofs.Scan.LineEnds

/-!
What the diagnostics of a scan point at. Each stands at the character with which the input begins
that no rule accepts, and shows the line of that character. A block comment without an end takes all
the input, so nothing is scanned behind it.
-/

namespace SourceCheck

namespace Scan

variable {v : Vocabulary} {c : Char} {input text : List Char}

/-- From any span on, the spans of a text are those of the text from there on. -/
theorem spans_split {earlier later : List Span} {span : Span}
    (h : spans v text = earlier ++ span :: later) :
    ∃ c input, text = earlier.flatMap Span.text ++ c :: input ∧
      span = ⟨(spanAt v c input).1, c :: input.take (spanAt v c input).2⟩ ∧
      later = spans v (input.drop (spanAt v c input).2) := by
  induction earlier generalizing text with
  | nil =>
    cases text with
    | nil => cases h
    | cons c input =>
      rw [spans_cons] at h
      obtain ⟨hspan, hlater⟩ := List.cons.inj h
      exact ⟨c, input, rfl, hspan.symm, hlater.symm⟩
  | cons first earlier ih =>
    cases text with
    | nil => cases h
    | cons d rest =>
      rw [spans_cons] at h
      obtain ⟨rfl, hrest⟩ := List.cons.inj h
      obtain ⟨c, input, htext, hspan, hlater⟩ := ih hrest
      refine ⟨c, input, ?_, hspan, hlater⟩
      rw [List.flatMap_cons, List.append_assoc, ← htext, List.cons_append, List.take_append_drop]

theorem itemsFrom_append (position : Position) (first second : List Span) :
    itemsFrom position (first ++ second) =
      itemsFrom position first ++
        itemsFrom (position.after (first.flatMap Span.text)) second := by
  induction first generalizing position with
  | nil => rfl
  | cons span first ih =>
    rw [List.cons_append, itemsFrom, ih, itemsFrom, List.flatMap_cons, Position.after_append,
      List.append_assoc]

theorem exists_split_of_mem_items {position : Position} {spans : List Span} {event : Event}
    (h : event ∈ itemsFrom position spans) :
    ∃ earlier span later, spans = earlier ++ span :: later ∧
      span.event? (position.after (earlier.flatMap Span.text)) = some event := by
  induction spans generalizing position with
  | nil => cases h
  | cons span rest ih =>
    rw [itemsFrom, List.mem_append, Option.mem_toList] at h
    rcases h with hfirst | hlater
    · exact ⟨[], span, rest, rfl, hfirst⟩
    · obtain ⟨earlier, found, later, rfl, hevent⟩ := ih hlater
      refine ⟨span :: earlier, found, later, rfl, ?_⟩
      rwa [List.flatMap_cons, Position.after_append]

theorem event?_eq_fault {span : Span} {position place : Position} {reason : Fault}
    (h : span.event? position = some (.fault place reason)) :
    span.kind = .fault reason ∧ place = position := by
  obtain ⟨kind, text⟩ := span
  cases kind <;> cases h
  exact ⟨rfl, rfl⟩

/-- A fault is reported where the span begins that it is about. -/
theorem exists_split_of_fault {position : Position} {reason : Fault}
    (h : .fault position reason ∈ events v text) :
    ∃ earlier span later, spans v text = earlier ++ span :: later ∧ span.kind = .fault reason ∧
      position = .behind (earlier.flatMap Span.text) := by
  rw [events_eq] at h
  rcases List.mem_append.mp h with hitem | hend
  · obtain ⟨earlier, span, later, hsplit, hevent⟩ := exists_split_of_mem_items hitem
    obtain ⟨hkind, hposition⟩ := event?_eq_fault hevent
    rw [Position.start_after] at hposition
    exact ⟨earlier, span, later, hsplit, hkind, hposition⟩
  · cases List.mem_singleton.mp hend

/-- Why a scan complains where `c` and then `input` stand, as its diagnostic tells it. -/
inductive Cause (v : Vocabulary) (c : Char) (input : List Char) :
    DiagnosticKind → String → Prop where
  | unrecognizedCharacter (hquote : v.isQuote c = false) (hdigit : c.isDigit = false)
      (hstarts : Text.startsWord c = false) (hdelimiter : v.isDelimiter c = false)
      (hoperator : ∀ m ∈ v.operators, m.begins (c :: input) = false)
      (hlineComment : ∀ m ∈ v.lineComments, m.begins (c :: input) = false)
      (hblockComment : ∀ block ∈ v.blockComment, block.opening.begins (c :: input) = false) :
      Cause v c input (.lexical .unrecognizedCharacter)
        ("unrecognized character '" ++ String.ofList (Text.escape .full c) ++ "'")
  | unterminatedString (hquote : v.isQuote c = true)
      (hopen : (StringBody.read c v.multilineStrings input).closed = false) :
      Cause v c input (.lexical .unterminatedString)
        ("unterminated string literal, missing closing " ++ String.singleton c)
  | unterminatedComment {block : BlockComment} (hblock : v.blockComment = some block)
      (hfirst : c = block.opening.first)
      (hbegins : block.opening.begins (c :: input) = true) :
      Cause v c input (.lexical .unterminatedComment)
        ("unterminated block comment starting with " ++ block.opening.text)

theorem cause_of_lexeme {reason : Fault} (hignored : ignored? v c input = none)
    (h : (lexeme v c input).1 = .fault reason) :
    Cause v c input (.lexical reason.problem) reason.message := by
  obtain ⟨-, hline, hblock⟩ := ignored?_none_iff.mp hignored
  unfold lexeme at h
  by_cases hquote : v.isQuote c = true
  · simp only [hquote, ↓reduceIte] at h
    split at h
    · cases h
    · next hopen =>
      cases h
      exact .unterminatedString hquote (Bool.eq_false_iff.mpr hopen)
  by_cases hdigit : c.isDigit = true
  · simp [hquote, hdigit] at h
  by_cases hstarts : Text.startsWord c = true
  · simp [hquote, hdigit, hstarts] at h
  rw [if_neg hquote, if_neg hdigit, if_neg hstarts] at h
  split at h
  · cases h
  next hoperator =>
  split at h
  · cases h
  next hdelimiter =>
  cases h
  rw [Bool.not_eq_true] at hquote hdigit hstarts hdelimiter
  refine .unrecognizedCharacter hquote hdigit hstarts hdelimiter
    (Vocabulary.operator?_none_iff.mp hoperator) ?_ hblock
  intro m hm
  exact Bool.eq_false_iff.mpr (List.find?_eq_none.mp hline m hm)

theorem cause_of_fault {reason : Fault} (h : (spanAt v c input).1 = .fault reason) :
    Text.isBlank c = false ∧ Cause v c input (.lexical reason.problem) reason.message := by
  cases hignored : ignored? v c input with
  | none =>
    rw [spanAt_of_not_ignored hignored] at h
    exact ⟨Bool.eq_false_iff.mpr (ignored?_eq_none hignored).1, cause_of_lexeme hignored h⟩
  | some span =>
    obtain ⟨kind, length⟩ := span
    rw [spanAt_of_ignored hignored] at h
    cases ignored_of_eq_some hignored with
    | blank => cases h
    | lineComment => cases h
    | blockComment => cases h
    | unterminated hblank hline hblock hbegins hbody =>
      cases h
      obtain ⟨later, hinput, -⟩ := Marker.begins_cons hbegins
      exact ⟨Bool.eq_false_iff.mpr hblank,
        .unterminatedComment hblock (List.cons.inj hinput).1 hbegins⟩

theorem length_of_unterminatedComment {opening : Marker}
    (h : (spanAt v c input).1 = .fault (.unterminatedComment opening)) :
    (spanAt v c input).2 = input.length := by
  cases hignored : ignored? v c input with
  | none =>
    rw [spanAt_of_not_ignored hignored] at h
    have hcause := cause_of_lexeme hignored h
    generalize Fault.message _ = body at hcause
    cases hcause with
    | unterminatedComment hblock hfirst hbegins =>
      rw [(ignored?_none_iff.mp hignored).2.2 _ hblock] at hbegins
      cases hbegins
  | some span =>
    obtain ⟨kind, length⟩ := span
    rw [spanAt_of_ignored hignored] at h ⊢
    cases ignored_of_eq_some hignored with
    | blank => cases h
    | lineComment => cases h
    | blockComment => cases h
    | unterminated => rfl

theorem last_of_unterminatedComment {earlier later : List Span} {span : Span} {opening : Marker}
    (h : spans v text = earlier ++ span :: later)
    (hkind : span.kind = .fault (.unterminatedComment opening)) : later = [] := by
  obtain ⟨c, input, -, rfl, rfl⟩ := spans_split h
  rw [length_of_unterminatedComment hkind, List.drop_length]
  rfl

theorem no_unterminatedComment_before {earlier : List Span} {last : Span}
    (h : spans v text = earlier ++ [last]) {position : Position} {reason : Fault}
    (hfault : .fault position reason ∈ itemsFrom .start earlier) :
    reason.problem ≠ .unterminatedComment := by
  intro hproblem
  obtain ⟨before, span, behind, rfl, hevent⟩ := exists_split_of_mem_items hfault
  obtain ⟨hkind, -⟩ := event?_eq_fault hevent
  cases reason with
  | unrecognizedCharacter => cases hproblem
  | unterminatedString => cases hproblem
  | unterminatedComment opening =>
    rw [List.append_assoc, List.cons_append] at h
    have hlast := last_of_unterminatedComment h hkind
    exact absurd hlast (List.append_ne_nil_of_right_ne_nil behind (List.cons_ne_nil _ _))

/-- Such a comment is reported last, with only the end of the input behind it. -/
theorem events_of_unterminatedComment {position : Position} {opening : Marker}
    (h : .fault position (.unterminatedComment opening) ∈ events v text) :
    ∃ earlier, events v text = earlier ++ [.fault position (.unterminatedComment opening),
        .token (.endOfInput (.behind text))] ∧
      ∀ p reason, .fault p reason ∈ earlier → reason.problem ≠ .unterminatedComment := by
  obtain ⟨earlier, span, later, hsplit, hkind, rfl⟩ := exists_split_of_fault h
  obtain rfl := last_of_unterminatedComment hsplit hkind
  refine ⟨itemsFrom .start earlier, ?_, fun _ _ => no_unterminatedComment_before hsplit⟩
  obtain ⟨kind, taken⟩ := span
  obtain rfl : kind = .fault (.unterminatedComment opening) := hkind
  rw [events_eq, items, hsplit, itemsFrom_append, Position.start_after, List.append_assoc]
  rfl

end Scan

open Scan

namespace Source

variable {source : Source} {v : Vocabulary} {d : Diagnostic}

theorem exists_fault_of_diagnostic (hd : d ∈ (source.scan v).diagnostics) :
    ∃ position reason, .fault position reason ∈ events v source.text.toList ∧
      d = source.diagnostic (position, reason) := by
  rw [diagnostics_scan] at hd
  obtain ⟨⟨position, reason⟩, hfound, rfl⟩ := List.mem_map.mp hd
  exact ⟨position, reason, Event.mem_faults_iff.mp hfound, rfl⟩

/-- The diagnostic stands at `c`, behind which `input` follows, and tells what is wrong there. -/
structure PointsAt (source : Source) (v : Vocabulary) (d : Diagnostic) (passed : List Char)
    (c : Char) (input : List Char) : Prop where
  text : source.text.toList = passed ++ c :: input
  severity : d.severity = .error
  position : d.message.location.position = .behind passed
  /-- All of the line, without the newline and without a carriage return at its end. -/
  lineText : d.message.location.lineText = String.ofList (Text.withoutReturn
    (Text.afterLastNewline passed ++ (c :: input).takeWhile (· ≠ '\n')))
  character : d.message.location.lineText.toList[
    (d.message.location.position.column - 1).toNat]? = some c
  not_blank : Text.isBlank c = false
  cause : Cause v c input d.message.kind d.message.body

theorem pointsAt_of_fault {passed input : List Char} {c : Char} {reason : Fault}
    (htext : source.text.toList = passed ++ c :: input)
    (hfault : (spanAt v c input).1 = .fault reason) :
    source.PointsAt v (source.diagnostic (.behind passed, reason)) passed c input := by
  obtain ⟨hblank, hcause⟩ := cause_of_fault hfault
  have hline : (source.diagnostic (.behind passed, reason)).message.location.lineText =
      String.ofList (Text.withoutReturn
        (Text.afterLastNewline passed ++ (c :: input).takeWhile (· ≠ '\n'))) :=
    source.lineText_locate htext
  refine ⟨htext, rfl, rfl, hline, ?_, hblank, hcause⟩
  have hnewline : c ≠ '\n' := ne_newline_of_not_blank (Bool.eq_false_iff.mp hblank)
  have hreturn : c ≠ '\r' := by
    rintro rfl
    exact absurd hblank (by decide)
  have hcolumn : ((Position.behind passed).column - 1).toNat =
      (Text.afterLastNewline passed).length := by
    simp only [Position.behind]
    omega
  rw [hline, String.toList_ofList,
    show (source.diagnostic (.behind passed, reason)).message.location.position =
      .behind passed from rfl, hcolumn]
  apply Text.getElem?_withoutReturn _ hreturn
  rw [List.getElem?_append_right (Nat.le_refl _), Nat.sub_self,
    List.takeWhile_cons_of_pos (by simpa using hnewline)]
  rfl

theorem last_unterminatedComment {position : Position} {opening : Marker}
    (h : .fault position (.unterminatedComment opening) ∈ events v source.text.toList) :
    ∃ earlier, (source.scan v).diagnostics =
        earlier ++ [source.diagnostic (position, .unterminatedComment opening)] ∧
      (∀ e ∈ earlier, e.message.kind ≠ .lexical .unterminatedComment) ∧
      ∀ t ∈ (source.scan v).buffer.tokens, t.isEnd = false → t.position.Before position := by
  obtain ⟨earlier, hevents, hothers⟩ := events_of_unterminatedComment h
  refine ⟨(earlier.filterMap Event.fault?).map source.diagnostic, ?_, ?_, ?_⟩
  · rw [diagnostics_scan, hevents, List.filterMap_append, List.map_append]
    rfl
  · intro e he hkind
    obtain ⟨⟨p, reason⟩, hfound, rfl⟩ := List.mem_map.mp he
    exact hothers p reason (Event.mem_faults_iff.mp hfound) (DiagnosticKind.lexical.inj hkind)
  · intro t ht hend
    have hincreasing := increasing_events v source.text.toList
    rw [tokens_scan, hevents, Event.mem_tokens_iff] at ht
    rw [hevents] at hincreasing
    rcases List.mem_append.mp ht with hearlier | hlast
    · exact (List.pairwise_append.mp hincreasing).2.2 _ hearlier _ List.mem_cons_self
    · rcases List.mem_cons.mp hlast with heq | hlast
      · cases heq
      · cases List.mem_singleton.mp hlast
        cases hend

end Source

/-- Every diagnostic of a scan is an error, shows its whole line and stands at the character that it
complains about. A block comment without an end is complained about last and once, and no token but
the end of the input follows it. -/
theorem diagnostics_point_at_their_cause (source : Source) (v : Vocabulary) :
    (∀ d ∈ (source.scan v).diagnostics, ∃ passed c input, source.PointsAt v d passed c input) ∧
    ∀ d ∈ (source.scan v).diagnostics, d.message.kind = .lexical .unterminatedComment →
      ∃ earlier, (source.scan v).diagnostics = earlier ++ [d] ∧
        (∀ e ∈ earlier, e.message.kind ≠ .lexical .unterminatedComment) ∧
        ∀ t ∈ (source.scan v).buffer.tokens, t.isEnd = false →
          t.position.Before d.message.location.position := by
  constructor
  · intro d hd
    obtain ⟨position, reason, hfault, rfl⟩ := Source.exists_fault_of_diagnostic hd
    obtain ⟨earlier, span, later, hsplit, hkind, rfl⟩ := exists_split_of_fault hfault
    obtain ⟨c, input, htext, rfl, -⟩ := spans_split hsplit
    exact ⟨_, c, input, Source.pointsAt_of_fault htext hkind⟩
  · intro d hd hcomment
    obtain ⟨position, reason, hfault, rfl⟩ := Source.exists_fault_of_diagnostic hd
    cases reason with
    | unrecognizedCharacter => cases hcomment
    | unterminatedString => cases hcomment
    | unterminatedComment opening => exact Source.last_unterminatedComment hfault

end SourceCheck
