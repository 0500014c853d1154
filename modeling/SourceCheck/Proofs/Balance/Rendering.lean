import Mathlib.Data.List.Forall2
import SourceCheck.Diagnostic.Record
import SourceCheck.Proofs.Balance.Issues
import SourceCheck.Proofs.FrontEnds.Agreement
import SourceCheck.Proofs.Scan.Tokens

/-!
How the issues of a scanned source are shown. An issue keeps a position and an opener of its own,
while the diagnostic made of it looks both up again, by the indices of the tokens. Both ways come to
the same: the diagnostic stands where the issue does, shows that line of the source, and its note
stands at the token that the message names.
-/

namespace SourceCheck

namespace Balance

variable {v : Vocabulary} {tokens : List Token} {t found opener : Token} {issue : Issue}

theorem EndPlace.token {index : Nat} {position : Position} (h : EndPlace tokens index position) :
    ∃ t, tokens[index]? = some t ∧ position = t.position := by
  cases h with
  | endOfInput ht => exact ⟨_, ht, rfl⟩
  | last ht => exact ⟨_, ht, rfl⟩

theorem Concerns.token (h : Concerns v tokens issue) :
    ∃ t, tokens[issue.index]? = some t ∧ issue.position = t.position := by
  by_cases hproblem : issue.cause.problem = .unclosedDelimiter
  · exact (h.endPlace hproblem).token
  · obtain ⟨c, ⟨t, ht, -, -, hposition⟩, hindex, hplace⟩ := h.closes hproblem
    rw [hindex] at ht
    exact ⟨t, ht, hplace.symm.trans hposition⟩

def placeOf (position : Position) : String :=
  "line " ++ Text.showInt position.line ++ ", column " ++ Text.showInt position.column

/-- The message of an issue about the pair that a token opened, as told by the tokens. -/
inductive Names (v : Vocabulary) (found opener : Token) (issue : Issue) : Prop where
  | mismatched {o : Opening} (hopens : TokenOpens v opener o)
      (hproblem : issue.cause.problem = .mismatchedDelimiter)
      (hmessage : issue.message = "mismatched closing delimiter '" ++ found.text ++
        "', expected '" ++ String.singleton o.pair.closing ++ "' to close '" ++ opener.text ++
          "' opened at " ++ placeOf opener.position)
  | unclosed {o : Opening} (hopens : TokenOpens v opener o) (hfound : found.isEnd = true)
      (hproblem : issue.cause.problem = .unclosedDelimiter)
      (hmessage : issue.message = "unclosed delimiter '" ++ opener.text ++ "' opened at " ++
        placeOf opener.position ++ ", expected '" ++ String.singleton o.pair.closing ++ "'")

structure Rendered (v : Vocabulary) (source : Source) (buffer : TokenBuffer) (issue : Issue)
    (d : Diagnostic) : Prop where
  severity : d.severity = .error
  kind : d.message.kind = .balance issue.cause.problem
  body : d.message.body = issue.message
  file : d.message.location.file = source.name
  /-- The index of the token is translated again, to the position that the issue has. -/
  location : d.message.location = buffer.location issue.index
  position : d.message.location.position = issue.position
  line_known : (DiagnosticRecord.ofDiagnostic d).line = some issue.position.line
  column_known : (DiagnosticRecord.ofDiagnostic d).column = some issue.position.column
  /-- All of the line, without the newline and without a carriage return at its end. -/
  lineText : ∃ passed ahead, source.text.toList = passed ++ ahead ∧
    issue.position = .behind passed ∧ d.message.location.lineText = String.ofList
      (Text.withoutReturn (Text.afterLastNewline passed ++ ahead.takeWhile (· ≠ '\n')))
  lineText_empty : d.message.location.lineText = "" ↔
    buffer.line? issue.position.line = none ∨ buffer.line? issue.position.line = some ""
  notes_length : d.notes.length = if issue.openedAt.isSome then 1 else 0
  note : ∀ note ∈ d.notes, ∃ i found opener, issue.openedAt = some i ∧
    buffer.tokens[issue.index]? = some found ∧ buffer.tokens[i]? = some opener ∧
    note.kind = .balance issue.cause.problem ∧ note.location = buffer.location i ∧
    note.location.position = opener.position ∧
    note.body = "'" ++ opener.text ++ "' opened here" ∧ Names v found opener issue

section Scanned

variable {source : Source}

/-- A delimiter of a scan acts by its only character. -/
theorem text_of_character? {c : Char} (ht : t ∈ (source.scan v).buffer.tokens)
    (hc : character? t = some c) : t.text = String.singleton c := by
  obtain ⟨hkind, hhead⟩ := character?_eq_some_iff.mp hc
  obtain ⟨d, hd⟩ := Source.text_of_delimiter ht hkind
  rw [hd, String.toList_singleton] at hhead
  rw [hd, Option.some.inj hhead]

theorem text_of_tokenOpens {o : Opening} (ht : t ∈ (source.scan v).buffer.tokens)
    (hopens : TokenOpens v t o) : t.text = String.singleton o.pair.opening := by
  obtain ⟨c, hc, hpair, -⟩ := hopens
  rw [text_of_character? ht hc, opening_of_openingPair? hpair]

theorem isEnd_of_endPlace {index : Nat} {position : Position}
    (h : EndPlace (source.scan v).buffer.tokens index position)
    (ht : (source.scan v).buffer.tokens[index]? = some t) : t.isEnd = true := by
  cases h with
  | endOfInput hs hend =>
    obtain rfl := Option.some.inj (hs.symm.trans ht)
    exact hend
  | last _ _ hnone =>
    obtain ⟨last, hlast, hend⟩ := Source.exists_isEnd source v
    rw [hnone last hlast] at hend
    cases hend

theorem names_of_concerns (h : Concerns v (source.scan v).buffer.tokens issue) {i : Nat}
    (hi : issue.openedAt = some i)
    (hfound : (source.scan v).buffer.tokens[issue.index]? = some found) :
    ∃ opener, (source.scan v).buffer.tokens[i]? = some opener ∧ Names v found opener issue := by
  cases h with
  | @mismatched o c hopens hcloses =>
    obtain ⟨opener, hopener, htoken⟩ := hopens
    obtain ⟨t, ht, hc, -, -⟩ := hcloses
    obtain rfl := Option.some.inj (ht.symm.trans hfound)
    obtain rfl := Option.some.inj hi
    refine ⟨opener, hopener, .mismatched htoken rfl ?_⟩
    obtain ⟨-, -, -, hposition⟩ := id htoken
    rw [text_of_character? (List.mem_of_getElem? ht) hc,
      text_of_tokenOpens (List.mem_of_getElem? hopener) htoken, ← hposition]
    rfl
  | unexpected => cases hi
  | @unclosed o index position hopens hplace =>
    obtain ⟨opener, hopener, htoken⟩ := hopens
    obtain rfl := Option.some.inj hi
    refine ⟨opener, hopener, .unclosed htoken (isEnd_of_endPlace hplace hfound) rfl ?_⟩
    obtain ⟨-, -, -, hposition⟩ := id htoken
    rw [text_of_tokenOpens (List.mem_of_getElem? hopener) htoken, ← hposition]
    rfl

theorem location_of_token {buffer : TokenBuffer} {index : Nat} (ht : buffer.tokens[index]? = some t) :
    buffer.location index = buffer.locationAt t.position := by
  rw [TokenBuffer.location, ht]
  rfl

theorem lineText_of_token (ht : t ∈ (source.scan v).buffer.tokens) :
    ∃ passed ahead, source.text.toList = passed ++ ahead ∧ t.position = .behind passed ∧
      ((source.scan v).buffer.locationAt t.position).lineText = String.ofList
        (Text.withoutReturn (Text.afterLastNewline passed ++ ahead.takeWhile (· ≠ '\n'))) := by
  rw [Source.tokens_scan, Scan.Event.mem_tokens_iff] at ht
  obtain ⟨passed, ahead, htext, hposition⟩ := Scan.position_of_mem_events ht
  have hbehind : t.position = .behind passed := hposition
  refine ⟨passed, ahead, htext, hbehind, ?_⟩
  rw [hbehind, Source.locationAt_scan, Source.lineText_locate source htext]

theorem lineText_eq_empty_iff {buffer : TokenBuffer} {position : Position} :
    (buffer.locationAt position).lineText = "" ↔
      buffer.line? position.line = none ∨ buffer.line? position.line = some "" := by
  rw [TokenBuffer.locationAt]
  cases buffer.line? position.line <;> simp

theorem rendered (hissue : issue ∈ issues v (source.scan v).buffer.tokens) :
    Rendered v source (source.scan v).buffer issue
      ((issue.report (source.scan v).buffer).diagnostic (source.scan v).buffer.location) := by
  have hconcerns := concerns_of_mem_issues hissue
  obtain ⟨found, hfound, hposition⟩ := hconcerns.token
  have hmem := List.mem_of_getElem? hfound
  have hlocation : (source.scan v).buffer.location issue.index =
      (source.scan v).buffer.locationAt issue.position := by
    rw [location_of_token hfound, hposition]
  obtain ⟨hline, hcolumn⟩ := Source.position_of_token hmem
  rw [← hposition] at hline hcolumn
  constructor
  · rfl
  · rfl
  · rfl
  · exact congrArg Location.file (hlocation.trans (Source.locationAt_scan source v _))
  · rfl
  · exact congrArg Location.position hlocation
  · rw [DiagnosticRecord.ofDiagnostic, Report.diagnostic, Issue.report, hlocation]
    exact if_pos hline
  · rw [DiagnosticRecord.ofDiagnostic, Report.diagnostic, Issue.report, hlocation]
    exact if_pos hcolumn
  · obtain ⟨passed, ahead, htext, hbehind, hshown⟩ := lineText_of_token hmem
    rw [← hposition] at hbehind hshown
    exact ⟨passed, ahead, htext, hbehind, (congrArg Location.lineText hlocation).trans hshown⟩
  · rw [← lineText_eq_empty_iff, ← hlocation]
    rfl
  · rw [Report.diagnostic, Issue.report, List.length_map, List.length_map]
    cases issue.openedAt <;> rfl
  · intro note hnote
    rw [Report.diagnostic, Issue.report] at hnote
    obtain ⟨entry, hentry, rfl⟩ := List.mem_map.mp hnote
    obtain ⟨i, hi, rfl⟩ := List.mem_map.mp hentry
    have hi := Option.mem_toList.mp hi
    obtain ⟨opener, hopener, hnames⟩ := names_of_concerns hconcerns hi hfound
    refine ⟨i, found, opener, hi, hfound, hopener, rfl, rfl, ?_, ?_, hnames⟩
    · exact congrArg Location.position (location_of_token hopener)
    · simp only [hopener, Option.elim_some]

end Scanned

/-- The diagnostics handed on for a scanned source are one for each issue, in their order. Each
stands at the position of its issue, shows the line there, and has a note exactly when the issue has
an opener, at the token that the message names. -/
theorem issues_are_rendered (source : Source) (v : Vocabulary) (buffer : TokenBuffer)
    (hbuffer : buffer = (source.scan v).buffer ∨ source.scanStrictly v = .ok buffer) :
    List.Forall₂ (Rendered v source buffer) (check v buffer.tokens).issues
      (diagnostics (check v buffer.tokens) buffer) := by
  obtain rfl := Source.eq_buffer_scan hbuffer
  rw [diagnostics, List.forall₂_map_right_iff, List.forall₂_same]
  exact fun issue hissue => rendered hissue

/-- An opener in front of a newline, read strictly. The end of the input stands on a line that the
table does not have. -/
theorem issues_are_rendered_behind_newline :
    ∃ v buffer d, Language.standard.compile = .ok v ∧
      Source.scanStrictly ⟨"input", "f(a\n"⟩ v = .ok buffer ∧
      (check v buffer.tokens).issues = [⟨.unclosed ⟨⟨'(', ')'⟩, 1, ⟨1, 2⟩⟩, 3, ⟨2, 1⟩⟩] ∧
      diagnostics (check v buffer.tokens) buffer = [d] ∧
      d.message.location.position = ⟨2, 1⟩ ∧ d.notes.length = 1 ∧
      Rendered v ⟨"input", "f(a\n"⟩ buffer ⟨.unclosed ⟨⟨'(', ')'⟩, 1, ⟨1, 2⟩⟩, 3, ⟨2, 1⟩⟩ d := by
  have hstandard : ∃ v, Language.standard.compile = .ok v ∧
      (Scan.events v "f(a\n".toList).filterMap Scan.Event.fault? = [] ∧
      (check v ((Scan.events v "f(a\n".toList).filterMap Scan.Event.token?)).issues =
        [⟨.unclosed ⟨⟨'(', ')'⟩, 1, ⟨1, 2⟩⟩, 3, ⟨2, 1⟩⟩] :=
    Language.standard_satisfies (by decide +kernel)
  obtain ⟨v, hv, hfaults, hissues⟩ := hstandard
  have hstrict : Source.scanStrictly ⟨"input", "f(a\n"⟩ v =
      .ok (Source.scan ⟨"input", "f(a\n"⟩ v).buffer :=
    Source.scanStrictly_of_lexed (Source.lexed_iff.mpr hfaults)
  rw [← Source.tokens_scan ⟨"input", "f(a\n"⟩] at hissues
  have hrendered := issues_are_rendered ⟨"input", "f(a\n"⟩ v _ (.inr hstrict)
  rw [hissues] at hrendered
  obtain ⟨d, later, hd, hlater, hall⟩ := List.forall₂_cons_left_iff.mp hrendered
  obtain rfl := List.forall₂_nil_left_iff.mp hlater
  exact ⟨v, _, d, hv, hstrict, hissues, hall, hd.position, hd.notes_length, hd⟩

end Balance

end SourceCheck
