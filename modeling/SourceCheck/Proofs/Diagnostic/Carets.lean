import SourceCheck.Diagnostic.Listing
import SourceCheck.Proofs.Balance.Rendering
import SourceCheck.Proofs.Scan.Causes

/-!
Where the caret of a listing stands. The column counts all characters of the source, while the
indent of the caret is cut from the line as it is shown, without a carriage return at its end.
Everything that is reported stands at a character of the line, or at the end of the input. So the
indent is long enough, but for the end of an input that ends with a carriage return.
-/

namespace SourceCheck

theorem length_caretIndent (lineText : String) (column : Int) :
    (caretIndent lineText column).length = min (column - 1).toNat lineText.toList.length := by
  rw [caretIndent, List.length_map, List.length_take]

namespace Message

variable {m : Message}

/-- Behind its header the message is listed with its line and a caret, which `indent` moves away
from the margin that both have. -/
structure CaretBehind (m : Message) (severity : Severity) (indent : List Char) : Prop where
  listing : m.listing severity = m.display severity ++ "\n" ++
    "    " ++ m.location.lineText ++ "\n" ++
    "    " ++ String.ofList indent ++ "^\n"
  tabs : ∀ (i : Nat) (c : Char), indent[i]? = some c →
    c = if m.location.lineText.toList[i]? = some '\t' then '\t' else ' '

theorem caretBehind (severity : Severity) (hline : m.location.lineText ≠ "")
    (hcolumn : 0 < m.location.position.column) :
    m.CaretBehind severity (caretIndent m.location.lineText m.location.position.column) := by
  constructor
  · have hshown : ¬ m.location.lineText.isEmpty = true := by simpa using hline
    rw [listing, excerpt, if_neg hshown, if_pos hcolumn]
    simp only [String.append_assoc]
  · intro i c hc
    rw [caretIndent, List.getElem?_map, Option.map_eq_some_iff] at hc
    obtain ⟨d, hd, rfl⟩ := hc
    rw [List.getElem?_take] at hd
    split at hd
    · simp only [hd, Option.some_inj]
    · cases hd

theorem CaretBehind.length_eq {severity : Severity} {indent other : List Char}
    (h : m.CaretBehind severity indent) (k : m.CaretBehind severity other) :
    indent.length = other.length := by
  have hlength := congrArg String.length (h.listing.symm.trans k.listing)
  simp only [String.length_append, String.length_ofList] at hlength
  omega

end Message

namespace Diagnostic

def shown (d : Diagnostic) : List (Message × Severity) :=
  (d.message, d.severity) :: d.notes.map fun note => (note, .warning)

theorem listing_eq (d : Diagnostic) :
    d.listing = String.join (d.shown.map fun (m, severity) => m.listing severity) := by
  rw [shown, List.map_cons, List.map_map, String.join_cons]
  rfl

end Diagnostic

namespace Scan

/-- What a scan reports stands at a character that is no blank, or at the end of the input. -/
theorem start_of_mem_events {v : Vocabulary} {text : List Char} {event : Event}
    (h : event ∈ events v text) :
    ∃ passed ahead, text = passed ++ ahead ∧ event.position = .behind passed ∧
      ∀ c ∈ ahead.head?, Text.isBlank c = false := by
  rw [events_eq] at h
  rcases List.mem_append.mp h with hitem | hend
  · obtain ⟨earlier, span, later, hsplit, hevent⟩ := exists_split_of_mem_items hitem
    obtain ⟨c, input, htext, rfl, -⟩ := spans_split hsplit
    rw [Position.start_after] at hevent
    refine ⟨_, _, htext, position_of_event? hevent, ?_⟩
    intro d hd
    obtain rfl := Option.some.inj hd
    rw [Bool.eq_false_iff]
    intro hblank
    rw [spanAt_of_blank hblank] at hevent
    cases hevent
  · rw [List.mem_singleton.mp hend]
    exact ⟨text, [], (List.append_nil text).symm, rfl, fun c hc => by cases hc⟩

end Scan

namespace Source

variable {source : Source} {v : Vocabulary} {d : Diagnostic} {m : Message} {severity : Severity}

/-- The diagnostics about a source: of a scan in either mode, and of the balance of the tokens. -/
inductive Reports (source : Source) (v : Vocabulary) : Diagnostic → Prop where
  | scanned {d : Diagnostic} (hd : d ∈ (source.scan v).diagnostics) : Reports source v d
  | stopped {e : LexicalError} (he : source.scanStrictly v = .error e) :
      Reports source v e.diagnostic
  | checked {buffer : TokenBuffer} {d : Diagnostic}
      (hbuffer : buffer = (source.scan v).buffer ∨ source.scanStrictly v = .ok buffer)
      (hd : d ∈ Balance.diagnostics (Balance.check v buffer.tokens) buffer) : Reports source v d

theorem location_of_scanned {index : Nat} {t : Token}
    (ht : (source.scan v).buffer.tokens[index]? = some t) :
    Scan.Event.token t ∈ Scan.events v source.text.toList ∧
      (source.scan v).buffer.location index = source.locate t.position := by
  have hmem := List.mem_of_getElem? ht
  rw [tokens_scan, Scan.Event.mem_tokens_iff] at hmem
  exact ⟨hmem, (Balance.location_of_token ht).trans (locationAt_scan source v _)⟩

theorem shown_diagnostic {found : Position × Scan.Fault}
    (hm : (m, severity) ∈ (source.diagnostic found).shown) :
    m.location = source.locate found.1 := by
  obtain ⟨rfl, -⟩ := Prod.mk.inj (List.mem_singleton.mp hm)
  rfl

theorem reports_of_issue {issue : Balance.Issue}
    (hissue : issue ∈ Balance.issues v (source.scan v).buffer.tokens) :
    ∃ d, source.Reports v d ∧ d.severity = .error ∧
      d.message.location = source.locate issue.position := by
  have hrendered := Balance.rendered hissue
  obtain ⟨t, ht, hposition⟩ := (Balance.concerns_of_mem_issues hissue).token
  obtain ⟨-, hlocation⟩ := location_of_scanned ht
  refine ⟨_, .checked (.inl rfl) (List.mem_map_of_mem hissue), rfl, ?_⟩
  rw [hposition]
  exact hrendered.location.trans hlocation

/-- Every message, of a diagnostic or of a note, stands where something is found by the scan. -/
theorem exists_event_of_shown (hd : source.Reports v d) (hm : (m, severity) ∈ d.shown) :
    ∃ event ∈ Scan.events v source.text.toList, m.location = source.locate event.position := by
  cases hd with
  | scanned hd =>
    obtain ⟨position, reason, hfault, rfl⟩ := exists_fault_of_diagnostic hd
    exact ⟨_, hfault, shown_diagnostic hm⟩
  | stopped he =>
    rw [scanStrictly_eq] at he
    cases hcut : Scan.untilFault (Scan.events v source.text.toList) with
    | mk tokens found =>
      rw [hcut] at he
      cases found with
      | none => cases he
      | some found =>
        cases he
        obtain ⟨later, hevents⟩ := Scan.untilFault_some hcut
        refine ⟨.fault found.1 found.2, ?_, shown_diagnostic hm⟩
        rw [hevents]
        exact List.mem_append_right _ List.mem_cons_self
  | checked hbuffer hd =>
    obtain rfl := eq_buffer_scan hbuffer
    obtain ⟨issue, hissue, rfl⟩ := List.mem_map.mp hd
    have hrendered := Balance.rendered hissue
    rcases List.mem_cons.mp hm with hmessage | hnote
    · obtain ⟨rfl, -⟩ := Prod.mk.inj hmessage
      obtain ⟨t, ht, -⟩ := (Balance.concerns_of_mem_issues hissue).token
      obtain ⟨hevent, hlocation⟩ := location_of_scanned ht
      exact ⟨_, hevent, hrendered.location.trans hlocation⟩
    · obtain ⟨note, hmem, heq⟩ := List.mem_map.mp hnote
      obtain ⟨rfl, -⟩ := Prod.mk.inj heq
      obtain ⟨i, -, opener, -, -, hopener, -, hplace, -⟩ := hrendered.note _ hmem
      obtain ⟨hevent, hlocation⟩ := location_of_scanned hopener
      exact ⟨_, hevent, hplace.trans hlocation⟩

/-- The position is the end of the input, and a carriage return, which is not shown, is the last
character in front of it. -/
def BehindReturn (source : Source) (position : Position) : Prop :=
  source.text.toList.getLast? = some '\r' ∧ position = .behind source.text.toList

instance (source : Source) (position : Position) : Decidable (source.BehindReturn position) :=
  inferInstanceAs (Decidable (_ ∧ _))

/-- At a character of the line, all of the line in front of it is shown. -/
theorem length_indent_at {passed input : List Char} {c : Char}
    (htext : source.text.toList = passed ++ c :: input) (hc : c ≠ '\n') :
    ((caretIndent (source.locate (.behind passed)).lineText
      (Position.behind passed).column).length : Int) = (Position.behind passed).column - 1 := by
  have hcolumn : (Position.behind passed).column = 1 + (Text.afterLastNewline passed).length := rfl
  have hlength := congrArg (·.toList.length) (source.lineText_locate htext)
  simp only [String.toList_ofList] at hlength
  rw [Text.length_withoutReturn, List.takeWhile_cons_of_pos (by simpa using hc),
    List.length_append, List.length_cons] at hlength
  rw [length_caretIndent]
  split at hlength <;> omega

/-- At the end of the input, all of the line but a carriage return is shown. -/
theorem length_indent_end (hline : (source.locate (.behind source.text.toList)).lineText ≠ "") :
    ((caretIndent (source.locate (.behind source.text.toList)).lineText
      (Position.behind source.text.toList).column).length : Int) =
      if source.text.toList.getLast? = some '\r' then (Position.behind source.text.toList).column - 2
      else (Position.behind source.text.toList).column - 1 := by
  have hcolumn : (Position.behind source.text.toList).column =
      1 + (Text.afterLastNewline source.text.toList).length := rfl
  have hshown := source.lineText_locate (List.append_nil source.text.toList).symm
  rw [List.takeWhile_nil, List.append_nil] at hshown
  have hlast : Text.afterLastNewline source.text.toList ≠ [] := by
    intro hempty
    rw [hempty] at hshown
    exact hline hshown
  have hpositive := List.length_pos_iff.mpr hlast
  have hlength := congrArg (·.toList.length) hshown
  simp only [String.toList_ofList] at hlength
  rw [Text.length_withoutReturn, Text.getLast?_afterLastNewline hlast] at hlength
  rw [length_caretIndent]
  by_cases hreturn : source.text.toList.getLast? = some '\r'
  · rw [if_pos hreturn] at hlength ⊢
    omega
  · rw [if_neg hreturn] at hlength ⊢
    omega

theorem length_indent {passed ahead : List Char} (htext : source.text.toList = passed ++ ahead)
    (hahead : ∀ c ∈ ahead.head?, Text.isBlank c = false)
    (hline : (source.locate (.behind passed)).lineText ≠ "") :
    ((caretIndent (source.locate (.behind passed)).lineText
      (Position.behind passed).column).length : Int) =
      if source.BehindReturn (.behind passed) then (Position.behind passed).column - 2
      else (Position.behind passed).column - 1 := by
  cases ahead with
  | nil =>
    rw [List.append_nil] at htext
    subst htext
    rw [length_indent_end hline]
    exact if_congr (and_iff_left rfl).symm rfl rfl
  | cons c input =>
    have hbehind : ¬ source.BehindReturn (.behind passed) := by
      intro h
      rw [BehindReturn, htext, Position.behind_eq_iff] at h
      cases h.2
    rw [if_neg hbehind]
    apply length_indent_at htext
    exact Scan.ne_newline_of_not_blank (Bool.eq_false_iff.mp (hahead c rfl))

theorem caretBehind_of_shown (hd : source.Reports v d) (hm : (m, severity) ∈ d.shown)
    (hline : m.location.lineText ≠ "") :
    ∃ indent, m.CaretBehind severity indent ∧ (indent.length : Int) =
      if source.BehindReturn m.location.position then m.location.position.column - 2
      else m.location.position.column - 1 := by
  obtain ⟨event, hevent, hlocation⟩ := exists_event_of_shown hd hm
  obtain ⟨passed, ahead, htext, hposition, hahead⟩ := Scan.start_of_mem_events hevent
  rw [hposition] at hlocation
  have hcolumn : 0 < m.location.position.column := by
    rw [hlocation]
    exact (Position.behind_bounds passed).2.2.1
  refine ⟨_, Message.caretBehind severity hline hcolumn, ?_⟩
  rw [hlocation] at hline ⊢
  exact length_indent htext hahead hline

end Source

/-- Every diagnostic is listed message by message, and under each line that is shown the caret
stands in the column that is reported, behind the tabs of the line and a space for every other
character. At the end of an input that ends with a carriage return it stands one column before. -/
theorem caret_stands_under_column (source : Source) (v : Vocabulary) (d : Diagnostic)
    (hd : source.Reports v d) :
    d.listing = String.join (d.shown.map fun (m, severity) => m.listing severity) ∧
    ∀ m severity, (m, severity) ∈ d.shown → m.location.lineText ≠ "" →
      ∃ indent, m.CaretBehind severity indent ∧ (indent.length : Int) =
        if source.BehindReturn m.location.position then m.location.position.column - 2
        else m.location.position.column - 1 := by
  refine ⟨d.listing_eq, ?_⟩
  intro m severity hm hline
  exact Source.caretBehind_of_shown hd hm hline

/-- Behind a tab, the indent begins with it. -/
theorem caret_stands_under_column_behind_tab :
    ∃ v d, Language.standard.compile = .ok v ∧ Source.Reports ⟨"input", "\t("⟩ v d ∧
      d.message.location = ⟨"input", ⟨1, 3⟩, "\t("⟩ ∧
      d.message.CaretBehind .error ['\t', ' '] := by
  have hstandard : ∃ v, Language.standard.compile = .ok v ∧
      ⟨.unclosed ⟨⟨'(', ')'⟩, 0, ⟨1, 2⟩⟩, 1, ⟨1, 3⟩⟩ ∈ Balance.issues v
        ((Scan.events v "\t(".toList).filterMap Scan.Event.token?) :=
    Language.standard_satisfies (by decide +kernel)
  obtain ⟨v, hv, hissue⟩ := hstandard
  rw [← Source.tokens_scan ⟨"input", "\t("⟩] at hissue
  obtain ⟨d, hd, hseverity, hlocation⟩ := Source.reports_of_issue hissue
  have hplace : d.message.location = ⟨"input", ⟨1, 3⟩, "\t("⟩ := hlocation.trans (by decide)
  have hline : d.message.location.lineText ≠ "" := by
    rw [hplace]
    decide
  have hmember : (d.message, Severity.error) ∈ d.shown := by
    rw [← hseverity]
    exact List.mem_cons_self
  obtain ⟨-, hcaret⟩ := caret_stands_under_column ⟨"input", "\t("⟩ v d hd
  obtain ⟨indent, hbehind, hlength⟩ := hcaret d.message .error hmember hline
  have hfree : ¬ Source.BehindReturn ⟨"input", "\t("⟩ ⟨1, 3⟩ := by decide
  rw [hplace, if_neg hfree] at hlength
  obtain ⟨first, second, rfl⟩ := List.length_eq_two.mp (Int.ofNat_inj.mp hlength)
  have hfirst := hbehind.tabs 0 first rfl
  have hsecond := hbehind.tabs 1 second rfl
  rw [hplace] at hfirst hsecond
  obtain rfl : first = '\t' := hfirst
  obtain rfl : second = ' ' := hsecond
  exact ⟨v, d, hv, hd, hplace, hbehind⟩

/-- Of an opener in front of a carriage return, the end of the input stands in the third column, and
the caret in the second. -/
theorem caret_misses_column_behind_return :
    ∃ v d, Language.standard.compile = .ok v ∧ Source.Reports ⟨"input", "(\r"⟩ v d ∧
      d.message.location = ⟨"input", ⟨1, 3⟩, "("⟩ ∧
      ¬ ∃ indent, d.message.CaretBehind d.severity indent ∧
        (indent.length : Int) = d.message.location.position.column - 1 := by
  have hstandard : ∃ v, Language.standard.compile = .ok v ∧
      ⟨.unclosed ⟨⟨'(', ')'⟩, 0, ⟨1, 1⟩⟩, 1, ⟨1, 3⟩⟩ ∈ Balance.issues v
        ((Scan.events v "(\r".toList).filterMap Scan.Event.token?) :=
    Language.standard_satisfies (by decide +kernel)
  obtain ⟨v, hv, hissue⟩ := hstandard
  rw [← Source.tokens_scan ⟨"input", "(\r"⟩] at hissue
  obtain ⟨d, hd, -, hlocation⟩ := Source.reports_of_issue hissue
  have hplace : d.message.location = ⟨"input", ⟨1, 3⟩, "("⟩ := hlocation.trans (by decide)
  refine ⟨v, d, hv, hd, hplace, ?_⟩
  rintro ⟨indent, hbehind, hcolumn⟩
  have hline : d.message.location.lineText ≠ "" := by
    rw [hplace]
    decide
  obtain ⟨shorter, hshorter, hlength⟩ := Source.caretBehind_of_shown hd List.mem_cons_self hline
  have hreturn : Source.BehindReturn ⟨"input", "(\r"⟩ ⟨1, 3⟩ := by decide
  rw [hplace, if_pos hreturn, hshorter.length_eq hbehind, hcolumn, hplace] at hlength
  cases hlength

end SourceCheck
