import SourceCheck.Analysis.Json
import SourceCheck.Proofs.Balance.Rendering
import SourceCheck.Proofs.Json.Fields

/-!
The first error of a source. It is about the first diagnostic of the scan or, where there is none,
about the first issue of the check. What it says of an issue is read off the tokens once more, in
several ways that agree; and where it asks for a closer, the check takes that closer there, with one
issue fewer to come.
-/

namespace SourceCheck

namespace FirstError

structure GivesDiagnostic (e : FirstError) (d : Diagnostic) : Prop where
  type : e.type = .lexical
  message : e.message = d.message.body
  rawMessage : e.rawMessage = d.message.body
  line : e.line = some d.message.location.position.line
  column : e.column = some d.message.location.position.column

/-- With the closer put in behind the tokens there is one issue fewer at the end. -/
def Helps (v : Vocabulary) (passed : List Token) (closer : Char) : Prop :=
  ∀ position last, last.isEnd = true →
    (Balance.check v
        (passed ++ [⟨.delimiter, String.singleton closer, position⟩] ++ [last])).issues.length + 1 =
      (Balance.check v (passed ++ [last])).issues.length

/-- The error gives an issue of the check, and says the same of it wherever it says it twice. -/
structure GivesIssue (v : Vocabulary) (tokens : List Token) (e : FirstError)
    (issue : Balance.Issue) : Prop where
  type : e.type = .structural
  message : e.message = issue.message ++ " at " ++ Balance.placeOf issue.position
  rawMessage : e.rawMessage = issue.message
  line : e.line = some issue.position.line
  column : e.column = some issue.position.column
  isEndOfInput : e.isEndOfInput = true ↔ issue.cause.problem = .unclosedDelimiter
  unexpected : e.unexpected = "end of input" ↔ issue.cause.problem = .unclosedDelimiter
  value : e.value = "" ↔ issue.cause.problem = .unclosedDelimiter
  expected : e.json.field? "expected" = some (.strings e.expectedSymbols)
  symbols : e.json.field? "symbols" = some (.strings e.expectedSymbols)
  /-- The closer that the check waits for. -/
  closer : e.expectedSymbols =
    issue.cause.openedBy.toList.map fun o => String.singleton o.pair.closing
  one_symbol : (∃ closer, e.expectedSymbols = [String.singleton closer]) ↔
    issue.openedAt.isSome = true
  no_symbol : e.expectedSymbols = [] ↔ issue.openedAt = none
  helps : ∀ closer, e.expectedSymbols = [String.singleton closer] →
    ¬ Balance.IsOpener v closer → Helps v (tokens.take issue.index) closer

theorem field?_expected (e : FirstError) :
    e.json.field? "expected" = some (.strings e.expectedSymbols) := rfl

theorem field?_symbols (e : FirstError) :
    e.json.field? "symbols" = some (.strings e.expectedSymbols) := rfl

theorem givesDiagnostic {source : Source} {v : Vocabulary} {d : Diagnostic}
    (hd : d ∈ (source.scan v).diagnostics) :
    (ofRecord (DiagnosticRecord.ofDiagnostic d)).GivesDiagnostic d := by
  obtain ⟨hline, hcolumn⟩ := Source.position_of_diagnostic hd
  exact ⟨rfl, rfl, rfl, if_pos hline, if_pos hcolumn⟩

open Balance

variable {v : Vocabulary} {tokens : List Token} {issue : Issue} {found opener : Token}

theorem closingFor_of_tokenOpens {o : Opening} (h : TokenOpens v opener o) :
    closingFor v opener = some (String.singleton o.pair.closing) := by
  obtain ⟨c, hc, hpair, -⟩ := h
  simp [closingFor, (character?_eq_some_iff.mp hc).2, hpair]

/-- The closer is that of the opening which the issue has, though it is found by the text of the
opener. -/
theorem expectedSymbols_ofIssue (h : Concerns v tokens issue) :
    (ofIssue v tokens issue).expectedSymbols =
      issue.cause.openedBy.toList.map fun o => String.singleton o.pair.closing := by
  cases ho : issue.cause.openedBy with
  | none => simp [ofIssue, Issue.openedAt, ho]
  | some o =>
    obtain ⟨opener, hopener, htoken⟩ := h.opens ho
    simp [ofIssue, Issue.openedAt, ho, hopener, closingFor_of_tokenOpens htoken]

theorem one_symbol_iff (h : Concerns v tokens issue) :
    (∃ closer, (ofIssue v tokens issue).expectedSymbols = [String.singleton closer]) ↔
      issue.openedAt.isSome = true := by
  rw [expectedSymbols_ofIssue h, Issue.openedAt]
  cases issue.cause.openedBy with
  | none => simp
  | some o => simp

theorem no_symbol_iff (h : Concerns v tokens issue) :
    (ofIssue v tokens issue).expectedSymbols = [] ↔ issue.openedAt = none := by
  rw [expectedSymbols_ofIssue h, Issue.openedAt]
  cases issue.cause.openedBy with
  | none => simp
  | some o => simp

theorem message_ofIssue (v : Vocabulary) (tokens : List Token) (issue : Issue) :
    (ofIssue v tokens issue).message = issue.message ++ " at " ++ placeOf issue.position := by
  have hplace : " at line " = " at " ++ "line " := by decide
  simp only [ofIssue, placeOf, hplace, String.append_assoc]

theorem quoted_ne_endOfInput (text : String) : "'" ++ text ++ "'" ≠ "end of input" := by
  intro h
  have hcharacters := congrArg String.toList h
  rw [String.toList_append, String.toList_append] at hcharacters
  cases List.head_eq_of_cons_eq hcharacters

theorem helps_of_walk {passed : List Token} {o : Opening} {outer : List Opening}
    (hpassed : ∀ t ∈ passed, t.isEnd = false) (hwalk : walk v 0 [] passed = ([], o :: outer))
    (hcloser : IsCloser v o.pair.closing) : Helps v passed o.pair.closing := by
  intro position last hlast
  have hclosed : ClosedBy v o ⟨.delimiter, String.singleton o.pair.closing, position⟩ :=
    ⟨hcloser, character?_of_singleton rfl rfl⟩
  have hgrown : walk v 0 []
      (passed ++ [⟨.delimiter, String.singleton o.pair.closing, position⟩]) = ([], outer) := by
    rw [walk_append, hwalk, walk_cons, react_of_closedBy hclosed]
    rfl
  have hends : ∀ t ∈ passed ++ [⟨.delimiter, String.singleton o.pair.closing, position⟩],
      t.isEnd = false := by
    intro t ht
    rcases List.mem_append.mp ht with hbefore | hput
    · exact hpassed t hbefore
    · exact isEnd_of_character? (List.mem_singleton.mp hput ▸ hclosed.character)
  rw [check, check, issues_append v hends hlast, issues_append v hpassed hlast, hwalk, hgrown]
  simp

theorem isCloser_of_concerns {o : Opening} (h : Concerns v tokens issue)
    (ho : issue.cause.openedBy = some o) (hopener : ¬ IsOpener v o.pair.closing) :
    IsCloser v o.pair.closing := by
  obtain ⟨opener, -, c, -, hpair, -⟩ := h.opens ho
  exact ⟨hopener, o.pair, List.mem_of_find?_eq_some hpair, rfl⟩

section Scanned

variable {source : Source}

theorem found_cases (h : Concerns v (source.scan v).buffer.tokens issue)
    (hfound : (source.scan v).buffer.tokens[issue.index]? = some found) :
    (issue.cause.problem = .unclosedDelimiter ∧ found.isEnd = true ∧ found.text = "") ∨
      (issue.cause.problem ≠ .unclosedDelimiter ∧ found.isEnd = false ∧ found.text ≠ "") := by
  by_cases hproblem : issue.cause.problem = .unclosedDelimiter
  · have hend := isEnd_of_endPlace (h.endPlace hproblem) hfound
    exact .inl ⟨hproblem, hend, Source.text_of_isEnd (List.mem_of_getElem? hfound) hend⟩
  · obtain ⟨c, ⟨t, ht, hc, -⟩, hindex, -⟩ := h.closes hproblem
    rw [hindex] at ht
    obtain rfl := Option.some.inj (ht.symm.trans hfound)
    refine .inr ⟨hproblem, isEnd_of_character? hc, ?_⟩
    intro htext
    obtain ⟨-, hhead⟩ := character?_eq_some_iff.mp hc
    rw [htext] at hhead
    cases hhead

theorem unexpected_iff (h : Concerns v (source.scan v).buffer.tokens issue) :
    (ofIssue v (source.scan v).buffer.tokens issue).unexpected = "end of input" ↔
      issue.cause.problem = .unclosedDelimiter := by
  obtain ⟨found, hfound, -⟩ := h.token
  rcases found_cases h hfound with ⟨hproblem, hend, -⟩ | ⟨hproblem, hend, -⟩
  · simp [ofIssue, hfound, hproblem, hend]
  · simp [ofIssue, hfound, hproblem, hend, quoted_ne_endOfInput]

theorem value_iff (h : Concerns v (source.scan v).buffer.tokens issue) :
    (ofIssue v (source.scan v).buffer.tokens issue).value = "" ↔
      issue.cause.problem = .unclosedDelimiter := by
  obtain ⟨found, hfound, -⟩ := h.token
  rcases found_cases h hfound with ⟨hproblem, -, htext⟩ | ⟨hproblem, -, htext⟩
  · simp [ofIssue, hfound, hproblem, htext]
  · simp [ofIssue, hfound, hproblem, htext]

/-- The closer that the first issue asks for fits in front of it. -/
theorem helps_of_issues {others : List Issue}
    (hissues : issues v (source.scan v).buffer.tokens = issue :: others) {closer : Char}
    (hsymbols : (ofIssue v (source.scan v).buffer.tokens issue).expectedSymbols =
      [String.singleton closer]) (hopener : ¬ IsOpener v closer) :
    Helps v ((source.scan v).buffer.tokens.take issue.index) closer := by
  have hconcerns := concerns_of_issues hissues
  rw [expectedSymbols_ofIssue hconcerns] at hsymbols
  obtain ⟨o, rest, hopened, hclosing, -⟩ := List.map_eq_cons_iff.mp hsymbols
  have ho : issue.cause.openedBy = some o :=
    Option.mem_toList.mp (hopened ▸ List.mem_cons_self)
  obtain rfl : o.pair.closing = closer := String.singleton_inj.mp hclosing
  have hcloser := isCloser_of_concerns hconcerns ho hopener
  obtain ⟨opened, hfirst⟩ := firstAt_of_issues (Source.exists_isEnd source v) hissues
  obtain ⟨found, hfound, -⟩ := hconcerns.token
  have hpassed : ∀ t ∈ (source.scan v).buffer.tokens.take issue.index, t.isEnd = false :=
    fun t => Source.isEnd_of_mem_take (List.getElem?_eq_some_iff.mp hfound).1
  obtain ⟨outer, rfl⟩ : ∃ outer, opened = o :: outer :=
    List.head?_eq_some_iff.mp (hfirst.opener.symm.trans ho)
  exact helps_of_walk hpassed hfirst.clean hcloser

theorem givesIssue {others : List Issue}
    (hissues : issues v (source.scan v).buffer.tokens = issue :: others) :
    (ofIssue v (source.scan v).buffer.tokens issue).GivesIssue v (source.scan v).buffer.tokens
      issue where
  type := rfl
  message := message_ofIssue v _ issue
  rawMessage := rfl
  line := rfl
  column := rfl
  isEndOfInput := beq_iff_eq
  unexpected := unexpected_iff (concerns_of_issues hissues)
  value := value_iff (concerns_of_issues hissues)
  expected := field?_expected _
  symbols := field?_symbols _
  closer := expectedSymbols_ofIssue (concerns_of_issues hissues)
  one_symbol := one_symbol_iff (concerns_of_issues hissues)
  no_symbol := no_symbol_iff (concerns_of_issues hissues)
  helps := fun _ => helps_of_issues hissues

end Scanned

end FirstError

/-- The analysis of a source by what is found in it: the first diagnostic, else the first issue, else
nothing. -/
inductive FirstFound (source : Source) (v : Vocabulary) : Analysis → Prop where
  | diagnostic {e : FirstError} {d : Diagnostic} {others : List Diagnostic}
      (hdiagnostics : (source.scan v).diagnostics = d :: others) (hgives : e.GivesDiagnostic d) :
      FirstFound source v (.error e)
  | issue {e : FirstError} {issue : Balance.Issue} {others : List Balance.Issue}
      (hdiagnostics : (source.scan v).diagnostics = [])
      (hissues : (Balance.check v (source.scan v).buffer.tokens).issues = issue :: others)
      (hgives : e.GivesIssue v (source.scan v).buffer.tokens issue) :
      FirstFound source v (.error e)
  | nothing (hdiagnostics : (source.scan v).diagnostics = [])
      (hissues : (Balance.check v (source.scan v).buffer.tokens).issues = []) :
      FirstFound source v (.rows (source.rows v))

theorem firstFound (source : Source) (v : Vocabulary) : FirstFound source v (source.analyze v) := by
  rw [Source.analyze]
  cases hdiagnostics : (source.scan v).diagnostics with
  | cons d others =>
    exact .diagnostic hdiagnostics (FirstError.givesDiagnostic (hdiagnostics ▸ List.mem_cons_self))
  | nil =>
    cases hissues : (Balance.check v (source.scan v).buffer.tokens).issues with
    | cons issue others =>
      simp only [Analysis.ofTokens, List.map_nil, hissues]
      exact .issue hdiagnostics hissues (FirstError.givesIssue hissues)
    | nil =>
      simp only [Analysis.ofTokens, List.map_nil, hissues]
      exact .nothing hdiagnostics hissues

/-- An analysis gives an error of each type exactly when there is one to give, and the rows of all
tokens otherwise. -/
structure Truthful (source : Source) (v : Vocabulary) (a : Analysis) : Prop where
  lexical : (∃ e, a = .error e ∧ e.type = .lexical) ↔ (source.scan v).diagnostics ≠ []
  structural : (∃ e, a = .error e ∧ e.type = .structural) ↔ (source.scan v).diagnostics = [] ∧
    (Balance.check v (source.scan v).buffer.tokens).issues ≠ []
  rows : (∃ rows, a = .rows rows) ↔ (source.scan v).diagnostics = [] ∧
    (Balance.check v (source.scan v).buffer.tokens).issues = []
  gives_diagnostic : ∀ e, a = .error e → e.type = .lexical →
    ∃ d others, (source.scan v).diagnostics = d :: others ∧ e.GivesDiagnostic d
  gives_issue : ∀ e, a = .error e → e.type = .structural →
    ∃ issue others, (Balance.check v (source.scan v).buffer.tokens).issues = issue :: others ∧
      e.GivesIssue v (source.scan v).buffer.tokens issue
  gives_rows : ∀ rows, a = .rows rows → rows = (source.scan v).buffer.tokens.map Row.ofToken

theorem FirstFound.truthful {source : Source} {v : Vocabulary} {a : Analysis}
    (h : FirstFound source v a) : Truthful source v a := by
  cases h with
  | diagnostic hdiagnostics hgives =>
    constructor
    · simp [hdiagnostics, hgives.type]
    · simp [hdiagnostics, hgives.type]
    · simp [hdiagnostics]
    · rintro e ⟨⟩ -
      exact ⟨_, _, hdiagnostics, hgives⟩
    · rintro e ⟨⟩ htype
      cases hgives.type.symm.trans htype
    · exact nofun
  | issue hdiagnostics hissues hgives =>
    constructor
    · simp [hdiagnostics, hgives.type]
    · simp [hdiagnostics, hissues, hgives.type]
    · simp [hissues]
    · rintro e ⟨⟩ htype
      cases hgives.type.symm.trans htype
    · rintro e ⟨⟩ -
      exact ⟨_, _, hissues, hgives⟩
    · exact nofun
  | nothing hdiagnostics hissues =>
    constructor
    · simp [hdiagnostics]
    · simp [hissues]
    · simp [hdiagnostics, hissues]
    · exact nofun
    · exact nofun
    · rintro rows ⟨⟩
      rfl

/-- The first error of any source is truthful: it gives the first diagnostic of the scan, or where
there is none the first issue of the check, and the closer that it asks for helps there. -/
theorem first_errors_are_truthful (source : Source) (v : Vocabulary) :
    Truthful source v (source.analyze v) :=
  (firstFound source v).truthful

end SourceCheck
