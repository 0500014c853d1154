import SourceCheck.Proofs.FrontEnds.Printing
import SourceCheck.Proofs.Language.Compile
import SourceCheck.Proofs.Scan.Modes
import SourceCheck.Proofs.Service.Origins

/-!
The front ends give one verdict on a source. Some scan it strictly and some resiliently, some stop
at the first error and some collect all; what they come to is told by two facts: whether the
resilient scan has nothing to report, and whether the delimiters of its tokens are balanced.
-/

namespace SourceCheck

namespace Source

def Lexed (source : Source) (v : Vocabulary) : Prop := (source.scan v).diagnostics = []

def Nested (source : Source) (v : Vocabulary) : Prop :=
  (Balance.check v (source.scan v).buffer.tokens).ok = true

def Accepted (source : Source) (v : Vocabulary) : Prop := source.Lexed v ∧ source.Nested v

def rows (source : Source) (v : Vocabulary) : List Row :=
  (source.scan v).buffer.tokens.map Row.ofToken

instance (source : Source) (v : Vocabulary) : Decidable (source.Lexed v) :=
  inferInstanceAs (Decidable (_ = []))

instance (source : Source) (v : Vocabulary) : Decidable (source.Nested v) :=
  inferInstanceAs (Decidable (_ = true))

instance (source : Source) (v : Vocabulary) : Decidable (source.Accepted v) :=
  inferInstanceAs (Decidable (_ ∧ _))

variable {source other : Source} {v : Vocabulary}

theorem lexed_iff : source.Lexed v ↔
    (Scan.events v source.text.toList).filterMap Scan.Event.fault? = [] := by
  rw [Lexed, diagnostics_scan, List.map_eq_nil_iff]

theorem nested_iff : source.Nested v ↔ (Balance.check v
    ((Scan.events v source.text.toList).filterMap Scan.Event.token?)).ok = true := by
  rw [Nested, tokens_scan]

/-- The verdict is about the text, whatever the source is called. -/
theorem lexed_congr (h : source.text = other.text) : source.Lexed v ↔ other.Lexed v := by
  rw [lexed_iff, lexed_iff, h]

theorem accepted_congr (h : source.text = other.text) : source.Accepted v ↔ other.Accepted v := by
  rw [Accepted, Accepted, lexed_congr h, nested_iff, nested_iff, h]

theorem rows_congr (h : source.text = other.text) : source.rows v = other.rows v := by
  rw [rows, rows, tokens_scan, tokens_scan, h]

theorem lexed_named (name : String) : Lexed ⟨name, source.text⟩ v ↔ source.Lexed v :=
  lexed_congr rfl

theorem accepted_named (name : String) : Accepted ⟨name, source.text⟩ v ↔ source.Accepted v :=
  accepted_congr rfl

theorem rows_named (name : String) : rows ⟨name, source.text⟩ v = source.rows v := rows_congr rfl

/-- A strict scan gives the buffer of the resilient one or fails, as the resilient one has nothing
to report or something. -/
theorem scanStrictly_cases (source : Source) (v : Vocabulary) :
    (source.Lexed v ∧ source.scanStrictly v = .ok (source.scan v).buffer) ∨
      (¬ source.Lexed v ∧ ∃ e, source.scanStrictly v = .error e) := by
  rw [lexed_iff, scanStrictly_eq, buffer_scan]
  cases hcut : Scan.untilFault (Scan.events v source.text.toList) with
  | mk tokens found =>
    cases found with
    | none =>
      have hevents := Scan.untilFault_none hcut
      refine .inl ⟨?_, ?_⟩
      · rw [hevents, Scan.fault?_map_token]
      · rw [hevents, Scan.token?_map_token]
    | some found =>
      obtain ⟨position, reason⟩ := found
      obtain ⟨later, hevents⟩ := Scan.untilFault_some hcut
      refine .inr ⟨?_, _, rfl⟩
      rw [hevents, List.filterMap_append, Scan.fault?_map_token]
      simp

theorem scanStrictly_of_lexed (h : source.Lexed v) :
    source.scanStrictly v = .ok (source.scan v).buffer := by
  rcases source.scanStrictly_cases v with ⟨-, hscan⟩ | ⟨hfailed, -⟩
  · exact hscan
  · exact absurd h hfailed

theorem analyze_of_accepted (h : source.Accepted v) : source.analyze v = .rows (source.rows v) := by
  obtain ⟨hlexed, hnested⟩ := h
  have hissues := List.isEmpty_iff.mp hnested
  rw [analyze, hlexed]
  simp only [Analysis.ofTokens, List.map_nil, hissues]
  rfl

theorem analyze_of_not_accepted (h : ¬ source.Accepted v) :
    ∃ e, source.analyze v = .error e := by
  rw [analyze]
  cases hdiagnostics : (source.scan v).diagnostics with
  | cons first rest => exact ⟨_, rfl⟩
  | nil =>
    have hnested : ¬ source.Nested v := fun hnested => h ⟨hdiagnostics, hnested⟩
    cases hissues : (Balance.check v (source.scan v).buffer.tokens).issues with
    | nil => exact absurd (List.isEmpty_iff.mpr hissues) hnested
    | cons issue issues =>
      refine ⟨.ofIssue v (source.scan v).buffer.tokens issue, ?_⟩
      simp only [Analysis.ofTokens, List.map_nil, hissues]

end Source

namespace Cli

def exitStatus (success : Prop) [Decidable success] : Nat := if success then 0 else 1

theorem exitStatus_congr {p q : Prop} [Decidable p] [Decidable q] (h : p ↔ q) :
    exitStatus p = exitStatus q := by
  simp only [exitStatus, h]

variable {source : Source} {v : Vocabulary} {o : Options}

theorem exitCode_runLex : (runLex source v o).exitCode = exitStatus (source.Lexed v) := by
  unfold runLex
  split
  · rcases source.scanStrictly_cases v with ⟨hlexed, hscan⟩ | ⟨hlexed, e, hscan⟩
    · rw [hscan, exitStatus, if_pos hlexed]
    · rw [hscan, exitStatus, if_neg hlexed]
  · exact exitStatus_congr List.isEmpty_iff

theorem exitCode_runValidate :
    (runValidate source v o).exitCode = exitStatus (source.Accepted v) := by
  unfold runValidate
  rcases source.scanStrictly_cases v with ⟨hlexed, hscan⟩ | ⟨hlexed, e, hscan⟩
  · rw [hscan]
    exact exitStatus_congr (and_iff_right hlexed).symm
  · rw [hscan, exitStatus, if_neg fun h => hlexed h.1]

theorem exitCode_runAnalyze :
    (runAnalyze source v o).exitCode = exitStatus (source.Accepted v) := by
  unfold runAnalyze
  by_cases h : source.Accepted v
  · rw [Source.analyze_of_accepted h, exitStatus, if_pos h]
  · obtain ⟨e, he⟩ := Source.analyze_of_not_accepted h
    rw [he, exitStatus, if_neg h]

/-- Of a source without lexical errors both modes print all rows. -/
theorem prints_runLex (h : source.Lexed v) :
    Prints o (source.rows v) (runLex source v o).output := by
  have houtput : (runLex source v o).output = showRows o (source.rows v) := by
    unfold runLex
    split
    · rw [Source.scanStrictly_of_lexed h]
      rfl
    · rfl
  rw [houtput]
  exact prints_showRows o (source.rows v)

structure Scans (env : Environment) (arguments : List String) (o : Options) (v : Vocabulary)
    (source : Source) : Prop where
  invoked : Invocation.ofArguments arguments = .ok (.run o)
  no_route : o.route = none
  vocabulary : ∃ settings, readSettings env o = .ok settings ∧ settings.vocabulary = .ok v
  source : ∃ file, o.sourceFile = some file ∧ readSource env file = .ok source

structure Serves (env : Environment) (arguments : List String) (o : Options) (service : Service)
    (route body : String) : Prop where
  invoked : Invocation.ofArguments arguments = .ok (.run o)
  route : o.route = some route
  vocabulary : ∃ settings, readSettings env o = .ok settings ∧
    settings.vocabulary = .ok service.vocabulary ∧ settings.service = service.settings
  body : readStandardInput env = .ok body

variable {env : Environment} {arguments : List String} {service : Service} {route body : String}

theorem mapError_of_eq_ok {ε δ α : Type} {x : Except ε α} {a : α} (h : x = .ok a) (f : ε → δ) :
    x.mapError f = .ok a := by
  rw [h]
  rfl

theorem Scans.run_eq (h : Scans env arguments o v source) :
    run env arguments = o.phase.run source v o := by
  obtain ⟨settings, hsettings, hvocabulary⟩ := h.vocabulary
  obtain ⟨file, hfile, hsource⟩ := h.source
  have hrun : o.run env = .ok (o.phase.run source v o) := by
    simp only [Options.run, bind, Except.bind, mapError_of_eq_ok hsettings,
      mapError_of_eq_ok hvocabulary, h.no_route, hfile, hsource]
    rfl
  rw [run, h.invoked]
  simp only [hrun]

theorem Serves.run_eq (h : Serves env arguments o service route body) :
    run env arguments = serve service route body o := by
  obtain ⟨settings, hsettings, hvocabulary, hservice⟩ := h.vocabulary
  have hrun : o.run env = .ok (serve service route body o) := by
    simp only [Options.run, bind, Except.bind, mapError_of_eq_ok hsettings,
      mapError_of_eq_ok hvocabulary, h.route, hservice, h.body]
    rfl
  rw [run, h.invoked]
  simp only [hrun]

theorem scans_standardInput {text : String}
    (hinvoked : Invocation.ofArguments arguments = .ok (.run o)) (hconfig : o.config = none)
    (hroute : o.route = none) (hfile : o.sourceFile = some "-")
    (hvocabulary : Language.standard.compile = .ok v)
    (htext : FileEntry.decodeText env.standardInput = .ok text) :
    Scans env arguments o v ⟨"<stdin>", text⟩ := by
  constructor
  · exact hinvoked
  · exact hroute
  · refine ⟨.standard, by rw [readSettings, hconfig], ?_⟩
    rw [Settings.vocabulary, Settings.standard, hvocabulary]
    rfl
  · refine ⟨"-", hfile, ?_⟩
    rw [readSource, if_pos rfl, readStandardInput, htext]
    rfl

end Cli

namespace Service

variable {service : Service} {origin body : Option String} {payload : Payload} {source : Source}

theorem sorted_rowsJson (tokens : List Token) : (rowsJson tokens).sorted =
    .array ((tokens.map Row.ofToken).map fun row => row.json.sorted) := Json.sorted_array_map _ _

theorem hasFields_rows (tokens : List Token) : ∃ entries,
    (Response.ofBody 200 (.object [("rows", rowsJson tokens)])).body.HasFields
      [("rows", .array entries)] ∧
    List.Forall₂ Row.IsEntry (tokens.map Row.ofToken) entries := by
  have hbody : (Response.ofBody 200 (.object [("rows", rowsJson tokens)])).body.HasFields
      [("rows", (rowsJson tokens).sorted)] := Json.hasFields_sorted _
  rw [sorted_rowsJson] at hbody
  exact ⟨_, hbody, Json.forall₂_entries Row.isEntry_sorted _⟩

theorem lexAnswer_of_lexed {v : Vocabulary} (payload : Payload)
    (h : (requestSource payload).Lexed v) :
    lexAnswer v payload =
      .ofBody 200 (.object [("rows", rowsJson ((requestSource payload).scan v).buffer.tokens)]) := by
  have hnothing : ((requestSource payload).scan v).diagnostics = [] := h
  have hscan := Source.scanStrictly_of_lexed h
  unfold lexAnswer
  cases payload.mode with
  | resilient =>
    simp only [hnothing]
    rfl
  | strict => simp only [hscan]

theorem validateAnswer_of_lexed {v : Vocabulary} (payload : Payload)
    (h : (requestSource payload).Lexed v) :
    validateAnswer v payload =
      .ofBody (if (requestSource payload).Nested v then 200 else 400)
        (Balance.check v ((requestSource payload).scan v).buffer.tokens).json := by
  rw [validateAnswer, Source.scanStrictly_of_lexed h]
  rfl

theorem handle_lex (hbody : Payload.ofBody body = .ok payload) :
    (service.handle ⟨"/lex", origin, body⟩).body = (lexAnswer service.vocabulary payload).body := by
  have hroute : route? "/lex" = some .lex := by decide
  exact (handle_of_payload service ⟨"/lex", origin, body⟩ hroute hbody).2

theorem handle_validate (hbody : Payload.ofBody body = .ok payload) :
    (service.handle ⟨"/validate", origin, body⟩).status =
      (validateAnswer service.vocabulary payload).status := by
  have hroute : route? "/validate" = some .validate := by decide
  exact (handle_of_payload service ⟨"/validate", origin, body⟩ hroute hbody).1

theorem status_handle_validate (hbody : Payload.ofBody body = .ok payload)
    (hsource : payload.source = source.text) :
    (service.handle ⟨"/validate", origin, body⟩).status =
      if source.Accepted service.vocabulary then 200 else 400 := by
  have haccepted : (requestSource payload).Accepted service.vocabulary ↔
      source.Accepted service.vocabulary := Source.accepted_congr hsource
  rw [handle_validate hbody]
  simp only [← haccepted]
  rcases (requestSource payload).scanStrictly_cases service.vocabulary with
    ⟨hlexed, -⟩ | ⟨hlexed, e, hscan⟩
  · have hnested : (requestSource payload).Accepted service.vocabulary ↔
        (requestSource payload).Nested service.vocabulary := and_iff_right hlexed
    rw [validateAnswer_of_lexed payload hlexed]
    simp only [hnested]
    rfl
  · rw [validateAnswer, hscan, if_neg fun h => hlexed h.1]
    rfl

theorem body_handle_lex (hbody : Payload.ofBody body = .ok payload)
    (hsource : payload.source = source.text) (h : source.Lexed service.vocabulary) :
    ∃ entries, (service.handle ⟨"/lex", origin, body⟩).body.HasFields [("rows", .array entries)] ∧
      List.Forall₂ Row.IsEntry (source.rows service.vocabulary) entries := by
  have hlexed : (requestSource payload).Lexed service.vocabulary :=
    (Source.lexed_congr hsource).mpr h
  have hrows : (requestSource payload).rows service.vocabulary =
      source.rows service.vocabulary := Source.rows_congr hsource
  rw [handle_lex hbody, lexAnswer_of_lexed payload hlexed, ← hrows]
  exact hasFields_rows _

end Service

/-- What every front end comes to on a text, under whatever name and with whatever flags. -/
structure Agreement (source : Source) (v : Vocabulary) : Prop where
  lex : ∀ name env arguments o, Cli.Scans env arguments o v ⟨name, source.text⟩ →
    o.phase = .lex → (Cli.run env arguments).exitCode = Cli.exitStatus (source.Lexed v)
  validate : ∀ name env arguments o, Cli.Scans env arguments o v ⟨name, source.text⟩ →
    o.phase = .validate → (Cli.run env arguments).exitCode = Cli.exitStatus (source.Accepted v)
  analyze : ∀ name env arguments o, Cli.Scans env arguments o v ⟨name, source.text⟩ →
    o.phase = .analyze → (Cli.run env arguments).exitCode = Cli.exitStatus (source.Accepted v)
  analysis : ∀ name,
    (∃ rows, Source.analyze ⟨name, source.text⟩ v = .rows rows) ↔ source.Accepted v
  answer : ∀ settings origin body payload, Service.Payload.ofBody body = .ok payload →
    payload.source = source.text →
    (Service.handle ⟨v, settings⟩ ⟨"/validate", origin, body⟩).status =
      if source.Accepted v then 200 else 400
  route : ∀ settings env arguments o body payload,
    Cli.Serves env arguments o ⟨v, settings⟩ "/validate" body →
    Service.Payload.ofBody (some body) = .ok payload → payload.source = source.text →
    (Cli.run env arguments).exitCode = Cli.exitStatus (source.Accepted v)
  rows : source.Accepted v → ∃ rows,
    (∀ name, Source.analyze ⟨name, source.text⟩ v = .rows rows) ∧
    (∀ name env arguments o, Cli.Scans env arguments o v ⟨name, source.text⟩ → o.phase = .lex →
      Cli.Prints o rows (Cli.run env arguments).output) ∧
    ∀ settings origin body payload, Service.Payload.ofBody body = .ok payload →
      payload.source = source.text → ∃ entries,
        (Service.handle ⟨v, settings⟩ ⟨"/lex", origin, body⟩).body.HasFields
          [("rows", .array entries)] ∧
        List.Forall₂ Row.IsEntry rows entries

/-- All front ends give the same verdict on the same text. Scanning alone succeeds when there is no
lexical error, everything else when the delimiters are balanced as well, and the rows are then the
same everywhere. -/
theorem front_ends_agree (source : Source) (v : Vocabulary) : Agreement source v := by
  constructor
  · intro name env arguments o h hphase
    rw [h.run_eq, hphase]
    exact Cli.exitCode_runLex.trans (Cli.exitStatus_congr (Source.lexed_named name))
  · intro name env arguments o h hphase
    rw [h.run_eq, hphase]
    exact Cli.exitCode_runValidate.trans (Cli.exitStatus_congr (Source.accepted_named name))
  · intro name env arguments o h hphase
    rw [h.run_eq, hphase]
    exact Cli.exitCode_runAnalyze.trans (Cli.exitStatus_congr (Source.accepted_named name))
  · intro name
    rw [← Source.accepted_named name]
    constructor
    · rintro ⟨rows, hrows⟩
      by_cases h : Source.Accepted ⟨name, source.text⟩ v
      · exact h
      · obtain ⟨e, he⟩ := Source.analyze_of_not_accepted h
        cases hrows.symm.trans he
    · exact fun h => ⟨_, Source.analyze_of_accepted h⟩
  · exact fun settings origin body payload hbody => Service.status_handle_validate hbody
  · intro settings env arguments o body payload h hbody hsource
    have hstatus : (Service.handle ⟨v, settings⟩ ⟨"/validate", none, some body⟩).status =
        if source.Accepted v then 200 else 400 := Service.status_handle_validate hbody hsource
    rw [h.run_eq, Cli.serve]
    simp only [Cli.Outcome.ofSuccess, hstatus]
    by_cases haccepted : source.Accepted v <;> simp [haccepted, Cli.exitStatus]
  · intro haccepted
    refine ⟨source.rows v, ?_, ?_, ?_⟩
    · intro name
      rw [Source.analyze_of_accepted ((Source.accepted_named name).mpr haccepted),
        Source.rows_named]
    · intro name env arguments o h hphase
      have hlexed := (Source.lexed_named name).mpr haccepted.1
      rw [h.run_eq, hphase, ← Source.rows_named name]
      exact Cli.prints_runLex hlexed
    · exact fun settings origin body payload hbody hsource =>
        Service.body_handle_lex hbody hsource haccepted.1

/-- A bracket that is never closed, read from the standard input and sent in a request. -/
theorem front_ends_agree_unclosed :
    ∃ v env o, Language.standard.compile = .ok v ∧
      Cli.Scans env ["--phase", "validate", "--json", "-"] o v ⟨"<stdin>", "f(a"⟩ ∧
      (Cli.run env ["--phase", "validate", "--json", "-"]).exitCode = 1 ∧
      ∃ payload, Service.Payload.ofBody (some "\x7b\"source\": \"f(a\"\x7d") = .ok payload ∧
        payload.source = "f(a" ∧ ∀ settings origin, (Service.handle ⟨v, settings⟩
          ⟨"/validate", origin, some "\x7b\"source\": \"f(a\"\x7d"⟩).status = 400 := by
  have hstandard : ∃ v, Language.standard.compile = .ok v ∧ ¬ (Balance.check v
      ((Scan.events v "f(a".toList).filterMap Scan.Event.token?)).ok = true :=
    Language.standard_satisfies (by decide +kernel)
  obtain ⟨v, hv, hunclosed⟩ := hstandard
  have hnested : ¬ Source.Nested ⟨"<stdin>", "f(a"⟩ v := mt Source.nested_iff.mp hunclosed
  have hrejected : ¬ Source.Accepted ⟨"<stdin>", "f(a"⟩ v := fun h => hnested h.2
  have hinvoked : Cli.Invocation.ofArguments ["--phase", "validate", "--json", "-"] =
      .ok (.run ⟨.validate, false, true, false, none, none, some "-"⟩) := rfl
  have htext : FileEntry.decodeText [0x66, 0x28, 0x61] = .ok "f(a" := rfl
  have hpayload : Service.Payload.ofBody (some "\x7b\"source\": \"f(a\"\x7d") =
      .ok ⟨"f(a", .resilient⟩ := rfl
  have hscans : Cli.Scans ⟨fun _ => .absent, [0x66, 0x28, 0x61]⟩
      ["--phase", "validate", "--json", "-"]
      ⟨.validate, false, true, false, none, none, some "-"⟩ v ⟨"<stdin>", "f(a"⟩ :=
    Cli.scans_standardInput hinvoked rfl rfl rfl hv htext
  have hagree := front_ends_agree ⟨"<stdin>", "f(a"⟩ v
  refine ⟨v, _, _, hv, hscans, ?_, _, hpayload, rfl, fun settings origin => ?_⟩
  · rw [hagree.validate _ _ _ _ hscans rfl, Cli.exitStatus, if_neg hrejected]
  · rw [hagree.answer settings origin _ _ hpayload rfl, if_neg hrejected]

end SourceCheck
