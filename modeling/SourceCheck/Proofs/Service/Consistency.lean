import SourceCheck.Proofs.FrontEnds.Agreement
import SourceCheck.Proofs.Json.Fields
import SourceCheck.Proofs.Service.Origins
import SourceCheck.Proofs.Service.Requests

/-!
The answers of the service about one source. The resilient list of tokens, the strict one and the
check of the delimiters come from different scans, and each tells an error in its own way; yet they
report an error together or not at all, and the same one.
-/

namespace SourceCheck

namespace TokenKind

theorem category_eq_endOfInput_iff {kind : TokenKind} :
    kind.category = .endOfInput ↔ kind = .endOfInput := by
  cases kind with
  | literal literal => cases literal <;> simp [category]
  | _ => simp [category]

end TokenKind

namespace Source

variable {source : Source} {v : Vocabulary}

/-- A strict scan that stops gives the first of the resilient diagnostics. Its tokens are the first
of the resilient ones, and the end of the input is none of them. -/
theorem scanStrictly_of_faulty (h : ¬ source.Lexed v) :
    ∃ e diagnostics later last, source.scanStrictly v = .error e ∧
      (source.scan v).diagnostics = e.diagnostic :: diagnostics ∧
      (source.scan v).buffer.tokens = e.tokensBefore ++ later ++ [.endOfInput last] ∧
      ∀ t ∈ e.tokensBefore, t.isEnd = false := by
  rw [lexed_iff] at h
  rw [scanStrictly_eq, diagnostics_scan, tokens_scan_eq]
  cases hcut : Scan.untilFault (Scan.events v source.text.toList) with
  | mk tokens found =>
    cases found with
    | none =>
      rw [Scan.untilFault_none hcut, Scan.fault?_map_token] at h
      exact absurd rfl h
    | some found =>
      obtain ⟨position, reason⟩ := found
      obtain ⟨later, hevents⟩ := Scan.untilFault_some hcut
      have hfaults : (Scan.events v source.text.toList).filterMap Scan.Event.fault? =
          (position, reason) :: later.filterMap Scan.Event.fault? := by
        rw [hevents, List.filterMap_append, Scan.fault?_map_token, List.nil_append,
          List.filterMap_cons_some (Scan.Event.fault?_fault _ _)]
      rw [hfaults, List.map_cons, Scan.items_of_fault hevents, List.filterMap_append,
        Scan.token?_map_token]
      exact ⟨_, _, _, _, rfl, rfl, rfl, Scan.isEnd_before_fault hevents⟩

end Source

namespace Service

structure CleanAnswers (v : Vocabulary) (tokens : List Token)
    (resilient strict validation : Response) : Prop where
  rows : ∃ entries, resilient.body.HasFields [("rows", .array entries)] ∧
    List.Forall₂ Row.IsEntry (tokens.map Row.ofToken) entries
  same_body : strict.body = resilient.body
  verdict : ∃ entries, validation.body.HasFields
      [("ok", .boolean (Balance.check v tokens).ok), ("issues", .array entries)] ∧
    List.Forall₂ Balance.Issue.IsEntry (Balance.check v tokens).issues entries
  status : validation.status = if (Balance.check v tokens).ok then 200 else 400

/-- The answers where `first` is the first error. The strict rows are those `before` the error. -/
structure FaultyAnswers (tokens : List Token) (first : DiagnosticRecord)
    (rest : List DiagnosticRecord) (before : List Row)
    (resilient strict validation : Response) : Prop where
  resilient_body : ∃ rows errors, resilient.body.HasFields
      [("rows", .array rows), ("error", .string first.display), ("errors", .array errors)] ∧
    List.Forall₂ Row.IsEntry (tokens.map Row.ofToken) rows ∧
    List.Forall₂ DiagnosticRecord.IsEntry (first :: rest) errors
  strict_body : ∃ rows, strict.body.HasFields
      [("rows", .array rows), ("error", .string ("Lexing failed: " ++ first.display))] ∧
    List.Forall₂ Row.IsEntry before rows
  validation_body :
    validation.body.HasFields [("error", .string ("Lexing failed: " ++ first.display))]
  status : validation.status = 400
  cut : before <+: tokens.map Row.ofToken
  unfinished : ∀ row ∈ before, row.category ≠ .endOfInput
  finished : ∃ shown last, tokens.map Row.ofToken = shown ++ [last] ∧ last.category = .endOfInput

structure Consistent (v : Vocabulary) (tokens : List Token)
    (resilient strict validation : Response) : Prop where
  resilient_status : resilient.status = 200
  strict_status : strict.status = 200
  strict_error : strict.body.HasField "error" ↔ resilient.body.HasField "error"
  validation_error : validation.body.HasField "error" ↔ resilient.body.HasField "error"
  clean : ¬ resilient.body.HasField "error" →
    CleanAnswers v tokens resilient strict validation
  faulty : resilient.body.HasField "error" → ∃ first rest before,
    FaultyAnswers tokens first rest before resilient strict validation

variable {v : Vocabulary} {tokens : List Token} {resilient strict validation : Response}

theorem CleanAnswers.no_error (h : CleanAnswers v tokens resilient strict validation) :
    ¬ resilient.body.HasField "error" ∧ ¬ validation.body.HasField "error" := by
  obtain ⟨rows, hrows, -⟩ := h.rows
  obtain ⟨issues, hverdict, -⟩ := h.verdict
  constructor
  · rintro ⟨value, hvalue⟩
    rw [hrows.field?_eq (by simp)] at hvalue
    cases hvalue
  · rintro ⟨value, hvalue⟩
    rw [hverdict.field?_eq (by simp)] at hvalue
    cases hvalue

theorem CleanAnswers.consistent (h : CleanAnswers v tokens resilient strict validation)
    (hresilient : resilient.status = 200) (hstrict : strict.status = 200) :
    Consistent v tokens resilient strict validation := by
  obtain ⟨hnone, hvalidation⟩ := h.no_error
  constructor
  · exact hresilient
  · exact hstrict
  · rw [h.same_body]
  · exact iff_of_false hvalidation hnone
  · intro _
    exact h
  · intro herror
    exact absurd herror hnone

section Faulty

variable {first : DiagnosticRecord} {rest : List DiagnosticRecord} {before : List Row}

theorem FaultyAnswers.error
    (h : FaultyAnswers tokens first rest before resilient strict validation) :
    resilient.body.field? "error" = some (.string first.display) := by
  obtain ⟨rows, errors, hbody, -, -⟩ := h.resilient_body
  exact hbody.field?_eq (by simp) _

theorem FaultyAnswers.strict_error
    (h : FaultyAnswers tokens first rest before resilient strict validation) :
    strict.body.field? "error" = some (.string ("Lexing failed: " ++ first.display)) := by
  obtain ⟨rows, hbody, -⟩ := h.strict_body
  exact hbody.field?_eq (by simp) _

theorem FaultyAnswers.validation_error
    (h : FaultyAnswers tokens first rest before resilient strict validation) :
    validation.body.field? "error" = some (.string ("Lexing failed: " ++ first.display)) :=
  h.validation_body.field?_eq (by simp) _

theorem FaultyAnswers.consistent
    (h : FaultyAnswers tokens first rest before resilient strict validation)
    (hresilient : resilient.status = 200) (hstrict : strict.status = 200) :
    Consistent v tokens resilient strict validation := by
  have herror : resilient.body.HasField "error" := ⟨_, h.error⟩
  constructor
  · exact hresilient
  · exact hstrict
  · exact iff_of_true ⟨_, h.strict_error⟩ herror
  · exact iff_of_true ⟨_, h.validation_error⟩ herror
  · intro hnone
    exact absurd herror hnone
  · intro _
    exact ⟨first, rest, before, h⟩

end Faulty

/-- The responses to a request for the resilient tokens, to one for the strict tokens and to one for
the check of the delimiters, whoever sent them. -/
structure Answers (v : Vocabulary) (text : String) (mode : ScanMode)
    (resilient strict validation : Response) : Prop where
  resilient_status : resilient.status = 200
  resilient_body : resilient.body = (lexAnswer v ⟨text, .resilient⟩).body
  strict_status : strict.status = 200
  strict_body : strict.body = (lexAnswer v ⟨text, .strict⟩).body
  validation_status : validation.status = (validateAnswer v ⟨text, mode⟩).status
  validation_body : validation.body = (validateAnswer v ⟨text, mode⟩).body

theorem hasFields_verdict (status : Nat) (verdict : Verdict) : ∃ entries,
    (Response.ofBody status verdict.json).body.HasFields
      [("ok", .boolean verdict.ok), ("issues", .array entries)] ∧
    List.Forall₂ Balance.Issue.IsEntry verdict.issues entries := by
  have hbody : (Response.ofBody status verdict.json).body.HasFields
      [("ok", .boolean verdict.ok),
        ("issues", (Json.array (verdict.issues.map Balance.Issue.json)).sorted)] :=
    Json.hasFields_sorted _
  rw [Json.sorted_array_map] at hbody
  exact ⟨_, hbody, Json.forall₂_entries Balance.Issue.isEntry_sorted _⟩

theorem hasFields_failed (tokens : List Token) (message : String) : ∃ entries,
    (Response.ofBody 200 (.object
      [("rows", rowsJson tokens), ("error", .string message)])).body.HasFields
        [("rows", .array entries), ("error", .string message)] ∧
    List.Forall₂ Row.IsEntry (tokens.map Row.ofToken) entries := by
  have hbody : (Response.ofBody 200 (.object
      [("rows", rowsJson tokens), ("error", .string message)])).body.HasFields
        [("rows", (rowsJson tokens).sorted), ("error", .string message)] := Json.hasFields_sorted _
  rw [sorted_rowsJson] at hbody
  exact ⟨_, hbody, Json.forall₂_entries Row.isEntry_sorted _⟩

theorem hasFields_errors (tokens : List Token) (first : DiagnosticRecord)
    (rest : List DiagnosticRecord) : ∃ rows errors,
    (Response.ofBody 200 (.object
      (("rows", rowsJson tokens) :: errorFields (first :: rest)))).body.HasFields
        [("rows", .array rows), ("error", .string first.display), ("errors", .array errors)] ∧
    List.Forall₂ Row.IsEntry (tokens.map Row.ofToken) rows ∧
    List.Forall₂ DiagnosticRecord.IsEntry (first :: rest) errors := by
  have hbody : (Response.ofBody 200 (.object
      (("rows", rowsJson tokens) :: errorFields (first :: rest)))).body.HasFields
        [("rows", (rowsJson tokens).sorted), ("error", .string first.display),
          ("errors", (Json.array ((first :: rest).map DiagnosticRecord.json)).sorted)] :=
    Json.hasFields_sorted _
  rw [sorted_rowsJson, Json.sorted_array_map] at hbody
  exact ⟨_, _, hbody, Json.forall₂_entries Row.isEntry_sorted _,
    Json.forall₂_entries DiagnosticRecord.isEntry_sorted _⟩

theorem status_lexAnswer (v : Vocabulary) (payload : Payload) :
    (lexAnswer v payload).status = 200 := by
  obtain ⟨json, hanswer⟩ := lexAnswer_eq_ofBody v payload
  rw [hanswer]
  rfl

theorem handle_of_asks {service : Service} {request : Request} {payload : Payload} {name : String}
    {route : Route} (hroute : route? name = some route) (h : request.Asks name payload) :
    (service.handle request).status = (route.answer service.vocabulary payload).status ∧
      (service.handle request).body = (route.answer service.vocabulary payload).body := by
  obtain ⟨rfl, hbody⟩ := h
  exact handle_of_payload service request hroute hbody

theorem answers_of_asks (service : Service) {text : String} {mode : ScanMode}
    {resilient strict validation : Request} (hresilient : resilient.Asks "/lex" ⟨text, .resilient⟩)
    (hstrict : strict.Asks "/lex" ⟨text, .strict⟩)
    (hvalidation : validation.Asks "/validate" ⟨text, mode⟩) :
    Answers service.vocabulary text mode (service.handle resilient) (service.handle strict)
      (service.handle validation) := by
  have hlex : route? "/lex" = some .lex := by decide
  have hvalidate : route? "/validate" = some .validate := by decide
  constructor
  · exact (handle_of_asks hlex hresilient).1.trans (status_lexAnswer _ _)
  · exact (handle_of_asks hlex hresilient).2
  · exact (handle_of_asks hlex hstrict).1.trans (status_lexAnswer _ _)
  · exact (handle_of_asks hlex hstrict).2
  · exact (handle_of_asks hvalidate hvalidation).1
  · exact (handle_of_asks hvalidate hvalidation).2

namespace Answers

variable {text : String} {mode : ScanMode}

theorem clean (h : Answers v text mode resilient strict validation)
    (hlexed : Source.Lexed ⟨"request", text⟩ v) :
    CleanAnswers v (Source.scan ⟨"request", text⟩ v).buffer.tokens resilient strict
      validation := by
  constructor
  · rw [h.resilient_body, lexAnswer_of_lexed ⟨text, .resilient⟩ hlexed]
    exact hasFields_rows _
  · rw [h.resilient_body, h.strict_body, lexAnswer_of_lexed ⟨text, .resilient⟩ hlexed,
      lexAnswer_of_lexed ⟨text, .strict⟩ hlexed]
    rfl
  · rw [h.validation_body, validateAnswer_of_lexed ⟨text, mode⟩ hlexed]
    exact hasFields_verdict _ _
  · rw [h.validation_status, validateAnswer_of_lexed ⟨text, mode⟩ hlexed]
    rfl

theorem faulty (h : Answers v text mode resilient strict validation)
    (hlexed : ¬ Source.Lexed ⟨"request", text⟩ v) : ∃ first rest before,
      FaultyAnswers (Source.scan ⟨"request", text⟩ v).buffer.tokens first rest before resilient
        strict validation := by
  obtain ⟨e, diagnostics, later, position, hscan, hdiagnostics, htokens, hend⟩ :=
    Source.scanStrictly_of_faulty hlexed
  have hresilient : lexAnswer v ⟨text, .resilient⟩ = .ofBody 200 (.object
      (("rows", rowsJson (Source.scan ⟨"request", text⟩ v).buffer.tokens) :: errorFields
        (.ofDiagnostic e.diagnostic ::
          diagnostics.map DiagnosticRecord.ofDiagnostic))) := by
    simp only [lexAnswer, requestSource, hdiagnostics]
    rfl
  have hstrict : lexAnswer v ⟨text, .strict⟩ = .ofBody 200 (.object
      [("rows", rowsJson e.tokensBefore), ("error", .string (lexingFailed e))]) := by
    simp only [lexAnswer, requestSource, hscan]
  have hvalidation : validateAnswer v ⟨text, mode⟩ = .failure 400 (lexingFailed e) := by
    simp only [validateAnswer, requestSource, hscan]
  refine ⟨.ofDiagnostic e.diagnostic, diagnostics.map DiagnosticRecord.ofDiagnostic,
    e.tokensBefore.map Row.ofToken, ?_⟩
  constructor
  · rw [h.resilient_body, hresilient]
    exact hasFields_errors _ _ _
  · rw [h.strict_body, hstrict]
    exact hasFields_failed _ _
  · rw [h.validation_body, hvalidation]
    exact Json.hasFields_sorted _
  · rw [h.validation_status, hvalidation]
    rfl
  · rw [htokens, List.append_assoc, List.map_append]
    exact List.prefix_append _ _
  · intro row hrow hcategory
    obtain ⟨t, ht, rfl⟩ := List.mem_map.mp hrow
    have hkind : t.kind = .endOfInput := TokenKind.category_eq_endOfInput_iff.mp hcategory
    have hnot : t.isEnd = false := hend t ht
    rw [Token.isEnd, hkind] at hnot
    cases hnot
  · rw [htokens, List.map_append]
    exact ⟨_, _, rfl, rfl⟩

theorem error_iff (h : Answers v text mode resilient strict validation) :
    resilient.body.HasField "error" ↔ ¬ Source.Lexed ⟨"request", text⟩ v := by
  constructor
  · intro herror hlexed
    exact (h.clean hlexed).no_error.1 herror
  · intro hlexed
    obtain ⟨first, rest, before, hfaulty⟩ := h.faulty hlexed
    exact ⟨_, hfaulty.error⟩

theorem consistent (h : Answers v text mode resilient strict validation) :
    Consistent v (Source.scan ⟨"request", text⟩ v).buffer.tokens resilient strict
      validation := by
  by_cases hlexed : Source.Lexed ⟨"request", text⟩ v
  · exact (h.clean hlexed).consistent h.resilient_status h.strict_status
  · obtain ⟨first, rest, before, hfaulty⟩ := h.faulty hlexed
    exact hfaulty.consistent h.resilient_status h.strict_status

end Answers

end Service

open Service

/-- Any source can be asked about on either route in either mode. The resilient tokens, the strict
ones and the check of the delimiters then report an error together or not at all, and the same
one. -/
theorem answers_are_consistent (v : Vocabulary) (settings : ServiceSettings) (text : String) :
    (∀ route mode, ∃ request : Request, request.Asks route ⟨text, mode⟩) ∧
      ∀ (resilient strict validation : Request) (mode : ScanMode),
        resilient.Asks "/lex" ⟨text, .resilient⟩ → strict.Asks "/lex" ⟨text, .strict⟩ →
        validation.Asks "/validate" ⟨text, mode⟩ →
        Consistent v (Source.scan ⟨"request", text⟩ v).buffer.tokens
          (handle ⟨v, settings⟩ resilient) (handle ⟨v, settings⟩ strict)
          (handle ⟨v, settings⟩ validation) := by
  constructor
  · intro route mode
    exact ⟨_, Request.asks_written route ⟨text, mode⟩⟩
  · intro resilient strict validation mode hresilient hstrict hvalidation
    apply Answers.consistent
    exact answers_of_asks ⟨v, settings⟩ hresilient hstrict hvalidation

/-- A character that no rule takes, behind a name. -/
theorem answers_are_consistent_unexpected :
    ∃ v message, Language.standard.compile = .ok v ∧
      (handle ⟨v, namedCallers⟩ (.written "/lex" ⟨"a $", .resilient⟩)).body.field? "error" =
        some (.string message) ∧
      (handle ⟨v, namedCallers⟩ (.written "/lex" ⟨"a $", .strict⟩)).body.field? "error" =
        some (.string ("Lexing failed: " ++ message)) ∧
      (handle ⟨v, namedCallers⟩ (.written "/validate" ⟨"a $", .strict⟩)).body.field? "error" =
        some (.string ("Lexing failed: " ++ message)) := by
  have hstandard : ∃ v, Language.standard.compile = .ok v ∧
      (Scan.events v "a $".toList).filterMap Scan.Event.fault? ≠ [] :=
    Language.standard_satisfies (by decide +kernel)
  obtain ⟨v, hv, hfault⟩ := hstandard
  have hlexed : ¬ Source.Lexed ⟨"request", "a $"⟩ v := mt Source.lexed_iff.mp hfault
  have hresilient := Request.asks_written "/lex" ⟨"a $", .resilient⟩
  have hstrict := Request.asks_written "/lex" ⟨"a $", .strict⟩
  have hvalidation := Request.asks_written "/validate" ⟨"a $", .strict⟩
  have herror := (answers_of_asks ⟨v, namedCallers⟩ hresilient hstrict hvalidation).error_iff.mpr
    hlexed
  obtain ⟨-, hconsistent⟩ := answers_are_consistent v namedCallers "a $"
  obtain ⟨first, rest, before, hfaulty⟩ :=
    (hconsistent _ _ _ _ hresilient hstrict hvalidation).faulty herror
  exact ⟨v, first.display, hv, hfaulty.error, hfaulty.strict_error, hfaulty.validation_error⟩

end SourceCheck
