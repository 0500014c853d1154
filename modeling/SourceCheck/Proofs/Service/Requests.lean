import SourceCheck.Proofs.Json.Reading
import SourceCheck.Service.Handler

/-!
Requests that carry a source. Any text can be sent, for either mode: the body that is written for it
reads back as the payload.
-/

namespace SourceCheck.Service

def ScanMode.word : ScanMode → String
  | .resilient => "resilient"
  | .strict => "strict"

theorem readMode_word (mode : ScanMode) :
    Payload.readMode (some (.string mode.word)) = .ok mode := by
  cases mode <;> rfl

namespace Payload

def written (payload : Payload) : List (String × Json) :=
  [("source", .string payload.source), ("mode", .string payload.mode.word)]

def bodyText (payload : Payload) : String := Json.pretty (.object payload.written)

variable (payload : Payload)

theorem plain_written : (Json.object payload.written).Plain 1 :=
  ⟨Nat.one_pos, by simp [written], trivial, trivial, trivial⟩

/-- There is no number in a body. -/
theorem fits_written :
    ∀ lexeme ∈ (Json.object payload.written).lexemes, Json.Lexeme.Fits lexeme := by
  rintro lexeme h z rfl
  simp [written, Json.lexemes, Json.fieldLexemes, Json.int, List.intercalate_cons_cons] at h

theorem ofBody_bodyText : ofBody (some payload.bodyText) = .ok payload := by
  have hread : Json.ofText? payload.bodyText = some (.object payload.written) :=
    Json.ofText?_of_writtenAs (Json.writtenAs_pretty payload.plain_written) payload.plain_written
      (by decide) payload.fits_written
  have hfields : fields (some payload.bodyText) = .ok payload.written := by
    rw [fields, Option.bind_some, hread]
  have hsource : payload.written.lookup "source" = some (.string payload.source) := rfl
  have hmode : payload.written.lookup "mode" = some (.string payload.mode.word) := rfl
  rw [ofBody, hfields]
  change (do
    let source ← readSource (payload.written.lookup "source")
    let mode ← readMode (payload.written.lookup "mode")
    return (⟨source, mode⟩ : Payload)) = _
  rw [hsource, hmode, readMode_word]
  rfl

end Payload

def Request.Asks (request : Request) (route : String) (payload : Payload) : Prop :=
  request.route = route ∧ Payload.ofBody request.body = .ok payload

def Request.written (route : String) (payload : Payload) : Request :=
  ⟨route, none, some payload.bodyText⟩

theorem Request.asks_written (route : String) (payload : Payload) :
    (Request.written route payload).Asks route payload := ⟨rfl, payload.ofBody_bodyText⟩

end SourceCheck.Service
