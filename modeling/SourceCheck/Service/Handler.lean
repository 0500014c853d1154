import SourceCheck.Balance.Json
import SourceCheck.Diagnostic.Json
import SourceCheck.Scan.Buffer
import SourceCheck.Service.Payload
import SourceCheck.Settings.Basic
import SourceCheck.Token.Json

/-!
The request handling for editors, whatever the transport. The route `/lex` answers with the rows of
the source and its lexical errors, and `/validate` with the balance of its delimiters. The fields of
an answer stand in the order of their names.
-/

namespace SourceCheck

namespace Service

structure Request where
  route : String
  origin : Option String
  body : Option String
  deriving DecidableEq, Repr

structure Response where
  status : Nat
  headers : List (String × String)
  body : Json
  deriving Repr

namespace Response

def ofBody (status : Nat) (body : Json) : Response := ⟨status, [], body.sorted⟩

def failure (status : Nat) (message : String) : Response :=
  .ofBody status (.object [("error", .string message)])

def lowerAscii (c : Char) : Char := if 'A' ≤ c ∧ c ≤ 'Z' then Char.ofNat (c.toNat + 32) else c

def sameHeaderName (a b : String) : Bool :=
  a.toList.map lowerAscii == b.toList.map lowerAscii

/-- The value of the first header of that name, which is compared without regard to case. -/
def header? (r : Response) (name : String) : Option String :=
  (r.headers.find? fun header => sameHeaderName header.1 name).map Prod.snd

end Response

inductive Route where
  | lex
  | validate
  deriving DecidableEq, Repr

def route? (name : String) : Option Route :=
  if name = "/lex" then some .lex else if name = "/validate" then some .validate else none

def requestSource (payload : Payload) : Source := ⟨"request", payload.source⟩

def lexingFailed (e : LexicalError) : String :=
  "Lexing failed: " ++ (DiagnosticRecord.ofDiagnostic e.diagnostic).display

def rowsJson (tokens : List Token) : Json := Row.jsonArray (tokens.map Row.ofToken)

def errorFields : List DiagnosticRecord → List (String × Json)
  | [] => []
  | first :: rest =>
    [("error", .string first.display),
      ("errors", .array ((first :: rest).map DiagnosticRecord.json))]

/-- Lexical errors never fail the request. -/
def lexAnswer (v : Vocabulary) (payload : Payload) : Response :=
  match payload.mode with
  | .resilient =>
    let scan := (requestSource payload).scan v
    .ofBody 200 (.object
      (("rows", rowsJson scan.buffer.tokens) ::
        errorFields (scan.diagnostics.map DiagnosticRecord.ofDiagnostic)))
  | .strict =>
    match (requestSource payload).scanStrictly v with
    | .ok buffer => .ofBody 200 (.object [("rows", rowsJson buffer.tokens)])
    | .error e => .ofBody 200 (.object
        [("rows", rowsJson e.tokensBefore), ("error", .string (lexingFailed e))])

/-- The source must scan without errors, whatever the mode. -/
def validateAnswer (v : Vocabulary) (payload : Payload) : Response :=
  match (requestSource payload).scanStrictly v with
  | .ok buffer =>
    let verdict := Balance.check v buffer.tokens
    .ofBody (if verdict.ok then 200 else 400) verdict.json
  | .error e => .failure 400 (lexingFailed e)

def Route.answer (route : Route) (v : Vocabulary) (payload : Payload) : Response :=
  match route with
  | .lex => lexAnswer v payload
  | .validate => validateAnswer v payload

def originHeader : Option String → List (String × String)
  | some origin => [("Access-Control-Allow-Origin", origin)]
  | none => []

end Service

structure Service where
  vocabulary : Vocabulary
  settings : ServiceSettings
  deriving DecidableEq, Repr

namespace Service

def handle (service : Service) (request : Request) : Response :=
  match route? request.route with
  | none => .failure 404 "no such route"
  | some route =>
    let response :=
      match Payload.ofBody request.body with
      | .ok payload => route.answer service.vocabulary payload
      | .error e => .failure 400 e.message
    let origin := service.settings.allowedOrigin? request.route request.origin
    { response with headers := response.headers ++ originHeader origin }

end Service

end SourceCheck
