import SourceCheck.Json.Reader

/-!
The body of a request: the source to scan and how. A body that is absent or not JSON counts as an
empty object.
-/

namespace SourceCheck.Service

inductive ScanMode where
  | resilient
  | strict
  deriving DecidableEq, Repr

structure Payload where
  source : String
  mode : ScanMode
  deriving DecidableEq, Repr

inductive PayloadError where
  | bodyNotObject
  | sourceNotString
  | unknownMode
  deriving DecidableEq, Repr

def PayloadError.message : PayloadError → String
  | .bodyNotObject => "request body must be a JSON object"
  | .sourceNotString => "`source` must be a string"
  | .unknownMode => "`mode` must be \"strict\" or \"resilient\""

namespace Payload

def fields (body : Option String) : Except PayloadError (List (String × Json)) :=
  match body.bind Json.ofText? with
  | none => .ok []
  | some .null => .ok []
  | some (.object fields) => .ok fields
  | some _ => .error .bodyNotObject

def readSource : Option Json → Except PayloadError String
  | none => .ok ""
  | some (.string text) => .ok text
  | some _ => .error .sourceNotString

def readMode : Option Json → Except PayloadError ScanMode
  | none => .ok .resilient
  | some .null => .ok .resilient
  | some (.string name) =>
    if name = "resilient" then .ok .resilient
    else if name = "strict" then .ok .strict
    else .error .unknownMode
  | some _ => .error .unknownMode

def ofBody (body : Option String) : Except PayloadError Payload := do
  let fields ← fields body
  let source ← readSource (fields.lookup "source")
  let mode ← readMode (fields.lookup "mode")
  return ⟨source, mode⟩

end Payload

end SourceCheck.Service
