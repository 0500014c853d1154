import SourceCheck.Diagnostic.Record
import SourceCheck.Json.Value

/-!
Diagnostic records as JSON.
-/

namespace SourceCheck.DiagnosticRecord

def json (record : DiagnosticRecord) : Json := .object [
  ("message", .string record.message),
  ("line", .optionalInt record.line),
  ("column", .optionalInt record.column)]

end SourceCheck.DiagnosticRecord
