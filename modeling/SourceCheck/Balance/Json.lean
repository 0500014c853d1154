import SourceCheck.Balance.Check
import SourceCheck.Json.Value

/-!
Verdicts as JSON. Of an issue, clients see the message and the position.
-/

namespace SourceCheck

namespace Balance.Issue

def json (issue : Issue) : Json := .object [
  ("message", .string issue.message),
  ("line", .int issue.position.line),
  ("column", .int issue.position.column)]

end Balance.Issue

namespace Verdict

def json (verdict : Verdict) : Json := .object [
  ("ok", .boolean verdict.ok),
  ("issues", .array (verdict.issues.map Balance.Issue.json))]

end Verdict

end SourceCheck
