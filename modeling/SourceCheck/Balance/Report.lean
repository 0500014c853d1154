import SourceCheck.Balance.Check
import SourceCheck.Diagnostic.Basic
import SourceCheck.Scan.Buffer

/-!
Diagnostics for the issues of a balance check, located in a scanned source. An issue about an open
delimiter has a note at the token that opened it.
-/

namespace SourceCheck.Balance

namespace Cause

def problem : Cause → BalanceProblem
  | .mismatched _ _ => .mismatchedDelimiter
  | .unexpected _ => .unexpectedClosingDelimiter
  | .unclosed _ => .unclosedDelimiter

end Cause

namespace Issue

/-- The note quotes what the buffer holds at the index of the opening delimiter. -/
def report (buffer : TokenBuffer) (issue : Issue) : Report Nat where
  severity := .error
  kind := .balance issue.cause.problem
  place := issue.index
  body := issue.message
  notes := issue.openedAt.toList.map fun opener =>
    (.balance issue.cause.problem, opener,
      "'" ++ (buffer.tokens[opener]?.elim "" Token.text) ++ "' opened here")

end Issue

def diagnostics (verdict : Verdict) (buffer : TokenBuffer) : List Diagnostic :=
  verdict.issues.map fun issue => (issue.report buffer).diagnostic buffer.location

end SourceCheck.Balance
