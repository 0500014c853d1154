import SourceCheck.Balance.Report
import SourceCheck.Diagnostic.Record
import SourceCheck.Token.Row

/-!
The first error of a source in the form in which a parser would give it, or the rows of its tokens
when there is none. A lexical error comes before any balance issue.
-/

namespace SourceCheck

inductive ErrorType where
  | lexical
  | structural
  deriving DecidableEq, Repr

structure FirstError where
  type : ErrorType
  message : String
  rawMessage : String
  /-- Closing delimiters that would have been accepted. -/
  expectedSymbols : List String
  unexpected : String
  line : Option Int
  column : Option Int
  value : String
  isEndOfInput : Bool
  deriving DecidableEq, Repr

inductive Analysis where
  | rows (rows : List Row)
  | error (error : FirstError)
  deriving DecidableEq, Repr

namespace FirstError

def ofRecord (record : DiagnosticRecord) : FirstError where
  type := .lexical
  message := record.message
  rawMessage := record.message
  expectedSymbols := []
  unexpected := "invalid token"
  line := record.line
  column := record.column
  value := ""
  isEndOfInput := false

def closingFor (v : Vocabulary) (opener : Token) : Option String := do
  let pair ← v.openingPair? (← opener.text.toList.head?)
  return String.singleton pair.closing

def ofIssue (v : Vocabulary) (tokens : List Token) (issue : Balance.Issue) : FirstError where
  type := .structural
  message := issue.message ++ " at line " ++ Text.showInt issue.position.line ++ ", column " ++
    Text.showInt issue.position.column
  rawMessage := issue.message
  expectedSymbols :=
    (do closingFor v (← tokens[← issue.openedAt]?) : Option String).toList
  unexpected :=
    match tokens[issue.index]? with
    | some found => if found.isEnd then "end of input" else "'" ++ found.text ++ "'"
    | none => "end of input"
  line := some issue.position.line
  column := some issue.position.column
  value := tokens[issue.index]?.elim "" Token.text
  isEndOfInput := issue.cause.problem == .unclosedDelimiter

end FirstError

namespace Analysis

def ofTokens (v : Vocabulary) (tokens : List Token) (lexicalErrors : List DiagnosticRecord) :
    Analysis :=
  match lexicalErrors with
  | first :: _ => .error (.ofRecord first)
  | [] =>
    match (Balance.check v tokens).issues with
    | issue :: _ => .error (.ofIssue v tokens issue)
    | [] => .rows (tokens.map Row.ofToken)

end Analysis

namespace Source

def analyze (source : Source) (v : Vocabulary) : Analysis :=
  let scan := source.scan v
  .ofTokens v scan.buffer.tokens (scan.diagnostics.map DiagnosticRecord.ofDiagnostic)

end Source

end SourceCheck
