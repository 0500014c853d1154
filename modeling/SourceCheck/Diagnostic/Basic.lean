import SourceCheck.Text.Decimal
import SourceCheck.Text.Position

/-!
Diagnostics: a message at a place in the source, with notes at other places. A line or column that
is not positive is unknown and not shown.
-/

namespace SourceCheck

structure Location where
  file : String
  position : Position
  /-- The text of the line, empty when it is not known. -/
  lineText : String
  deriving DecidableEq, Repr

inductive LexicalProblem where
  | unrecognizedCharacter
  | unterminatedString
  | unterminatedComment
  deriving DecidableEq, Repr

inductive BalanceProblem where
  | mismatchedDelimiter
  | unexpectedClosingDelimiter
  | unclosedDelimiter
  deriving DecidableEq, Repr

inductive DiagnosticKind where
  | lexical (problem : LexicalProblem)
  | balance (problem : BalanceProblem)
  deriving DecidableEq, Repr

inductive Severity where
  | warning
  | error
  deriving DecidableEq, Repr

structure Message where
  kind : DiagnosticKind
  location : Location
  body : String
  deriving DecidableEq, Repr

structure Diagnostic where
  severity : Severity
  message : Message
  notes : List Message
  deriving DecidableEq, Repr

namespace Location

def display (l : Location) : String :=
  l.file ++ (if 0 < l.position.line then ":" ++ Text.showInt l.position.line else "") ++
    (if 0 < l.position.column then ":" ++ Text.showInt l.position.column else "")

end Location

namespace Message

def display (m : Message) (severity : Severity) : String :=
  m.location.display ++ ": " ++ (if severity = .error then "ERROR: " else "") ++ m.body

end Message

namespace Diagnostic

/-- A note is never shown as an error. -/
def display (d : Diagnostic) : String :=
  d.message.display d.severity ++
    String.join (d.notes.map fun note => "\n" ++ note.display .warning)

end Diagnostic

structure Report (Place : Type) where
  severity : Severity
  kind : DiagnosticKind
  place : Place
  body : String
  notes : List (DiagnosticKind × Place × String)

namespace Report

variable {Place : Type}

def diagnostic (r : Report Place) (locate : Place → Location) : Diagnostic where
  severity := r.severity
  message := ⟨r.kind, locate r.place, r.body⟩
  notes := r.notes.map fun (kind, place, body) => ⟨kind, locate place, body⟩

end Report

end SourceCheck
