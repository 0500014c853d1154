import SourceCheck.Diagnostic.Basic

/-!
Records: what is sent of a diagnostic, its body and the position as far as it is known.
-/

namespace SourceCheck

structure DiagnosticRecord where
  message : String
  line : Option Int
  column : Option Int
  deriving DecidableEq, Repr

namespace DiagnosticRecord

def known (n : Int) : Option Int := if 0 < n then some n else none

def ofDiagnostic (d : Diagnostic) : DiagnosticRecord where
  message := d.message.body
  line := known d.message.location.position.line
  column := known d.message.location.position.column

/-- A column without a line is not shown. -/
def display (r : DiagnosticRecord) : String :=
  match r.line, r.column with
  | some line, some column =>
    r.message ++ " at line " ++ Text.showInt line ++ ", column " ++ Text.showInt column
  | some line, none => r.message ++ " at line " ++ Text.showInt line
  | none, _ => r.message

end DiagnosticRecord

end SourceCheck
