import SourceCheck.Diagnostic.Basic
import SourceCheck.Proofs.Scan.Run
import SourceCheck.Text.Escape
import SourceCheck.Text.LineTable

/-!
The two ways of scanning a source. Resilient scanning reports every fault and keeps every token;
strict scanning stops at the first fault and keeps the tokens before it.
-/

namespace SourceCheck

structure Source where
  name : String
  text : String
  deriving DecidableEq, Repr

namespace Scan.Fault

def problem : Fault → LexicalProblem
  | .unrecognizedCharacter _ => .unrecognizedCharacter
  | .unterminatedString _ => .unterminatedString
  | .unterminatedComment _ => .unterminatedComment

def message : Fault → String
  | .unrecognizedCharacter c =>
    "unrecognized character '" ++ String.ofList (Text.escape .full c) ++ "'"
  | .unterminatedString quote =>
    "unterminated string literal, missing closing " ++ String.singleton quote
  | .unterminatedComment opening =>
    "unterminated block comment starting with " ++ opening.text

def diagnostic (fault : Fault) (location : Location) : Diagnostic :=
  ⟨.error, ⟨.lexical fault.problem, location, fault.message⟩, []⟩

end Scan.Fault

structure TokenBuffer where
  source : Source
  tokens : List Token
  lines : List String
  deriving DecidableEq, Repr

namespace TokenBuffer

def line? (b : TokenBuffer) (number : Int) : Option String := Text.line? b.lines number

/-- The end of the input may stand on a line that has not begun and has no text. -/
def locationAt (b : TokenBuffer) (position : Position) : Location :=
  ⟨b.source.name, position, (b.line? position.line).getD ""⟩

/-- An index without a token is located at line and column zero. -/
def location (b : TokenBuffer) (index : Nat) : Location :=
  b.locationAt ((b.tokens[index]?).elim ⟨0, 0⟩ Token.position)

end TokenBuffer

structure ResilientScan where
  buffer : TokenBuffer
  diagnostics : List Diagnostic
  deriving DecidableEq, Repr

structure LexicalError where
  diagnostic : Diagnostic
  tokensBefore : List Token
  deriving DecidableEq, Repr

namespace Source

/-- The counters of the cursor are unbounded here. -/
def cursor (source : Source) : Scan.Cursor := .start none source.text.toList

def scan (source : Source) (v : Vocabulary) : ResilientScan :=
  let (found, cursor) := (Scan.Scanning.drain v).result source.cursor (Scan.Scanning.drain_ends v _)
  let buffer : TokenBuffer := ⟨source, found.filterMap Scan.Event.token?, cursor.lines⟩
  ⟨buffer, (found.filterMap Scan.Event.fault?).map fun (position, fault) =>
    fault.diagnostic (buffer.locationAt position)⟩

/-- When the scan stops, the line at fault has not been passed over, so its text is taken from the
source. -/
def scanStrictly (source : Source) (v : Vocabulary) : Except LexicalError TokenBuffer :=
  match (Scan.Scanning.drainToFault v).result source.cursor
      (Scan.Scanning.drainToFault_ends v _) with
  | ((tokens, none), cursor) => .ok ⟨source, tokens, cursor.lines⟩
  | ((tokens, some (position, fault)), _) =>
    let lineText := Text.lineText source.text.toList position.line
    .error ⟨fault.diagnostic ⟨source.name, position, lineText⟩, tokens⟩

end Source

end SourceCheck
