import SourceCheck.Text.Decimal
import SourceCheck.Text.Escape

/-!
The tools that jobs call. In a rehearsal a tool does no more than report how it was called, and then
succeeds or, when it is told to, fails.
-/

namespace SourceCheck.Upkeep

structure Call where
  program : String
  arguments : List String
  directory : String
  environment : List (String × String)
  deriving DecidableEq, Repr

namespace Call

def words (call : Call) : List String := call.program :: call.arguments

def report (call : Call) : String :=
  String.intercalate " " (("> " ++ call.program) :: call.arguments.map fun a => "[" ++ a ++ "]") ++
    "\n  in " ++ call.directory ++ "\n" ++
    String.join (call.environment.map fun (name, value) => "  " ++ name ++ "=" ++ value ++ "\n")

/-- Calls are told apart by the program and its first argument. -/
def name (call : Call) : String := call.program ++ " " ++ call.arguments.headD ""

def display (call : Call) : String := Text.quotedList call.words

end Call

structure Toolbox where
  installed : List String
  /-- The names of the calls that fail. -/
  failing : List String
  deriving DecidableEq, Repr

def Toolbox.status? (tools : Toolbox) (call : Call) : Option Nat :=
  if call.program ∈ tools.installed then some (if call.name ∈ tools.failing then 3 else 0) else none

end SourceCheck.Upkeep
