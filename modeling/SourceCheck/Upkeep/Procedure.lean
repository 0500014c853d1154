import SourceCheck.Upkeep.Tool
import SourceCheck.Workspace.Pattern

/-!
What a job is made of: lines of output, calls of tools, and changes of the files of the project. The
first step that fails ends the job, and what was done before it stays done.
-/

namespace SourceCheck.Upkeep

inductive JobError where
  | files (fault : Workspace.Fault)
  | notFile (path : String)
  | toolMissing
  | toolFailed (call : Call) (status : Nat)
  | pattern (error : Workspace.PatternError)
  deriving DecidableEq, Repr

/-! ## Messages -/

def record (name : String) (fields : List (String × String)) : String :=
  name ++ " \x7b " ++
    String.intercalate ", " (fields.map fun (field, value) => field ++ ": " ++ value) ++ " \x7d"

def faultRecord : Workspace.Fault → String
  | .notFound => osError 2 "NotFound" "No such file or directory"
  | .alreadyExists => osError 17 "AlreadyExists" "File exists"
  | .notDirectory => osError 20 "NotADirectory" "Not a directory"
  | .isDirectory => osError 21 "IsADirectory" "Is a directory"
where
  osError (code : Nat) (kind message : String) : String :=
    record "Os" [("code", Text.showNat code), ("kind", kind), ("message", Text.quoted message)]

def fileErrorRecord (kind message : String) : String :=
  record "Error" [("kind", kind), ("message", Text.quoted message)]

def JobError.message : JobError → String
  | .files fault =>
    fileErrorRecord ("Io(" ++ faultRecord fault ++ ")")
      "Io error. Look inside err_kind for more details."
  | .notFile path => fileErrorRecord "InvalidFile" ("Path \"" ++ path ++ "\" is not a file!")
  | .toolMissing => faultRecord .notFound
  | .toolFailed call status =>
    record "Custom" [("kind", "Other"),
      ("error", Text.quoted
        ("command " ++ call.display ++ " exited with code " ++ Text.showNat status))]
  | .pattern error =>
    record "PatternError" [("pos", Text.showNat error.position),
      ("msg", Text.quoted error.fault.message)]

/-! ## Steps -/

structure Surroundings where
  /-- How the root of the project is called. -/
  root : String
  /-- The directory in which the job was started. -/
  directory : Workspace.Path
  /-- The program that builds and tests the project. -/
  builder : String
  tools : Toolbox
  deriving DecidableEq, Repr

structure Progress where
  tree : Workspace.Tree
  output : String
  deriving DecidableEq, Repr

abbrev Procedure := ReaderT Surroundings (ExceptT JobError (StateM Progress))

namespace Procedure

def write (text : String) : Procedure Unit :=
  modify fun progress => { progress with output := progress.output ++ text }

def say (line : String) : Procedure Unit := write (line ++ "\n")

def tree : Procedure Workspace.Tree := return (← get).tree

def pathText (path : Workspace.Path) : Procedure String := return path.text (← read).root

def edit (change : Workspace.Tree → Except Workspace.Fault Workspace.Tree) : Procedure Unit := do
  match change (← tree) with
  | .ok changed => modify fun progress => { progress with tree := changed }
  | .error fault => throw (.files fault)

def makeDirectories (path : Workspace.Path) : Procedure Unit := do
  match (← tree).makeDirectory path with
  | .error .notFound => (path.outer ++ [path]).forM fun p => edit (·.ensureDirectory p)
  | _ => edit (·.ensureDirectory path)

/-- Leaves an empty directory, whatever was there before. -/
def clearDirectory (path : Workspace.Path) : Procedure Unit := do
  if (← tree).exists? path then edit (·.removeDirectory path)
  makeDirectories path

def copyFile (path target : Workspace.Path) : Procedure Unit := do
  match (← tree).find? path with
  | some (.file content) => edit (·.writeFile target content)
  | _ => throw (.notFile (← pathText path))

def find (base : Workspace.Path) (position : Nat) (pattern : String) :
    Procedure (List Workspace.Path) := do
  match Workspace.Pattern.ofText position pattern with
  | .ok pattern => return pattern.findFrom (← tree) base
  | .error error => throw (.pattern error)

def callIn (directory : Workspace.Path) (program : String) (arguments : List String)
    (environment : List (String × String)) : Procedure Unit := do
  let call : Call := ⟨program, arguments, ← pathText directory, environment⟩
  match (← read).tools.status? call with
  | none => throw .toolMissing
  | some status =>
    write call.report
    if status ≠ 0 then throw (.toolFailed call status)

def call (program : String) (arguments : List String) (environment : List (String × String)) :
    Procedure Unit := do
  callIn (← read).directory program arguments environment

end Procedure

end SourceCheck.Upkeep
