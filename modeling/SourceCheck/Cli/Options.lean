import SourceCheck.Text.Escape

/-!
The options of the command line. Each option is taken out of the arguments in turn, once; the first
argument that is left names the source file, and no other may be left.
-/

namespace SourceCheck.Cli

inductive Phase where
  | lex
  | validate
  | analyze
  deriving DecidableEq, Repr

structure Options where
  phase : Phase
  strict : Bool
  json : Bool
  quiet : Bool
  config : Option String
  route : Option String
  sourceFile : Option String
  deriving DecidableEq, Repr

def Options.files (o : Options) : List String :=
  let source := if o.route.isSome then none else o.sourceFile
  o.config.toList ++ source.toList.filter (· ≠ "-")

def Options.takesStandardInput (o : Options) : Bool :=
  o.route.isSome || o.sourceFile = some "-"

inductive UsageError where
  | missingValue (option : String)
  | unknownPhase (value : String)
  | unusedArguments (arguments : List String)
  deriving DecidableEq, Repr

def UsageError.message : UsageError → String
  | .missingValue option => "the '" ++ option ++ "' option doesn't have an associated value"
  | .unknownPhase value => "failed to parse '" ++ value ++ "': unrecognized phase."
  | .unusedArguments arguments => "unused arguments left: " ++ Text.quotedList arguments

inductive Invocation where
  | help
  | run (options : Options)
  deriving DecidableEq, Repr

/-- Whether the flag is among the arguments, and the arguments without it. -/
def takeFlag (flag : String) (arguments : List String) : Bool × List String :=
  (arguments.contains flag, arguments.erase flag)

/-- The argument behind the first one that names the option, and the arguments without the two. -/
def takeValue (option : String) :
    List String → Except UsageError (Option String × List String)
  | [] => .ok (none, [])
  | argument :: rest =>
    if argument = option then
      match rest with
      | [] => .error (.missingValue option)
      | value :: others => .ok (some value, others)
    else (takeValue option rest).map fun (value, others) => (value, argument :: others)

def Phase.ofName (name : String) : Except UsageError Phase :=
  if name = "lex" then .ok .lex
  else if name = "validate" then .ok .validate
  else if name = "analyze" then .ok .analyze
  else .error (.unknownPhase name)

def Options.ofArguments (arguments : List String) : Except UsageError Options := do
  let (phaseName, arguments) ← takeValue "--phase" arguments
  let phase ← Phase.ofName (phaseName.getD "lex")
  let (strict, arguments) := takeFlag "--strict" arguments
  let (json, arguments) := takeFlag "--json" arguments
  let (quiet, arguments) := takeFlag "--quiet" arguments
  let (config, arguments) ← takeValue "--config" arguments
  let (route, arguments) ← takeValue "--route" arguments
  match arguments with
  | _ :: unused@(_ :: _) => throw (.unusedArguments unused)
  | _ => return { phase, strict, json, quiet, config, route, sourceFile := arguments.head? }

/-- Help is given whatever else is asked. -/
def Invocation.ofArguments (arguments : List String) : Except UsageError Invocation :=
  if "-h" ∈ arguments ∨ "--help" ∈ arguments then .ok .help
  else (Options.ofArguments arguments).map .run

end SourceCheck.Cli
