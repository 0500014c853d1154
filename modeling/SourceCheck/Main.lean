import SourceCheck.Cli.Run

/-!
The command line program. It reads the files that its arguments ask for, and prints what the run
says.
-/

namespace SourceCheck.Cli

def describeError : IO.Error → FileEntry
  | .inappropriateType _ 21 _ => .directory
  | .inappropriateType _ code details
  | .permissionDenied _ code details
  | .invalidArgument _ code details
  | .noFileOrDirectory _ code details =>
    .unavailable (details ++ " (os error " ++ Text.showNat code.toNat ++ ")")
  | e => .unavailable (toString e)

def readEntry (file : String) : IO FileEntry := do
  try
    return .content (← (← IO.FS.Handle.mk file .read).readBinToEnd).toList
  catch e =>
    return describeError e

def readEnvironment (arguments : List String) : IO Environment := do
  match Invocation.ofArguments arguments with
  | .ok (.run o) =>
    let entries ← o.files.mapM fun file => return (file, ← readEntry file)
    let input ←
      if o.takesStandardInput then (← IO.getStdin).readBinToEnd else pure .empty
    return ⟨fun file => (entries.lookup file).getD .absent, input.toList⟩
  | _ => return ⟨fun _ => .absent, []⟩

end SourceCheck.Cli

def main (arguments : List String) : IO UInt32 := do
  let outcome := SourceCheck.Cli.run (← SourceCheck.Cli.readEnvironment arguments) arguments
  (← IO.getStdout).putStr outcome.output
  (← IO.getStderr).putStr outcome.errors
  return outcome.exitCode.toUInt32
