import SourceCheck.Upkeep.Procedure
import SourceCheck.Upkeep.Help

/-!
What the jobs do. A run ends with an exit status, two texts, and the files that it leaves.
-/

namespace SourceCheck.Upkeep

open Procedure

def coverageDirectory : Workspace.Path := ["target", "coverage"]

def collectCoverage (report : Bool) : Procedure Unit := do
  clearDirectory coverageDirectory
  say "** collecting coverage information."
  call (← read).builder ["test", "--package", "quarry", "--tests"]
    [("CARGO_INCREMENTAL", "0"), ("RUSTFLAGS", "-C instrument-coverage"),
      ("LLVM_PROFILE_FILE", "cargo-test-%p-%m.profraw")]
  say "** coallating coverage data."
  let (format, file) := if report then ("html", "html") else ("lcov", "tests.lcov")
  call "grcov"
    [".", "--binary-path", ← pathText ["target", "debug", "deps"], "-s", ".", "-t", format,
      "--branch", "--ignore-not-existing", "--keep-only", "lang/src/*", "--ignore",
      "lang/src/bin/*", "--ignore", "*_unittests.rs", "-o",
      ← pathText (coverageDirectory.join [file])] []
  say "** cleaning up *.profraw files."
  let profiles ← find (← read).directory 0 "**/*.profraw"
  profiles.forM fun profile => edit (·.removeFile profile)
  say ("** done. " ++ if report
    then "Generated coverage report in target/coverage/html/index.html."
    else "Machine-readable coverage report in target/coverage/tests.lcov")

def checkCode (fix : Bool) : Procedure Unit := do
  let builder := (← read).builder
  if fix then
    say "** automatically fixing code formatting with `cargo fmt --all`"
    call builder ["fmt", "--all"] []
    say "** automatically fixing clippy issues with `cargo clippy -- --fix`"
    call builder ["clippy", "--fix"] []
  else
    say "** checking code formatting with `cargo fmt --all -- --check`"
    call builder ["fmt", "--all", "--", "--check"] []
    say "** linting code with `cargo clippy -- --deny all`"
    call builder ["clippy", "--", "--deny", "clippy::all"] []
  say "** building and testing code with `RUSTFLAGS=\"-D warnings\" cargo test`"
  call builder ["test"] [("RUSTFLAGS", "-D warnings")]
  say "** all checks passed!"

def fuzzDirectory : Workspace.Path := ["fuzz"]

/-- The inputs of the crashes that fuzzing has found. The target is part of the pattern, and
wildcards in it count. -/
def findCrashes (target : String) : Procedure (List Workspace.Path) := do
  find [] ((← read).root.length + 1) ("fuzz/artifacts/" ++ target ++ "/crash-*")

def keepCrashes (crashes : List Workspace.Path) (directory : Workspace.Path) : Procedure Unit := do
  makeDirectories directory
  crashes.forM fun crash => copyFile crash (directory.join (crash.getLast?.toList))
  say ("** copied " ++ Text.showNat crashes.length ++ " crash input(s) to " ++
    (← pathText directory))

def fuzzTarget (target : String) (seconds : Nat) : Procedure Unit := do
  let within (directory : Workspace.Path) := directory.join (Workspace.Path.ofText target)
  let corpus := within (fuzzDirectory.join ["corpus"])
  makeDirectories corpus
  say ("** fuzzing `" ++ target ++ "` for " ++ Text.showNat seconds ++
    " seconds with `cargo +nightly fuzz run`")
  callIn fuzzDirectory (← read).builder
    ["+nightly", "fuzz", "run", target, ← pathText corpus, "--",
      "-max_total_time=" ++ Text.showNat seconds] []
  if (← tree).exists? (within (fuzzDirectory.join ["artifacts"])) then
    let crashes ← findCrashes target
    if crashes ≠ [] then keepCrashes crashes (within ["lang", "tests", "fuzz"])
  say "** fuzzing done."

def Job.procedure : Job → Procedure Unit
  | .coverage report => collectCoverage report
  | .checks fix => checkCode fix
  | .fuzz target seconds => fuzzTarget target seconds

structure Outcome where
  exitCode : Nat
  output : String
  errors : String
  tree : Workspace.Tree
  deriving DecidableEq, Repr

def Job.run (job : Job) (surroundings : Surroundings) (tree : Workspace.Tree) : Outcome :=
  match (job.procedure surroundings).run ⟨tree, ""⟩ with
  | (.ok (), progress) => ⟨0, progress.output, "", progress.tree⟩
  | (.error error, progress) =>
    ⟨1, progress.output, "Error: " ++ error.message ++ "\n", progress.tree⟩

def run (surroundings : Surroundings) (tree : Workspace.Tree) (arguments : List String) : Outcome :=
  match Invocation.ofArguments arguments with
  | .error error => ⟨1, "", error.report, tree⟩
  | .ok (.help topic) => ⟨0, topic.text, "", tree⟩
  | .ok (.run job) => job.run surroundings tree

end SourceCheck.Upkeep
