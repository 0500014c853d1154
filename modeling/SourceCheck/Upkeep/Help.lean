import SourceCheck.Upkeep.Arguments

/-!
The help that the jobs give.
-/

namespace SourceCheck.Upkeep

def HelpTopic.lines : HelpTopic → List String
  | .jobs => [
    "Usage: xtask <command> [<args>]",
    "",
    "Top-level command.",
    "",
    "Options:",
    "  --help, help      display usage information",
    "",
    "Commands:",
    "  cov               Collect test coverage data.",
    "  ci                Run the continuous integration validation tests.",
    "  fuzz              Fuzz the lexer or validator with cargo-fuzz (requires a",
    "                    nightly toolchain).",
    ""]
  | .job .coverage => [
    "Usage: xtask cov [--report]",
    "",
    "Collect test coverage data.",
    "",
    "Options:",
    "  --report          produce an html report instead of the default .lcov file.",
    "  --help, help      display usage information",
    ""]
  | .job .checks => [
    "Usage: xtask ci [--fix]",
    "",
    "Run the continuous integration validation tests.",
    "",
    "Options:",
    "  --fix             attempt to automatically fix format and clippy errors.",
    "  --help, help      display usage information",
    ""]
  | .job .fuzz => [
    "Usage: xtask fuzz [--seconds <seconds>] [--] [<target>]",
    "",
    "Fuzz the lexer or validator with cargo-fuzz (requires a nightly toolchain).",
    "",
    "Positional Arguments:",
    "  target            fuzz target to run, one of `lex` or `validate`.",
    "",
    "Options:",
    "  --seconds         stop fuzzing after this many seconds.",
    "  --help, help      display usage information",
    ""]

def HelpTopic.text (topic : HelpTopic) : String := String.join (topic.lines.map (· ++ "\n"))

/-- Every complaint about the arguments ends with where to find help. -/
def UsageError.report (error : UsageError) : String :=
  error.message ++ "\nRun xtask --help for more information.\n"

end SourceCheck.Upkeep
