import SourceCheck.Analysis.Json
import SourceCheck.Cli.Options
import SourceCheck.Diagnostic.Listing
import SourceCheck.Json.Writer
import SourceCheck.Service.Handler
import SourceCheck.Settings.Load

/-!
What the command line does. A run reads at most one settings file and one source, from a file or
from the standard input, and ends with an exit status and two texts.
-/

namespace SourceCheck.Cli

structure Environment where
  file : String → FileEntry
  standardInput : List UInt8

structure Outcome where
  exitCode : Nat
  output : String
  errors : String
  deriving DecidableEq, Repr

namespace Outcome

def failure (message : String) : Outcome := ⟨1, "", "Error: " ++ message ++ ".\n"⟩

def ofSuccess (success : Bool) (output errors : String) : Outcome :=
  ⟨if success then 0 else 1, output, errors⟩

end Outcome

def helpText : String := String.join ([
  "quarry - lexical scanner and structural validator",
  "",
  "    USAGE:",
  "        quarry [--phase PHASE] [--strict] [--json] [--config FILE] [--quiet] FILENAME",
  "        quarry --route ROUTE [--config FILE] [--quiet]",
  "",
  "    OPTIONS:",
  "        --phase PHASE       Which phase to take the input through. PHASE is one of 'lex',",
  "                            'validate', or 'analyze'. Defaults to 'lex'.",
  "        --strict            Stop lexing at the first lexical error. The validate phase always",
  "                            lexes strictly.",
  "        --json              Print tokens and results as JSON instead of text.",
  "        --config FILE       Read the language vocabulary and service settings from a TOML",
  "                            file.",
  "        --quiet             If present, all non-error output is suppressed.",
  "        --route ROUTE       Read a JSON request body from stdin, handle it as a request to",
  "                            ROUTE ('/lex' or '/validate') and print the response body.",
  "",
  "    ARGS:",
  "        FILENAME            The path to the source file to process, or supply '-' to take",
  "                            input from stdin.",
  "",
  "    ENVIRONMENT:",
  "        QUARRY_LOG          Log filter directives, for example 'debug' or 'quarry=trace'."
  ].map (· ++ "\n"))

def jsonLine (value : Json) : String := value.pretty ++ "\n"

def showRows (o : Options) (rows : List Row) : String :=
  if o.quiet then "" else if o.json then jsonLine (Row.jsonArray rows) else Row.table rows

def runLex (source : Source) (v : Vocabulary) (o : Options) : Outcome :=
  if o.strict then
    match source.scanStrictly v with
    | .ok buffer => ⟨0, showRows o (buffer.tokens.map Row.ofToken), ""⟩
    | .error e => ⟨1, showRows o (e.tokensBefore.map Row.ofToken), e.diagnostic.listing⟩
  else
    let scan := source.scan v
    .ofSuccess scan.diagnostics.isEmpty (showRows o (scan.buffer.tokens.map Row.ofToken))
      (Diagnostic.listings scan.diagnostics)

def runValidate (source : Source) (v : Vocabulary) (o : Options) : Outcome :=
  match source.scanStrictly v with
  | .error e => ⟨1, "", e.diagnostic.listing⟩
  | .ok buffer =>
    let verdict := Balance.check v buffer.tokens
    let output :=
      if o.quiet then ""
      else if o.json then jsonLine verdict.json
      else if verdict.ok then "OK\n"
      else ""
    .ofSuccess verdict.ok output (Diagnostic.listings (Balance.diagnostics verdict buffer))

/-- The report of an error is shown even when the run is to be quiet. -/
def runAnalyze (source : Source) (v : Vocabulary) (o : Options) : Outcome :=
  match source.analyze v with
  | .rows rows => ⟨0, if o.quiet then "" else "OK\n" ++ showRows o rows, ""⟩
  | .error e => ⟨1, "ERROR\n" ++ jsonLine e.json, ""⟩

def Phase.run (phase : Phase) (source : Source) (v : Vocabulary) (o : Options) : Outcome :=
  match phase with
  | .lex => runLex source v o
  | .validate => runValidate source v o
  | .analyze => runAnalyze source v o

def headerLines (response : Service.Response) : String :=
  "status: " ++ Text.showNat response.status ++ "\n" ++
    String.join (response.headers.map fun (name, value) => name ++ ": " ++ value ++ "\n")

/-- The body of the answer is shown even when the run is to be quiet. -/
def serve (service : Service) (route body : String) (o : Options) : Outcome :=
  let response := service.handle ⟨route, none, some body⟩
  .ofSuccess (response.status < 400) (jsonLine response.body)
    (if o.quiet then "" else headerLines response)

def readStandardInput (env : Environment) : Except String String :=
  (FileEntry.decodeText env.standardInput).mapError ("unable to read stdin: " ++ ·)

def readSource (env : Environment) (file : String) : Except String Source :=
  if file = "-" then (readStandardInput env).map (⟨"<stdin>", ·⟩)
  else (Source.ofFile file (env.file file)).mapError SourceError.message

def readSettings (env : Environment) (o : Options) : Except SettingsError Settings :=
  match o.config with
  | some file => Settings.ofFile file (env.file file)
  | none => .ok .standard

/-- A run for a route takes no source file. -/
def Options.run (o : Options) (env : Environment) : Except String Outcome := do
  let settings ← (readSettings env o).mapError SettingsError.message
  let v ← settings.vocabulary.mapError SettingsError.message
  match o.route with
  | some route =>
    let body ← readStandardInput env
    return serve ⟨v, settings.service⟩ route body o
  | none =>
    match o.sourceFile with
    | none => throw "missing FILENAME"
    | some file => return o.phase.run (← readSource env file) v o

def run (env : Environment) (arguments : List String) : Outcome :=
  match Invocation.ofArguments arguments with
  | .error e => .failure e.message
  | .ok .help => ⟨0, helpText, ""⟩
  | .ok (.run o) =>
    match o.run env with
    | .ok outcome => outcome
    | .error message => .failure message

end SourceCheck.Cli
