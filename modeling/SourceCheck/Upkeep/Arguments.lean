import SourceCheck.Upkeep.Job

/-!
The arguments that name a job. They are read one by one, and the first that does not fit decides
what is reported. A request for help stands until the end of the arguments, after which it is
answered instead of running the job.
-/

namespace SourceCheck.Upkeep

inductive ValueFault where
  | empty
  | notDigits
  | tooLarge
  | duplicate
  deriving DecidableEq, Repr

inductive UsageError where
  | noJob
  | unrecognized (argument : String)
  | missingValue (option : String)
  | badValue (option value : String) (fault : ValueFault)
  | afterHelp
  deriving DecidableEq, Repr

inductive HelpTopic where
  | jobs
  | job (kind : JobKind)
  deriving DecidableEq, Repr

inductive Invocation where
  | help (topic : HelpTopic)
  | run (job : Job)
  deriving DecidableEq, Repr

def ValueFault.message : ValueFault → String
  | .empty => "cannot parse integer from empty string"
  | .notDigits => "invalid digit found in string"
  | .tooLarge => "number too large to fit in target type"
  | .duplicate => "duplicate values provided"

def UsageError.message : UsageError → String
  | .noJob =>
    "One of the following subcommands must be present:\n    help\n" ++
      String.join (JobKind.all.map fun kind => "    " ++ kind.name ++ "\n")
  | .unrecognized argument => "Unrecognized argument: " ++ argument ++ "\n"
  | .missingValue option => "No value provided for option '" ++ option ++ "'.\n"
  | .badValue option value fault =>
    "Error parsing option '" ++ option ++ "' with value '" ++ value ++ "': " ++
      fault.message ++ "\n"
  | .afterHelp => "Trailing arguments are not allowed after `help`."

/-! ## Numbers -/

def largestNumber : Nat := Nat.pow 2 32 - 1

/-- Reads on in a number. What comes first decides: a character that is no digit, or the number
growing too large. -/
def readDigits : Nat → List Char → Except ValueFault Nat
  | n, [] => .ok n
  | n, c :: rest =>
    if c.isDigit then
      let grown := 10 * n + (c.toNat - '0'.toNat)
      if largestNumber < grown then .error .tooLarge else readDigits grown rest
    else .error .notDigits

/-- A plus sign may stand in front of a number. -/
def readNumber : List Char → Except ValueFault Nat
  | [] => .error .empty
  | ['+'] => .error .notDigits
  | '+' :: digits => readDigits 0 digits
  | digits => readDigits 0 digits

/-! ## Arguments -/

def asksForHelp (argument : String) : Bool := argument = "--help" || argument = "help"

def isOption (argument : String) : Bool := argument.toList.head? = some '-'

/-- The options of a job with what they do to the choices made so far. -/
structure Form (σ : Type) where
  switch? : String → Option (σ → σ)
  option? : String → Option (String → σ → Except ValueFault σ)
  /-- What a further argument that is no option does, when there is a place for it. -/
  place? : σ → Option (String → σ)

/-- Reads the arguments of a job. Whether help was asked for comes back with the choices. After two
dashes no argument is an option. -/
def Form.read {σ : Type} (form : Form σ) (help ended : Bool) :
    σ → List String → Except UsageError (Bool × σ)
  | choices, [] => .ok (help, choices)
  | choices, argument :: rest =>
    if !ended && asksForHelp argument then form.read true ended choices rest
    else if !ended && isOption argument then
      if argument = "--" then form.read help true choices rest
      else if help then .error .afterHelp
      else
        match form.switch? argument with
        | some choose => form.read help ended (choose choices) rest
        | none =>
          match form.option? argument with
          | none => .error (.unrecognized argument)
          | some choose =>
            match rest with
            | [] => .error (.missingValue argument)
            | value :: others =>
              match choose value choices with
              | .ok chosen => form.read help ended chosen others
              | .error fault => .error (.badValue argument value fault)
    else
      match form.place? choices with
      | some choose => form.read help ended (choose argument) rest
      | none => .error (.unrecognized argument)

def switchForm (name : String) : Form Bool where
  switch? argument := if argument = name then some fun _ => true else none
  option? _ := none
  place? _ := none

structure FuzzChoices where
  target : Option String
  seconds : Option Nat
  deriving DecidableEq, Repr

def chooseSeconds (value : String) (choices : FuzzChoices) : Except ValueFault FuzzChoices :=
  if choices.seconds.isSome then .error .duplicate
  else (readNumber value.toList).map fun seconds => { choices with seconds := some seconds }

def fuzzForm : Form FuzzChoices where
  switch? _ := none
  option? argument := if argument = "--seconds" then some chooseSeconds else none
  place? choices :=
    if choices.target.isSome then none
    else some fun target => { choices with target := some target }

def FuzzChoices.job (choices : FuzzChoices) : Job :=
  .fuzz (choices.target.getD "lex") (choices.seconds.getD 60)

def Form.invocation {σ : Type} (form : Form σ) (kind : JobKind) (help : Bool) (standard : σ)
    (job : σ → Job) (arguments : List String) : Except UsageError Invocation :=
  (form.read help false standard arguments).map fun (help, choices) =>
    if help then .help (.job kind) else .run (job choices)

def JobKind.invocation (kind : JobKind) (help : Bool) (arguments : List String) :
    Except UsageError Invocation :=
  match kind with
  | .coverage => (switchForm "--report").invocation kind help false .coverage arguments
  | .checks => (switchForm "--fix").invocation kind help false .checks arguments
  | .fuzz => fuzzForm.invocation kind help ⟨none, none⟩ FuzzChoices.job arguments

def Invocation.ofArgumentsFrom (help ended : Bool) : List String → Except UsageError Invocation
  | [] => if help then .ok (.help .jobs) else .error .noJob
  | argument :: rest =>
    if !ended && asksForHelp argument then ofArgumentsFrom true ended rest
    else if !ended && isOption argument then
      if argument = "--" then ofArgumentsFrom help true rest
      else if help then .error .afterHelp
      else .error (.unrecognized argument)
    else
      match JobKind.ofName? argument with
      | some kind => kind.invocation help rest
      | none => .error (.unrecognized argument)

def Invocation.ofArguments (arguments : List String) : Except UsageError Invocation :=
  ofArgumentsFrom false false arguments

end SourceCheck.Upkeep
