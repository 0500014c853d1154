/-!
The jobs that keep a project in order: collecting test coverage, checking the code, and fuzzing.
-/

namespace SourceCheck.Upkeep

inductive JobKind where
  | coverage
  | checks
  | fuzz
  deriving DecidableEq, Repr

inductive Job where
  | coverage (report : Bool)
  | checks (fix : Bool)
  | fuzz (target : String) (seconds : Nat)
  deriving DecidableEq, Repr

def JobKind.name : JobKind → String
  | .coverage => "cov"
  | .checks => "ci"
  | .fuzz => "fuzz"

def JobKind.all : List JobKind := [.coverage, .checks, .fuzz]

def JobKind.ofName? (name : String) : Option JobKind :=
  JobKind.all.find? fun kind => kind.name = name

end SourceCheck.Upkeep
