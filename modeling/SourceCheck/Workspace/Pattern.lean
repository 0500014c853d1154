import SourceCheck.Workspace.Tree
import SourceCheck.Workspace.Wildcard

/-!
Patterns of paths, and the paths in a tree that they describe. What a pattern finds is ordered by
names, a directory in front of what it holds.
-/

namespace SourceCheck.Workspace

inductive Step where
  | name (name : String)
  | wildcards (wildcards : List Wildcard)
  | anyDepth
  deriving DecidableEq, Repr

abbrev Pattern := List Step

namespace Step

def ofWildcards (name : List Char) (wildcards : List Wildcard) : Step :=
  if wildcards.contains .anyDepth then .anyDepth
  else if wildcards.all fun w => w matches .char _ then .name (String.ofList name)
  else .wildcards wildcards

def ofName (name : List Char) : Except PatternError Step :=
  (Wildcard.read 0 .nameStart name).map (ofWildcards name)

def describes : Step → String → Bool
  | .name own, text => own = text
  | .wildcards ws, text => Wildcard.describes ws text.toList
  | .anyDepth, _ => true

/-- The directory itself and its parent are found only where the pattern begins with a dot. -/
def dots : Step → List String
  | step@(.wildcards (.char '.' :: _)) => ["..", "."].filter step.describes
  | _ => []

end Step

namespace Pattern

/-- Any number of directories twice is any number of directories. -/
def ofSteps : List Step → Pattern
  | .anyDepth :: rest =>
    match ofSteps rest with
    | .anyDepth :: others => .anyDepth :: others
    | others => .anyDepth :: others
  | step :: rest => step :: ofSteps rest
  | [] => []

/-- Reads a pattern in front of which `position` characters have been read already. -/
def ofText (position : Nat) (text : String) : Except PatternError Pattern := do
  let _ ← Wildcard.read position .nameStart text.toList
  return ofSteps (← (splitSlashes text.toList).mapM Step.ofName)

def findFrom (t : Tree) : Pattern → Path → List Path
  | [], base => [base]
  | .name name :: rest, base =>
    let next := base.join [name]
    if t.exists? next then findFrom t rest next else []
  | .wildcards wildcards :: rest, base =>
    let step := Step.wildcards wildcards
    match t.directory? base with
    | none => []
    | some place =>
      (step.dots ++ (t.children place).filter step.describes).flatMap fun name =>
        findFrom t rest (base.join [name])
  | [.anyDepth], base =>
    match t.directory? base with
    | none => []
    | some place => ((t.below place).map base.join).filter t.isDirectory
  | .anyDepth :: step :: rest, base =>
    match t.directory? base with
    | none => []
    | some place =>
      ((t.below place).filter fun path => path.getLast?.any step.describes).flatMap fun path =>
        findFrom t rest (base.join path)

end Pattern

end SourceCheck.Workspace
