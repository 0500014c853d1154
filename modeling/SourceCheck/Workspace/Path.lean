/-!
Paths below the root of a project. A path is followed name by name: the empty name and a single dot
stay where they are, and two dots go up.
-/

namespace SourceCheck.Workspace

abbrev Path := List String

def splitSlashes : List Char → List (List Char)
  | [] => [[]]
  | c :: rest =>
    if c = '/' then [] :: splitSlashes rest
    else
      match splitSlashes rest with
      | [] => [[c]]
      | part :: others => (c :: part) :: others

namespace Path

def ofText (text : String) : Path := (splitSlashes text.toList).map String.ofList

/-- Goes on from a path. One that ends with a slash needs no other. -/
def join (base path : Path) : Path :=
  if base.getLast? = some "" then base.dropLast ++ path else base ++ path

def text (root : String) (path : Path) : String := String.intercalate "/" (root :: path)

/-- The names without those that stay where they are. -/
def names (path : Path) : Path := path.filter fun name => name ≠ "" ∧ name ≠ "."

def outer (path : Path) : List Path :=
  (List.range (path.names.length - 1)).map fun n => path.names.take (n + 1)

end Path

end SourceCheck.Workspace
