import SourceCheck.Workspace.Path

/-!
The files of a project. Entries stand in the order of their paths, a directory in front of what it
holds. The root itself is always a directory and has no entry.
-/

namespace SourceCheck.Workspace

inductive Entry where
  | directory
  | file (content : List UInt8)
  deriving DecidableEq, Repr

inductive Fault where
  | notFound
  | alreadyExists
  | notDirectory
  | isDirectory
  deriving DecidableEq, Repr

structure Tree where
  entries : List (Path × Entry)
  deriving DecidableEq, Repr

namespace Tree

def empty : Tree := ⟨[]⟩

/-! Operations on paths that hold nothing but the names of entries. -/

def entryAt? (t : Tree) (place : Path) : Option Entry :=
  if place = [] then some .directory else t.entries.lookup place

def insertOrdered (place : Path) (entry : Entry) : List (Path × Entry) → List (Path × Entry)
  | [] => [(place, entry)]
  | (other, found) :: rest =>
    if place = other then (place, entry) :: rest
    else if place < other then (place, entry) :: (other, found) :: rest
    else (other, found) :: insertOrdered place entry rest

def insert (t : Tree) (place : Path) (entry : Entry) : Tree :=
  ⟨insertOrdered place entry t.entries⟩

/-- Adds an entry and the directories on the way to it that are missing. -/
def add (t : Tree) (place : Path) (entry : Entry) : Tree :=
  let addMissing (t : Tree) (place : Path) : Tree :=
    if t.entryAt? place = none then t.insert place .directory else t
  (place.outer.foldl addMissing t).insert place entry

def erase (t : Tree) (place : Path) : Tree :=
  ⟨t.entries.filter fun (other, _) => !place.isPrefixOf other⟩

def below (t : Tree) (place : Path) : List Path :=
  (t.entries.map fun (other, _) => other).filterMap fun other =>
    if place.isPrefixOf other ∧ place ≠ other then some (other.drop place.length) else none

def children (t : Tree) (place : Path) : List String :=
  (t.below place).filterMap fun
    | [name] => some name
    | _ => none

/-! Operations on paths of any kind. -/

def follow (t : Tree) (place : Path) : Path → Except Fault Path
  | [] => .ok place
  | name :: rest =>
    if t.entryAt? place ≠ some .directory then .error .notDirectory
    else if name = "" ∨ name = "." then t.follow place rest
    else if name = ".." then t.follow place.dropLast rest
    else if t.entryAt? (place ++ [name]) = none then .error .notFound
    else t.follow (place ++ [name]) rest

def find? (t : Tree) (path : Path) : Option Entry :=
  match t.follow [] path with
  | .ok place => t.entryAt? place
  | .error _ => none

def exists? (t : Tree) (path : Path) : Bool := (t.find? path).isSome

def directory? (t : Tree) (path : Path) : Option Path :=
  match t.follow [] path with
  | .ok place => if t.entryAt? place = some .directory then some place else none
  | .error _ => none

def isDirectory (t : Tree) (path : Path) : Bool := (t.directory? path).isSome

/-- The directory that a new entry goes into, and its name. -/
def parent (t : Tree) (path : Path) : Except Fault (Path × String) :=
  match path.reverse.dropWhile (· = "") with
  | [] => .error .alreadyExists
  | name :: outer => do
    let place ← t.follow [] outer.reverse
    if t.entryAt? place = some .directory then .ok (place, name) else .error .notDirectory

def makeDirectory (t : Tree) (path : Path) : Except Fault Tree := do
  let (place, name) ← t.parent path
  if name = "." ∨ name = ".." ∨ t.entryAt? (place ++ [name]) ≠ none then .error .alreadyExists
  else .ok (t.insert (place ++ [name]) .directory)

/-- Leaves a directory that is there as it is. -/
def ensureDirectory (t : Tree) (path : Path) : Except Fault Tree :=
  match t.makeDirectory path with
  | .ok made => .ok made
  | .error fault => if t.isDirectory path then .ok t else .error fault

def writeFile (t : Tree) (path : Path) (content : List UInt8) : Except Fault Tree := do
  let (place, name) ← t.parent path
  if t.entryAt? (place ++ [name]) = some .directory then .error .isDirectory
  else .ok (t.insert (place ++ [name]) (.file content))

def removeFile (t : Tree) (path : Path) : Except Fault Tree := do
  let place ← t.follow [] path
  if t.entryAt? place = some .directory then .error .isDirectory else .ok (t.erase place)

def removeDirectory (t : Tree) (path : Path) : Except Fault Tree := do
  let place ← t.follow [] path
  if t.entryAt? place = some .directory then .ok (t.erase place) else .error .notDirectory

end Tree

end SourceCheck.Workspace
