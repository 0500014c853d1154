/-!
The lines of a source, each without its newline and without one carriage return before it.

A complete scan collects them while it passes over the characters. Where a scan stops early, the
text of one line is looked up in the source itself.
-/

namespace SourceCheck.Text

/-- Lines read so far and the characters of the line being read, both latest first. -/
structure LineReader where
  finished : List String
  current : List Char
  deriving DecidableEq, Repr

namespace LineReader

def empty : LineReader := ⟨[], []⟩

def currentLine (r : LineReader) : String :=
  match r.current with
  | '\r' :: before => String.ofList before.reverse
  | line => String.ofList line.reverse

def push (r : LineReader) (c : Char) : LineReader :=
  if c = '\n' then ⟨r.currentLine :: r.finished, []⟩ else ⟨r.finished, c :: r.current⟩

/-- The line being read counts when it has begun. -/
def lines (r : LineReader) : List String :=
  match r.current with
  | [] => r.finished.reverse
  | _ :: _ => (r.currentLine :: r.finished).reverse

end LineReader

def lineTable (text : List Char) : List String := (text.foldl LineReader.push .empty).lines

/-- Line `number` of a table, counted from one. -/
def line? (table : List String) (number : Int) : Option String :=
  if 1 ≤ number then table[(number - 1).toNat]? else none

def withoutReturn (line : List Char) : List Char :=
  if line.getLast? = some '\r' then line.dropLast else line

/-- The line after `skipped` newlines, empty when there are not so many. -/
def lineAfter : Nat → List Char → List Char
  | 0, text => withoutReturn (text.takeWhile (· ≠ '\n'))
  | skipped + 1, text => lineAfter skipped ((text.dropWhile (· ≠ '\n')).drop 1)

/-- Line `number` of the text, counted from one, empty when there is none. -/
def lineText (text : List Char) (number : Int) : String :=
  if 1 ≤ number then String.ofList (lineAfter (number - 1).toNat text) else ""

end SourceCheck.Text
