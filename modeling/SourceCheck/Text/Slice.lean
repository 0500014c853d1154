import SourceCheck.Text.LineTable

/-!
Slices of a text, measured in the bytes of its UTF-8 form. A length must not fall below zero, and a
text divides only between two of its characters.
-/

namespace SourceCheck.Text

def byteLength : List Char → Nat
  | [] => 0
  | c :: text => c.utf8Size + byteLength text

inductive SliceFailure where
  | belowZero
  | outside
  | insideCharacter
  deriving DecidableEq, Repr

def lengthBut (length : Nat) (text : List Char) : Except SliceFailure Nat :=
  if length ≤ byteLength text then .ok (byteLength text - length) else .error .belowZero

def splitAt : Nat → List Char → Except SliceFailure (List Char × List Char)
  | 0, text => .ok ([], text)
  | _ + 1, [] => .error .outside
  | bytes + 1, c :: text =>
    if bytes + 1 < c.utf8Size then .error .insideCharacter
    else (splitAt (bytes + 1 - c.utf8Size) text).map fun (first, later) => (c :: first, later)

/-- Divides the text where its last part is as long as `rest`. -/
def splitBefore (text rest : List Char) : Except SliceFailure (List Char × List Char) := do
  splitAt (← lengthBut (byteLength rest) text) text

def withoutNewline (line : List Char) : List Char :=
  if line.getLast? = some '\n' then line.dropLast else line

/-- The line without its newline and without one carriage return before it. -/
def trimmedLine (line : List Char) : String := String.ofList (withoutReturn (withoutNewline line))

end SourceCheck.Text
