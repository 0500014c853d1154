import SourceCheck.Text.Slice

/-!
The tables that scanning and balance checking run against. A marker is never empty, so whatever
matches one moves the scan forward.
-/

namespace SourceCheck

structure Marker where
  first : Char
  rest : List Char
  deriving DecidableEq, Repr

namespace Marker

def chars (m : Marker) : List Char := m.first :: m.rest

def text (m : Marker) : String := String.ofList m.chars

def begins (m : Marker) (input : List Char) : Bool := m.chars.isPrefixOf input

def longer (m n : Marker) : Marker := if m.rest.length < n.rest.length then n else m

/-- The order in which operators are tried: of more bytes before fewer, and else as texts are
ordered. -/
def precedes (m n : Marker) : Bool :=
  decide (Text.byteLength n.chars < Text.byteLength m.chars) ||
    (Text.byteLength n.chars == Text.byteLength m.chars && decide (m.text ≤ n.text))

def table (operators : List Marker) : List Marker := (operators.mergeSort precedes).eraseReps

/-- The number of characters up to the end of the first occurrence of the marker. -/
def end? (m : Marker) : List Char → Option Nat
  | [] => none
  | c :: input =>
    if m.begins (c :: input) then some (m.rest.length + 1) else (m.end? input).map (· + 1)

end Marker

structure DelimiterPair where
  opening : Char
  closing : Char
  deriving DecidableEq, Repr

structure BlockComment where
  opening : Marker
  closing : Marker
  deriving DecidableEq, Repr

structure Vocabulary where
  keywords : List String
  trueWord : String
  falseWord : String
  operators : List Marker
  delimiters : List Char
  pairs : List DelimiterPair
  lineComments : List Marker
  blockComment : Option BlockComment
  quotes : List Char
  multilineStrings : Bool
  /-- Longer operators first, so that the first match is the longest. -/
  operatorTable : List Marker := Marker.table operators
  operatorTable_eq : operatorTable = Marker.table operators := by rfl
  deriving DecidableEq, Repr

namespace Vocabulary

def isKeyword (v : Vocabulary) (word : String) : Bool := v.keywords.contains word

def booleanValue? (v : Vocabulary) (word : String) : Option Bool :=
  if word = v.trueWord then some true
  else if word = v.falseWord then some false
  else none

def operator? (v : Vocabulary) (input : List Char) : Option Marker :=
  v.operators.foldr (fun m best =>
    if m.begins input then some (best.elim m m.longer) else best) none

def firstOperator? (v : Vocabulary) (input : List Char) : Option Marker :=
  v.operatorTable.find? fun m => m.begins input

def lineComment? (v : Vocabulary) (input : List Char) : Option Marker :=
  v.lineComments.find? fun m => m.begins input

def isDelimiter (v : Vocabulary) (c : Char) : Bool := v.delimiters.contains c

def isQuote (v : Vocabulary) (c : Char) : Bool := v.quotes.contains c

def openingPair? (v : Vocabulary) (c : Char) : Option DelimiterPair :=
  v.pairs.find? fun pair => pair.opening == c

def closingPair? (v : Vocabulary) (c : Char) : Option DelimiterPair :=
  v.pairs.find? fun pair => pair.closing == c

end Vocabulary

end SourceCheck
