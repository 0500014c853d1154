import SourceCheck.Json.Lexeme

/-!
Reading JSON text. The reader keeps a stack of open arrays and objects and takes one lexeme after
the other; of two fields of one name the later one counts, and nesting is limited.
-/

namespace SourceCheck.Json

/-- An array or object being read. Items stand latest first. -/
inductive Frame where
  | array (items : List Json)
  | object (fields : List (String × Json))
  | field (fields : List (String × Json)) (name : String)

inductive Expectation where
  | value
  | firstItem
  | firstField
  | fieldName
  | colon
  | separator
  deriving DecidableEq

/-- A reader that is inside some frames, innermost first, or has read a whole value. -/
inductive Reader where
  | reading (frames : List Frame) (next : Expectation)
  | finished (value : Json)

namespace Reader

def nestingLimit : Nat := 127

def start : Reader := .reading [] .value

def accept (value : Json) : List Frame → Option Reader
  | [] => some (.finished value)
  | .array items :: outer => some (.reading (.array (value :: items) :: outer) .separator)
  | .field fields name :: outer =>
    some (.reading (.object (put fields name value) :: outer) .separator)
  | .object _ :: _ => none

def enter (frame : Frame) (next : Expectation) (frames : List Frame) : Option Reader :=
  if frames.length < nestingLimit then some (.reading (frame :: frames) next) else none

def beginValue (frames : List Frame) : Lexeme → Option Reader
  | .openArray => enter (.array []) .firstItem frames
  | .openObject => enter (.object []) .firstField frames
  | .scalar value => accept value frames
  | _ => none

def closeInnermost : List Frame → Lexeme → Option Reader
  | .array items :: outer, .closeArray => accept (.array items.reverse) outer
  | .object fields :: outer, .closeObject => accept (.object fields) outer
  | _, _ => none

def step : Reader → Lexeme → Option Reader
  | .finished _, _ => none
  | .reading frames .value, lexeme => beginValue frames lexeme
  | .reading frames .firstItem, .closeArray => closeInnermost frames .closeArray
  | .reading frames .firstItem, lexeme => beginValue frames lexeme
  | .reading frames .firstField, .closeObject => closeInnermost frames .closeObject
  | .reading (.object fields :: outer) .firstField, .scalar (.string name) =>
    some (.reading (.field fields name :: outer) .colon)
  | .reading (.object fields :: outer) .fieldName, .scalar (.string name) =>
    some (.reading (.field fields name :: outer) .colon)
  | .reading frames .colon, .colon => some (.reading frames .value)
  | .reading (.array items :: outer) .separator, .comma =>
    some (.reading (.array items :: outer) .value)
  | .reading (.object fields :: outer) .separator, .comma =>
    some (.reading (.object fields :: outer) .fieldName)
  | .reading frames .separator, lexeme => closeInnermost frames lexeme
  | _, _ => none

end Reader

def ofText? (text : String) : Option Json := do
  match ← (← Lexeme.all? text.toList).foldlM Reader.step .start with
  | .finished value => some value
  | .reading _ _ => none

end SourceCheck.Json
