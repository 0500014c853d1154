/-!
JSON values. An object keeps the order of its fields and has no two fields of one name.
-/

namespace SourceCheck

structure Decimal where
  coefficient : Int
  exponent : Int
  deriving DecidableEq, Repr

inductive Json where
  | null
  | boolean (value : Bool)
  | number (value : Decimal)
  | string (text : String)
  | array (items : List Json)
  | object (fields : List (String × Json))
  deriving Repr

namespace Json

def int (n : Int) : Json := .number ⟨n, 0⟩

def strings (texts : List String) : Json := .array (texts.map .string)

def optionalInt : Option Int → Json
  | some n => .int n
  | none => .null

/-- A field of that name takes the new value and moves to the end. -/
def put (fields : List (String × Json)) (name : String) (value : Json) : List (String × Json) :=
  fields.filter (·.1 != name) ++ [(name, value)]

def insertSorted (field : String × Json) : List (String × Json) → List (String × Json)
  | [] => [field]
  | head :: rest =>
    if field.1 < head.1 then field :: head :: rest else head :: insertSorted field rest

mutual

def sorted : Json → Json
  | .array items => .array (sortedItems items)
  | .object fields => .object (sortedFields fields)
  | value => value

def sortedItems : List Json → List Json
  | [] => []
  | item :: rest => sorted item :: sortedItems rest

def sortedFields : List (String × Json) → List (String × Json)
  | [] => []
  | (name, value) :: rest => insertSorted (name, sorted value) (sortedFields rest)

end

end Json

end SourceCheck
