import SourceCheck.Settings.Datum

/-!
The tables of a TOML document while it is read. How a table came to be decides what may still be
added to it: a table is defined once, a dotted key adds only to tables that dotted keys made, and an
inline table is closed.
-/

namespace SourceCheck.Toml

inductive Origin where
  /-- The table has a header, or is the document itself. -/
  | header
  /-- Headers of its subtables name the table. -/
  | implied
  | dotted
  | inline
  deriving DecidableEq, Repr

inductive Node where
  | text (value : String)
  | boolean (value : Bool)
  | number
  | list (items : List Node)
  | table (origin : Origin) (fields : List (String × Node))
  /-- An array of tables that headers add to. -/
  | tables (latest : List (String × Node)) (earlier : List (List (String × Node)))

abbrev Fields := List (String × Node)

namespace Fields

def update (name : String) (f : Option Node → Option Node) : Fields → Option Fields
  | [] => (f none).map fun node => [(name, node)]
  | (other, node) :: rest =>
    if other = name then (f (some node)).map fun changed => (name, changed) :: rest
    else (update name f rest).map ((other, node) :: ·)

/-- Changes the table at the end of a path of names, making the tables that are missing. A header
reaches the latest table of an array, and so does a dotted key. -/
def alter (dotted : Bool) (f : Origin → Fields → Option Fields) :
    List String → Origin → Fields → Option Fields
  | [], origin, fields => f origin fields
  | name :: path, _, fields => update name (fun
      | none =>
        let origin := if dotted then .dotted else .implied
        (alter dotted f path origin []).map (.table origin)
      | some (.table origin inner) =>
        if origin = .inline ∨ (dotted ∧ origin = .header) then none
        else (alter dotted f path origin inner).map (.table origin)
      | some (.tables latest earlier) =>
        (alter dotted f path .header latest).map fun changed => .tables changed earlier
      | some _ => none) fields

def addNew (name : String) (value : Node) (fields : Fields) : Option Fields :=
  fields.update name fun
    | none => some value
    | some _ => none

/-- Adds the value of a key, whose names before the last lead to dotted tables. -/
def assign (origin : Origin) (path : List String) (name : String) (value : Node)
    (fields : Fields) : Option Fields :=
  alter true (fun target fields =>
    if path ≠ [] ∧ target ≠ .dotted then none else fields.addNew name value) path origin fields

def openTable (path : List String) (name : String) (fields : Fields) : Option Fields :=
  alter false (fun _ fields => fields.update name fun
    | none => some (.table .header [])
    | some (.table .implied inner) => some (.table .header inner)
    | some _ => none) path .header fields

def openArrayTable (path : List String) (name : String) (fields : Fields) : Option Fields :=
  alter false (fun _ fields => fields.update name fun
    | none => some (.tables [] [])
    | some (.tables latest earlier) => some (.tables [] (latest :: earlier))
    | some _ => none) path .header fields

end Fields

namespace Node

mutual

def datum : Node → Datum
  | .text value => .text value
  | .boolean value => .boolean value
  | .number => .number
  | .list items => .list (data items)
  | .table _ fields => .table (fieldData fields)
  | .tables latest earlier => .list (tableData earlier [.table (fieldData latest)])

def data : List Node → List Datum
  | [] => []
  | item :: rest => item.datum :: data rest

def fieldData : List (String × Node) → List (String × Datum)
  | [] => []
  | (name, node) :: rest => (name, node.datum) :: fieldData rest

def tableData : List (List (String × Node)) → List Datum → List Datum
  | [], after => after
  | latest :: earlier, after => tableData earlier (.table (fieldData latest) :: after)

end

end Node

end SourceCheck.Toml
