import SourceCheck.Toml.Number
import SourceCheck.Toml.Text
import SourceCheck.Toml.Tree

/-!
Reading a TOML document. Readers give what they read and the input behind it, or nothing when the
input is not well formed. Each step of a reader takes one unit of fuel, and there is more fuel than
input.
-/

namespace SourceCheck.Toml

def skipSpaces (input : List Char) : List Char := input.dropWhile isSpace

def skipComment : List Char → List Char
  | '#' :: rest => rest.dropWhile isVisible
  | input => input

def lineEnd? (input : List Char) : Option (List Char) :=
  let rest := skipComment (skipSpaces input)
  if rest.isEmpty then some []
  else if newlineLength rest = 0 then none
  else some (rest.drop (newlineLength rest))

def skipBlank (inComment : Bool) : List Char → List Char
  | '\r' :: '\n' :: rest => skipBlank false rest
  | c :: rest =>
    if inComment && isVisible c || c == '#' then skipBlank true rest
    else if isSpace c || c == '\n' then skipBlank false rest
    else c :: rest
  | [] => []

def isBareKeyCharacter (c : Char) : Bool := c.isAlphanum || c == '_' || c == '-'

def simpleKey? (input : List Char) : Option (String × List Char) :=
  match shortString? input with
  | some (text, length) => some (String.ofList text, input.drop length)
  | none =>
    let bare := input.takeWhile isBareKeyCharacter
    if bare.isEmpty then none else some (String.ofList bare, input.drop bare.length)

/-- A key has fewer than eighty names. -/
def keyLimit : Nat := 79

def key? : Nat → List Char → Option (List String × List Char)
  | 0, _ => none
  | names + 1, input => do
    let (name, rest) ← simpleKey? (skipSpaces input)
    match skipSpaces rest with
    | '.' :: rest => (key? names rest).map fun (path, rest) => (name :: path, rest)
    | rest => some ([name], rest)

def splitLast : List String → Option (List String × String)
  | [] => none
  | [name] => some ([], name)
  | name :: path => (splitLast path).map fun (before, last) => (name :: before, last)

def nestingLimit : Nat := 79

def plainValue? (input : List Char) : Option (Node × List Char) :=
  match string? input with
  | some (text, length) => some (.text (String.ofList text), input.drop length)
  | none =>
    let run := numberRun input
    let rest := input.drop run.length
    if run = "true".toList then some (.boolean true, rest)
    else if run = "false".toList then some (.boolean false, rest)
    else if isNumberOrMoment run then some (.number, rest)
    else none

mutual

/-- A value, at most `depth` arrays and inline tables deep. -/
def value? (fuel depth : Nat) (input : List Char) : Option (Node × List Char) :=
  match fuel with
  | 0 => none
  | fuel + 1 =>
    match depth, input with
    | 0, '[' :: _ => none
    | 0, '\x7b' :: _ => none
    | depth + 1, '[' :: rest => items? fuel depth [] rest
    | depth + 1, '\x7b' :: rest =>
      match skipSpaces rest with
      | '\x7d' :: rest => some (.table .inline [], rest)
      | rest => fields? fuel depth [] rest
    | _, _ => plainValue? input

/-- The items of an array behind those already read, which stand latest first. -/
def items? (fuel depth : Nat) (read : List Node) (input : List Char) : Option (Node × List Char) :=
  match fuel with
  | 0 => none
  | fuel + 1 =>
    match skipBlank false input with
    | ']' :: rest => some (.list read.reverse, rest)
    | rest => do
      let (item, rest) ← value? fuel depth rest
      match skipBlank false rest with
      | ',' :: rest => items? fuel depth (item :: read) rest
      | ']' :: rest => some (.list (item :: read).reverse, rest)
      | _ => none

def fields? (fuel depth : Nat) (read : Fields) (input : List Char) : Option (Node × List Char) :=
  match fuel with
  | 0 => none
  | fuel + 1 => do
    let (path, rest) ← key? keyLimit input
    let (path, name) ← splitLast path
    match rest with
    | '=' :: rest =>
      let (value, rest) ← value? fuel depth (skipSpaces rest)
      let read ← read.assign .inline path name value
      match skipSpaces rest with
      | ',' :: rest => fields? fuel depth read rest
      | '\x7d' :: rest => some (.table .inline read, rest)
      | _ => none
    | _ => none

end

/-- A document read so far: its fields and the path of the table that keys belong to. -/
structure Document where
  fields : Fields
  path : List String

namespace Document

def empty : Document := ⟨[], []⟩

def assign (d : Document) (path : List String) (name : String) (value : Node) :
    Option Document := do
  let fields ← Fields.alter false (fun _ table => table.assign .header path name value) d.path
    .header d.fields
  return { d with fields }

def openTable (d : Document) (path : List String) : Option Document := do
  let (before, name) ← splitLast path
  return ⟨← d.fields.openTable before name, path⟩

def openArrayTable (d : Document) (path : List String) : Option Document := do
  let (before, name) ← splitLast path
  return ⟨← d.fields.openArrayTable before name, path⟩

/-- A header or an assignment, up to its closing bracket or the end of its value. -/
def statement? (fuel : Nat) (d : Document) (input : List Char) : Option (Document × List Char) :=
  match input with
  | '[' :: '[' :: rest => do
    match ← key? keyLimit rest with
    | (path, ']' :: ']' :: rest) => some (← d.openArrayTable path, rest)
    | _ => none
  | '[' :: rest => do
    match ← key? keyLimit rest with
    | (path, ']' :: rest) => some (← d.openTable path, rest)
    | _ => none
  | _ => do
    match ← key? keyLimit input with
    | (path, '=' :: rest) =>
      let (path, name) ← splitLast path
      let (value, rest) ← value? fuel nestingLimit (skipSpaces rest)
      some (← d.assign path name value, rest)
    | _ => none

def statements? (fuel : Nat) (d : Document) (input : List Char) : Option Document :=
  match fuel with
  | 0 => none
  | fuel + 1 =>
    match skipBlank false input with
    | [] => some d
    | rest => do
      let (d, rest) ← d.statement? fuel rest
      statements? fuel d (← lineEnd? rest)

end Document

def withoutByteOrderMark : List Char → List Char
  | '\ufeff' :: rest => rest
  | text => text

def ofText? (text : String) : Option Datum := do
  let input := withoutByteOrderMark text.toList
  let document ← Document.empty.statements? (2 * input.length + 2) input
  return Node.datum (.table .header document.fields)

end SourceCheck.Toml
