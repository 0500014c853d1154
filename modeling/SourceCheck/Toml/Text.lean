/-!
Strings of TOML text. Every reader gives the text meant and the number of characters that it is
written with, or nothing when the string is not well formed.
-/

namespace SourceCheck.Toml

def isSpace (c : Char) : Bool := c == ' ' || c == '\t'

/-- Every character but the control characters; the tab is allowed. -/
def isVisible (c : Char) : Bool := c == '\t' || (32 ≤ c.toNat && c.toNat != 127)

def newlineLength : List Char → Nat
  | '\n' :: _ => 1
  | '\r' :: '\n' :: _ => 2
  | _ => 0

def hexValue? (c : Char) : Option Nat :=
  if c.isDigit then some (c.toNat - '0'.toNat)
  else if 'a' ≤ c ∧ c ≤ 'f' then some (c.toNat - 'a'.toNat + 10)
  else if 'A' ≤ c ∧ c ≤ 'F' then some (c.toNat - 'A'.toNat + 10)
  else none

def codePoint? (length : Nat) (input : List Char) : Option Char := do
  let digits := input.take length
  if digits.length < length then none
  let n ← digits.foldlM (fun n c => (hexValue? c).map (16 * n + ·)) 0
  if h : n.isValidChar then some (Char.ofNatAux n h) else none

def escape? : List Char → Option (Char × Nat)
  | 'b' :: _ => some ('\x08', 1)
  | 't' :: _ => some ('\t', 1)
  | 'n' :: _ => some ('\n', 1)
  | 'f' :: _ => some ('\x0c', 1)
  | 'r' :: _ => some ('\r', 1)
  | '\"' :: _ => some ('\"', 1)
  | '\\' :: _ => some ('\\', 1)
  | 'u' :: rest => (codePoint? 4 rest).map fun c => (c, 5)
  | 'U' :: rest => (codePoint? 8 rest).map fun c => (c, 9)
  | _ => none

def extend (text : List Char) (length : Nat) (body : List Char × Nat) : List Char × Nat :=
  (text ++ body.1, body.2 + length)

/-- The text up to the closing quote. The first `skip` characters are part of an escape. -/
def basicBody? : Nat → List Char → Option (List Char × Nat)
  | _, [] => none
  | skip + 1, _ :: rest => (basicBody? skip rest).map (extend [] 1)
  | 0, c :: rest =>
    if c = '\"' then some ([], 1)
    else if c = '\\' then do
      let (decoded, length) ← escape? rest
      (basicBody? length rest).map (extend [decoded] 1)
    else if isVisible c then (basicBody? 0 rest).map (extend [c] 1)
    else none

def blankLength : List Char → Nat
  | '\r' :: '\n' :: rest => blankLength rest + 2
  | c :: rest => if isSpace c ∨ c = '\n' then blankLength rest + 1 else 0
  | [] => 0

/-- A line that ends with a backslash goes on at the next character that is not blank. -/
def continuationLength? (input : List Char) : Option Nat :=
  let spaces := (input.takeWhile isSpace).length
  if newlineLength (input.drop spaces) = 0 then none else some (blankLength input)

/-- The end of a string over several lines: three quotes, with up to two more in front that belong
to the text. -/
def longEnd? (quote : Char) (input : List Char) : Option (List Char × Nat) :=
  let quotes := (input.takeWhile (· == quote)).length
  if quotes < 3 then none
  else some (List.replicate (min (quotes - 3) 2) quote, min quotes 5)

/-- The text of a string over several lines. Every newline in it is a line feed. -/
def longBody? (quote : Char) (escapes : Bool) : Nat → List Char → Option (List Char × Nat)
  | _, [] => none
  | skip + 1, _ :: rest => (longBody? quote escapes skip rest).map (extend [] 1)
  | 0, c :: rest =>
    match longEnd? quote (c :: rest) with
    | some body => some body
    | none =>
      if c = '\\' ∧ escapes then
        match continuationLength? rest with
        | some length => (longBody? quote escapes length rest).map (extend [] 1)
        | none => do
          let (decoded, length) ← escape? rest
          (longBody? quote escapes length rest).map (extend [decoded] 1)
      else if newlineLength (c :: rest) ≠ 0 then
        (longBody? quote escapes (newlineLength (c :: rest) - 1) rest).map (extend ['\n'] 1)
      else if isVisible c then (longBody? quote escapes 0 rest).map (extend [c] 1)
      else none

def literalBody? (input : List Char) : Option (List Char × Nat) :=
  let text := input.takeWhile fun c => isVisible c && c != '\''
  match input.drop text.length with
  | '\'' :: _ => some (text, text.length + 1)
  | _ => none

/-- A newline right behind the opening quotes does not count. -/
def longString? (quote : Char) (escapes : Bool) (input : List Char) : Option (List Char × Nat) :=
  let newline := newlineLength input
  (longBody? quote escapes 0 (input.drop newline)).map (extend [] newline)

def shortString? : List Char → Option (List Char × Nat)
  | '\"' :: rest => (basicBody? 0 rest).map (extend [] 1)
  | '\'' :: rest => (literalBody? rest).map (extend [] 1)
  | _ => none

def string? : List Char → Option (List Char × Nat)
  | '\"' :: '\"' :: '\"' :: rest => (longString? '\"' true rest).map (extend [] 3)
  | '\'' :: '\'' :: '\'' :: rest => (longString? '\'' false rest).map (extend [] 3)
  | input => shortString? input

end SourceCheck.Toml
