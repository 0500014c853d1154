import SourceCheck.Language.Vocabulary
import SourceCheck.Text.Character
import SourceCheck.Token.Basic

/-!
How far each kind of lexeme reaches. Every function here looks at the input behind the first
character, which the caller has seen, and counts the further characters that belong to the lexeme.
-/

namespace SourceCheck.Scan

def runLength (p : Char → Bool) (input : List Char) : Nat := (input.takeWhile p).length

/-- What follows an opening quote: whether the string ends, whether it holds a backslash, and how
many characters belong to it. -/
structure StringBody where
  closed : Bool
  hasEscapes : Bool
  length : Nat
  deriving DecidableEq, Repr

namespace StringBody

def extend (b : StringBody) (count : Nat) : StringBody := ⟨b.closed, b.hasEscapes, b.length + count⟩

def escaped (b : StringBody) (count : Nat) : StringBody := ⟨b.closed, true, b.length + count⟩

/-- A backslash takes the next character with it. Without `multiline`, a newline ends the string
unclosed and no backslash reaches over it. -/
def read (quote : Char) (multiline : Bool) : List Char → StringBody
  | [] => ⟨false, false, 0⟩
  | c :: input =>
    if c = quote then ⟨true, false, 1⟩
    else if c = '\n' ∧ ¬multiline then ⟨false, false, 0⟩
    else if c = '\\' then
      match input with
      | [] => ⟨false, true, 1⟩
      | d :: rest =>
        if d = '\n' ∧ ¬multiline then (read quote multiline (d :: rest)).escaped 1
        else (read quote multiline rest).escaped 2
    else (read quote multiline input).extend 1

end StringBody

def digitsLength (input : List Char) : Nat := runLength Char.isDigit input

/-- A point counts only with a digit behind it. -/
def fractionLength : List Char → Nat
  | '.' :: input => if digitsLength input = 0 then 0 else digitsLength input + 1
  | _ => 0

def signLength : List Char → Nat
  | '+' :: _ => 1
  | '-' :: _ => 1
  | _ => 0

/-- The mark and a sign count only with a digit behind them. -/
def exponentLength : List Char → Nat
  | [] => 0
  | c :: input =>
    if c = 'e' ∨ c = 'E' then
      let sign := signLength input
      let digits := digitsLength (input.drop sign)
      if digits = 0 then 0 else digits + sign + 1
    else 0

def number (input : List Char) : Literal × Nat :=
  let whole := digitsLength input
  let fraction := fractionLength (input.drop whole)
  let exponent := exponentLength (input.drop (whole + fraction))
  let literal : Literal :=
    if exponent ≠ 0 then .float .scientific else if fraction ≠ 0 then .float .simple else .integer
  (literal, whole + fraction + exponent)

def wordKind (v : Vocabulary) (word : String) : TokenKind :=
  match v.booleanValue? word with
  | some value => .literal (.boolean value)
  | none => if v.isKeyword word then .keyword else .identifier

end SourceCheck.Scan
