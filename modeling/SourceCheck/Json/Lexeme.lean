import SourceCheck.Json.Value

/-!
The lexemes of JSON text: punctuation and scalar values. Escapes and numbers are decoded here.
-/

namespace SourceCheck.Json

inductive Lexeme where
  | openArray
  | closeArray
  | openObject
  | closeObject
  | comma
  | colon
  | scalar (value : Json)

namespace Lexeme

def isSpace (c : Char) : Bool := c == ' ' || c == '\t' || c == '\n' || c == '\r'

def hexValue? (c : Char) : Option Nat :=
  if c.isDigit then some (c.toNat - '0'.toNat)
  else if 'a' ≤ c ∧ c ≤ 'f' then some (c.toNat - 'a'.toNat + 10)
  else if 'A' ≤ c ∧ c ≤ 'F' then some (c.toNat - 'A'.toNat + 10)
  else none

def hexNumber? (digits : List Char) : Option Nat :=
  digits.foldlM (fun n c => (hexValue? c).map (16 * n + ·)) 0

def codeUnit? : List Char → Option Nat
  | a :: b :: c :: d :: _ => hexNumber? [a, b, c, d]
  | _ => none

def isHighSurrogate (unit : Nat) : Bool := 0xD800 ≤ unit && unit < 0xDC00

def isLowSurrogate (unit : Nat) : Bool := 0xDC00 ≤ unit && unit < 0xE000

def surrogatePair (high low : Nat) : Char :=
  Char.ofNat (0x10000 + (high - 0xD800) * 0x400 + (low - 0xDC00))

/-- The character written after `\u`, and the length of what is written. A surrogate must be
followed by its other half. -/
def unicodeEscape? (input : List Char) : Option (Char × Nat) := do
  let unit ← codeUnit? input
  if isHighSurrogate unit then
    match input.drop 4 with
    | '\\' :: 'u' :: rest =>
      let low ← codeUnit? rest
      if isLowSurrogate low then some (surrogatePair unit low, 10) else none
    | _ => none
  else if isLowSurrogate unit then none
  else some (Char.ofNat unit, 4)

def escape? : List Char → Option (Char × Nat)
  | '\"' :: _ => some ('\"', 1)
  | '\\' :: _ => some ('\\', 1)
  | '/' :: _ => some ('/', 1)
  | 'b' :: _ => some ('\x08', 1)
  | 'f' :: _ => some ('\x0c', 1)
  | 'n' :: _ => some ('\n', 1)
  | 'r' :: _ => some ('\r', 1)
  | 't' :: _ => some ('\t', 1)
  | 'u' :: rest => (unicodeEscape? rest).map fun (c, length) => (c, length + 1)
  | _ => none

/-- The text up to the closing quote, and the length of what is written, the quote included. The
first `skip` characters belong to an escape already read. -/
def stringBody? : Nat → List Char → Option (List Char × Nat)
  | _, [] => none
  | skip + 1, _ :: rest => (stringBody? skip rest).map fun (text, length) => (text, length + 1)
  | 0, c :: rest =>
    if c = '\"' then some ([], 1)
    else if c = '\\' then do
      let (decoded, escapeLength) ← escape? rest
      let (text, length) ← stringBody? escapeLength rest
      some (decoded :: text, length + 1)
    else if c.toNat < 32 then none
    else (stringBody? 0 rest).map fun (text, length) => (c :: text, length + 1)

def digitValue (c : Char) : Nat := c.toNat - '0'.toNat

structure Significand where
  value : Nat
  scale : Int

namespace Significand

def fits (n : Nat) : Bool := n < Nat.pow 2 64

/-- Digits in front of the point: the first that does not fit, and all behind it, only scale. -/
def whole (s : Significand) : List Char → Significand
  | [] => s
  | d :: rest =>
    if s.scale = 0 ∧ fits (10 * s.value + digitValue d) then
      whole ⟨10 * s.value + digitValue d, 0⟩ rest
    else whole ⟨s.value, s.scale + 1⟩ rest

/-- Digits behind the point: the first that does not fit, and all behind it, are dropped. -/
def fraction (s : Significand) : List Char → Significand
  | [] => s
  | d :: rest =>
    if fits (10 * s.value + digitValue d) then
      fraction ⟨10 * s.value + digitValue d, s.scale - 1⟩ rest
    else s

/-- The nearest number of at most 53 bits, a tie going to the even one. -/
def round53 (n : Nat) : Nat :=
  let unit := Nat.pow 2 (Nat.log2 n + 1 - 53)
  let quotient := n / unit
  let twice := 2 * (n % unit)
  if twice < unit then quotient * unit
  else if twice = unit then (quotient + quotient % 2) * unit
  else (quotient + 1) * unit

def doubleLimit : Nat := Nat.pow 2 1024 - Nat.pow 2 970

def overflows (s : Significand) : Bool :=
  s.value != 0 && 0 ≤ s.scale &&
    (308 < s.scale ||
      doubleLimit ≤ round53 s.value * round53 (Nat.pow 10 s.scale.toNat))

end Significand

def naturalOfDigits (digits : List Char) : Nat :=
  digits.foldl (fun n d => 10 * n + digitValue d) 0

/-- The exponent behind `e`, and the length of what is written, the mark included. -/
def exponent? (input : List Char) : Option (Int × Nat) :=
  let (negative, sign) : Bool × Nat :=
    match input with
    | '-' :: _ => (true, 1)
    | '+' :: _ => (false, 1)
    | _ => (false, 0)
  match (input.drop sign).takeWhile Char.isDigit with
  | [] => none
  | digits =>
    let magnitude : Int := naturalOfDigits digits
    some (if negative then -magnitude else magnitude, 1 + sign + digits.length)

def unsigned? (input : List Char) : Option (Significand × Nat) := do
  let wholeDigits :=
    match input with
    | '0' :: _ => ['0']
    | _ => input.takeWhile Char.isDigit
  if wholeDigits.isEmpty then none
  let whole := Significand.whole ⟨0, 0⟩ wholeDigits
  let behindWhole := input.drop wholeDigits.length
  let (mantissa, fractionLength) ←
    match behindWhole with
    | '.' :: rest =>
      match rest.takeWhile Char.isDigit with
      | [] => none
      | digits => some (whole.fraction digits, 1 + digits.length)
    | _ => some (whole, 0)
  let (power, exponentLength) ←
    match behindWhole.drop fractionLength with
    | 'e' :: rest => exponent? rest
    | 'E' :: rest => exponent? rest
    | _ => some (0, 0)
  let value : Significand := ⟨mantissa.value, mantissa.scale + power⟩
  if value.overflows then none
  some (value, wholeDigits.length + fractionLength + exponentLength)

def number? (c : Char) (rest : List Char) : Option (Lexeme × Nat) :=
  if c = '-' then
    (unsigned? rest).map fun (s, length) => (.scalar (.number ⟨-(s.value : Int), s.scale⟩), length)
  else
    (unsigned? (c :: rest)).map fun (s, length) =>
      (.scalar (.number ⟨s.value, s.scale⟩), length - 1)

/-- The value named by the word that begins with `c`, and the number of characters that follow. -/
def word? (c : Char) (rest : List Char) : Option (Lexeme × Nat) :=
  if "true".toList.isPrefixOf (c :: rest) then some (.scalar (.boolean true), 3)
  else if "false".toList.isPrefixOf (c :: rest) then some (.scalar (.boolean false), 4)
  else if "null".toList.isPrefixOf (c :: rest) then some (.scalar .null, 3)
  else none

def at? (c : Char) (rest : List Char) : Option (Lexeme × Nat) :=
  if c = '[' then some (.openArray, 0)
  else if c = ']' then some (.closeArray, 0)
  else if c = '\x7b' then some (.openObject, 0)
  else if c = '\x7d' then some (.closeObject, 0)
  else if c = ',' then some (.comma, 0)
  else if c = ':' then some (.colon, 0)
  else if c = '\"' then
    (stringBody? 0 rest).map fun (text, length) =>
      (.scalar (.string (String.ofList text)), length)
  else if c = '-' ∨ c.isDigit then number? c rest
  else word? c rest

/-- The lexemes behind the first `skip` characters, which belong to a lexeme already read. -/
def allAfter? : Nat → List Char → Option (List Lexeme)
  | _, [] => some []
  | skip + 1, _ :: rest => allAfter? skip rest
  | 0, c :: rest =>
    if isSpace c then allAfter? 0 rest
    else do
      let (lexeme, length) ← at? c rest
      return lexeme :: (← allAfter? length rest)

def all? (input : List Char) : Option (List Lexeme) := allAfter? 0 input

end Lexeme

end SourceCheck.Json
