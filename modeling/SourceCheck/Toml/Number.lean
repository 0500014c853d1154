/-!
The written forms of TOML numbers, dates and times. No setting is one, so only their form counts.
-/

namespace SourceCheck.Toml

def digitValue (c : Char) : Nat :=
  if c.isDigit then c.toNat - '0'.toNat
  else if 'a' ≤ c then c.toNat - 'a'.toNat + 10
  else c.toNat - 'A'.toNat + 10

def isHexDigit (c : Char) : Bool :=
  c.isDigit || ('a' ≤ c && c ≤ 'f') || ('A' ≤ c && c ≤ 'F')

def isOctalDigit (c : Char) : Bool := '0' ≤ c && c ≤ '7'

def isBinaryDigit (c : Char) : Bool := c == '0' || c == '1'

/-- Digits, each underscore standing between two of them; the underscores are left out. -/
def digits? (isDigit : Char → Bool) (text : List Char) : Option (List Char) :=
  let groups := (String.ofList text).splitOn "_" |>.map String.toList
  if groups.all fun group => !group.isEmpty && group.all isDigit then some groups.flatten
  else none

def valueIn (base : Nat) (digits : List Char) : Nat :=
  digits.foldl (fun n c => base * n + digitValue c) 0

def withoutSign : List Char → List Char
  | '+' :: rest => rest
  | '-' :: rest => rest
  | text => text

def wholeDigits? (text : List Char) : Option (List Char) := do
  let digits ← digits? Char.isDigit text
  match digits with
  | '0' :: _ :: _ => none
  | _ => some digits

def isInteger (text : List Char) : Bool :=
  match text with
  | '0' :: 'x' :: rest => (digits? isHexDigit rest).any (valueIn 16 · < Nat.pow 2 63)
  | '0' :: 'o' :: rest => (digits? isOctalDigit rest).any (valueIn 8 · < Nat.pow 2 63)
  | '0' :: 'b' :: rest => (digits? isBinaryDigit rest).any (valueIn 2 · < Nat.pow 2 63)
  | '-' :: rest => (wholeDigits? rest).any (valueIn 10 · ≤ Nat.pow 2 63)
  | _ => (wholeDigits? (withoutSign text)).any (valueIn 10 · < Nat.pow 2 63)

/-- Whether `digits * 10 ^ scale` is below the numbers that round to infinity. -/
def isFinite (digits : List Char) (scale : Int) : Bool :=
  let n := valueIn 10 digits
  let limit := Nat.pow 2 1024 - Nat.pow 2 970
  if n = 0 then true
  else if 400 < (Nat.toDigits 10 n).length + scale then false
  else if scale < 0 then (Nat.toDigits 10 n).length + scale < 300 ||
    n < limit * Nat.pow 10 scale.natAbs
  else n * Nat.pow 10 scale.toNat < limit

def isFloat (text : List Char) : Bool :=
  let body := withoutSign text
  if body = ['i', 'n', 'f'] ∨ body = ['n', 'a', 'n'] then true
  else
    let mantissa := body.takeWhile fun c => c != 'e' && c != 'E'
    let power := (body.drop mantissa.length).drop 1
    let hasPower := mantissa.length < body.length
    let whole := mantissa.takeWhile (· != '.')
    let hasFraction := whole.length < mantissa.length
    let fraction := mantissa.drop (whole.length + 1)
    let parts : Option Bool := do
      let wholePart ← wholeDigits? whole
      let fractionPart ← if hasFraction then digits? Char.isDigit fraction else some []
      let powerPart ← if hasPower then digits? Char.isDigit (withoutSign power) else some []
      let exponent : Int := valueIn 10 powerPart
      let exponent := if power.head? = some '-' then -exponent else exponent
      return text.head? = some '-' ||
        isFinite (wholePart ++ fractionPart) (exponent - fractionPart.length)
    (hasPower || hasFraction) && parts.getD false

def twoDigits? : List Char → Option (Nat × List Char)
  | a :: b :: rest =>
    if a.isDigit ∧ b.isDigit then some (10 * digitValue a + digitValue b, rest) else none
  | _ => none

def character? (c : Char) : List Char → Option (List Char)
  | d :: rest => if c = d then some rest else none
  | [] => none

def daysIn (year month : Nat) : Nat :=
  if month = 2 then
    if year % 4 = 0 ∧ (year % 100 ≠ 0 ∨ year % 400 = 0) then 29 else 28
  else if month ∈ [4, 6, 9, 11] then 30
  else 31

def date? (text : List Char) : Option (List Char) := do
  let (century, rest) ← twoDigits? text
  let (year, rest) ← twoDigits? rest
  let (month, rest) ← twoDigits? (← character? '-' rest)
  let (day, rest) ← twoDigits? (← character? '-' rest)
  if 1 ≤ month ∧ month ≤ 12 ∧ 1 ≤ day ∧ day ≤ daysIn (100 * century + year) month then some rest
  else none

/-- What follows a time of day. A minute may have a leap second. -/
def time? (text : List Char) : Option (List Char) := do
  let (hour, rest) ← twoDigits? text
  let (minute, rest) ← twoDigits? (← character? ':' rest)
  let (second, rest) ← twoDigits? (← character? ':' rest)
  if 23 < hour ∨ 59 < minute ∨ 60 < second then none
  match rest with
  | '.' :: fraction =>
    let digits := fraction.takeWhile Char.isDigit
    if digits.isEmpty then none else some (fraction.drop digits.length)
  | _ => some rest

def isOffset (text : List Char) : Bool :=
  match text with
  | ['Z'] => true
  | ['z'] => true
  | sign :: rest =>
    (sign == '+' || sign == '-') && (do
      let (hour, rest) ← twoDigits? rest
      let (minute, rest) ← twoDigits? (← character? ':' rest)
      return rest.isEmpty && hour ≤ 23 && minute ≤ 59 : Option Bool).getD false
  | [] => false

def isDate (text : List Char) : Bool := (date? text).any List.isEmpty

def isMoment (text : List Char) : Bool :=
  (time? text).any List.isEmpty || match date? text with
    | none => false
    | some [] => true
    | some (delimiter :: rest) =>
      (delimiter == 'T' || delimiter == 't' || delimiter == ' ') &&
        (time? rest).any fun after => after.isEmpty || isOffset after

def isNumberOrMoment (text : List Char) : Bool := isInteger text || isFloat text || isMoment text

def isNumberCharacter (c : Char) : Bool :=
  c.isAlphanum || c == '+' || c == '-' || c == '.' || c == ':' || c == '_'

/-- The characters at the head of the input that would form a number or moment. A space may stand
between a date and a time. -/
def numberRun (input : List Char) : List Char :=
  let run := input.takeWhile isNumberCharacter
  match input.drop run.length with
  | ' ' :: rest =>
    if isDate run ∧ (rest.head?.any Char.isDigit) then
      run ++ ' ' :: rest.takeWhile isNumberCharacter
    else run
  | _ => run

end SourceCheck.Toml
