import SourceCheck.Json.Value
import SourceCheck.Text.Decimal

/-!
JSON text spread over lines, two spaces for each level. Empty arrays and objects stay on one line,
and only what JSON requires is escaped.
-/

namespace SourceCheck.Json

def hexDigit (n : Nat) : Char := Nat.digitChar (n % 16)

def escapeChar (c : Char) : List Char :=
  if c = '\"' then ['\\', '\"']
  else if c = '\\' then ['\\', '\\']
  else if c = '\x08' then ['\\', 'b']
  else if c = '\x0c' then ['\\', 'f']
  else if c = '\n' then ['\\', 'n']
  else if c = '\r' then ['\\', 'r']
  else if c = '\t' then ['\\', 't']
  else if c.toNat < 32 then
    ['\\', 'u', '0', '0', hexDigit (c.toNat / 16), hexDigit c.toNat]
  else [c]

def stringText (text : String) : String :=
  String.ofList ('\"' :: text.toList.flatMap escapeChar ++ ['\"'])

def numberText (d : Decimal) : String :=
  if d.exponent = 0 then Text.showInt d.coefficient
  else Text.showInt d.coefficient ++ "e" ++ Text.showInt d.exponent

def indentation (level : Nat) : String := String.ofList (List.replicate (2 * level) ' ')

/-- Parts on lines of their own one level down, between brackets. -/
def block (opening closing : String) (level : Nat) (parts : List String) : String :=
  if parts.isEmpty then opening ++ closing
  else
    opening ++ "\n" ++
      String.intercalate ",\n" (parts.map fun part => indentation (level + 1) ++ part) ++
      "\n" ++ indentation level ++ closing

mutual

def textAt (level : Nat) : Json → String
  | .null => "null"
  | .boolean value => if value then "true" else "false"
  | .number value => numberText value
  | .string text => stringText text
  | .array items => block "[" "]" level (itemTexts (level + 1) items)
  | .object fields => block "\x7b" "\x7d" level (fieldTexts (level + 1) fields)

def itemTexts (level : Nat) : List Json → List String
  | [] => []
  | item :: rest => textAt level item :: itemTexts level rest

def fieldTexts (level : Nat) : List (String × Json) → List String
  | [] => []
  | (name, value) :: rest =>
    (stringText name ++ ": " ++ textAt level value) :: fieldTexts level rest

end

def pretty (value : Json) : String := textAt 0 value

end SourceCheck.Json
