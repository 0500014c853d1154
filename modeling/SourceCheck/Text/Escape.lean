import SourceCheck.Text.Character

/-!
Escaped forms of characters and texts for messages. A control character, the backslash and, by
style, the quotes take a backslash; a character that cannot be seen and, by style, a mark without
the character that it attaches to are given by their code points.
-/

namespace SourceCheck.Text

structure EscapeStyle where
  singleQuote : Bool
  doubleQuote : Bool
  attachedMark : Bool
  deriving DecidableEq, Repr

namespace EscapeStyle

def full : EscapeStyle := ⟨true, true, true⟩

/-- Within an escaped text, a mark that attaches to the character before it stands as it is. -/
def continued : EscapeStyle := ⟨true, true, false⟩

def insideDoubleQuotes : EscapeStyle := ⟨false, true, true⟩

def insideSingleQuotes : EscapeStyle := ⟨true, false, true⟩

end EscapeStyle

def codePointEscape (c : Char) : List Char :=
  ['\\', 'u', '\x7b'] ++ Nat.toDigits 16 c.toNat ++ ['\x7d']

def escape (style : EscapeStyle) (c : Char) : List Char :=
  if c = '\x00' then ['\\', '0']
  else if c = '\t' then ['\\', 't']
  else if c = '\r' then ['\\', 'r']
  else if c = '\n' then ['\\', 'n']
  else if c = '\\' then ['\\', '\\']
  else if c = '\'' ∧ style.singleQuote then ['\\', '\'']
  else if c = '\"' ∧ style.doubleQuote then ['\\', '\"']
  else if style.attachedMark && isAttachedMark c then codePointEscape c
  else if isPrintable c then [c]
  else codePointEscape c

def escapeText : List Char → List Char
  | [] => []
  | c :: rest => escape .full c ++ rest.flatMap (escape .continued)

def quoted (text : String) : String :=
  String.ofList ('\"' :: text.toList.flatMap (escape .insideDoubleQuotes) ++ ['\"'])

def quotedList (texts : List String) : String :=
  "[" ++ String.intercalate ", " (texts.map quoted) ++ "]"

def quotedChar (c : Char) : String :=
  String.ofList ('\'' :: escape .insideSingleQuotes c ++ ['\''])

end SourceCheck.Text
