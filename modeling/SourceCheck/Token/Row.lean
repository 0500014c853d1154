import SourceCheck.Text.Decimal
import SourceCheck.Text.Escape
import SourceCheck.Token.Basic

/-!
Rows: the flat records in which tokens are shown, and the text table that aligns them under a
header. The kind column is as wide as its widest entry; numbers are right-aligned and may run over
their column; the lexeme stands last and escaped.
-/

namespace SourceCheck

structure Row where
  category : TokenCategory
  lexeme : String
  position : Position
  deriving DecidableEq, Repr

namespace Row

def ofToken (t : Token) : Row := ⟨t.kind.category, t.text, t.position⟩

def kindField (row : Row) : List Char := row.category.name.toList

def kindWidth (rows : List Row) : Nat :=
  rows.foldr (fun row width => max row.kindField.length width) 4

def tableLine (width : Nat) (kind line column lexeme : List Char) : List Char :=
  kind.rightpad width ' ' ++ [' ', ' '] ++ line.leftpad 4 ' ' ++ [' ', ' '] ++
    column.leftpad 6 ' ' ++ [' ', ' '] ++ lexeme ++ ['\n']

def header (width : Nat) : List Char :=
  tableLine width "KIND".toList "LINE".toList "COLUMN".toList "LEXEME".toList

def line (width : Nat) (row : Row) : List Char :=
  tableLine width row.kindField (Text.decimal row.position.line)
    (Text.decimal row.position.column) (Text.escapeText row.lexeme.toList)

def table (rows : List Row) : String :=
  String.ofList (header (kindWidth rows) ++ rows.flatMap (line (kindWidth rows)))

end Row

end SourceCheck
