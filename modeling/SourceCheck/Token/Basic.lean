import SourceCheck.Text.Position

/-!
Tokens: classified, positioned pieces of source text. Blanks and comments are never tokens, and
every finished scan ends with one end-of-input token.
-/

namespace SourceCheck

inductive FloatForm where
  | simple
  | scientific
  deriving DecidableEq, Repr

inductive Literal where
  | boolean (value : Bool)
  | float (form : FloatForm)
  | integer
  | string (hasEscapes : Bool)
  deriving DecidableEq, Repr

inductive TokenKind where
  | delimiter
  | endOfInput
  | identifier
  | keyword
  | literal (literal : Literal)
  | operator
  deriving DecidableEq, Repr

structure Token where
  kind : TokenKind
  text : String
  position : Position
  deriving DecidableEq, Repr

inductive TokenCategory where
  | keyword
  | identifier
  | integerLiteral
  | floatLiteral
  | stringLiteral
  | booleanLiteral
  | operator
  | delimiter
  | endOfInput
  deriving DecidableEq, Repr

namespace TokenCategory

def name : TokenCategory → String
  | .keyword => "keyword"
  | .identifier => "identifier"
  | .integerLiteral => "integer-literal"
  | .floatLiteral => "float-literal"
  | .stringLiteral => "string-literal"
  | .booleanLiteral => "boolean-literal"
  | .operator => "operator"
  | .delimiter => "delimiter"
  | .endOfInput => "end-of-input"

end TokenCategory

namespace TokenKind

def category : TokenKind → TokenCategory
  | .delimiter => .delimiter
  | .endOfInput => .endOfInput
  | .identifier => .identifier
  | .keyword => .keyword
  | .literal (.boolean _) => .booleanLiteral
  | .literal (.float _) => .floatLiteral
  | .literal .integer => .integerLiteral
  | .literal (.string _) => .stringLiteral
  | .operator => .operator

def description : TokenKind → String
  | .delimiter => "delimiter"
  | .endOfInput => "end of input"
  | .identifier => "identifier"
  | .keyword => "keyword"
  | .literal (.boolean _) => "boolean literal"
  | .literal (.float _) => "floating point literal"
  | .literal .integer => "integer literal"
  | .literal (.string _) => "string literal"
  | .operator => "operator"

end TokenKind

namespace Token

def endOfInput (position : Position) : Token := ⟨.endOfInput, "", position⟩

def isEnd (t : Token) : Bool := t.kind == .endOfInput

def description (t : Token) : String :=
  match t.kind with
  | .endOfInput => t.kind.description
  | _ => t.kind.description ++ " '" ++ t.text ++ "'"

end Token

end SourceCheck
