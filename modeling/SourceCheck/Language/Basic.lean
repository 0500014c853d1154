/-!
The description of a language that a user writes: its reserved words, markers and delimiters, all
as plain text and not yet checked.
-/

namespace SourceCheck

structure MarkerPair where
  opening : String
  closing : String
  deriving DecidableEq, Repr

structure Language where
  keywords : List String
  trueWord : String
  falseWord : String
  operators : List String
  delimiters : List String
  pairs : List MarkerPair
  lineComments : List String
  blockComment : Option MarkerPair
  quotes : List String
  multilineStrings : Bool
  deriving DecidableEq, Repr

namespace Language

/-- A vocabulary in the manner of C. -/
def standard : Language where
  keywords := ["break", "case", "const", "continue", "default", "do", "else", "for", "func", "if",
    "import", "in", "let", "null", "return", "struct", "switch", "var", "while"]
  trueWord := "true"
  falseWord := "false"
  operators := ["==", "!=", "<=", ">=", "&&", "||", "++", "--", "+=", "-=", "*=", "/=", "%=", "->",
    "=>", "::", "<<", ">>", "**", "+", "-", "*", "/", "%", "=", "<", ">", "!", "&", "|", "^", "~",
    "?"]
  delimiters := ["(", ")", "\x7b", "\x7d", "[", "]", ",", ";", ":", ".", "#", "@"]
  pairs := [⟨"(", ")"⟩, ⟨"[", "]"⟩, ⟨"\x7b", "\x7d"⟩]
  lineComments := ["//"]
  blockComment := some ⟨"/*", "*/"⟩
  quotes := ["\"", "'"]
  multilineStrings := false

end Language

end SourceCheck
