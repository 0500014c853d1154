/-!
Positions in source text. Lines and columns count from one, a column counts characters, and a
newline belongs to the line that it ends.
-/

namespace SourceCheck

structure Position where
  line : Int
  column : Int
  deriving DecidableEq, Repr

namespace Position

def start : Position := ⟨1, 1⟩

def next (p : Position) (c : Char) : Position :=
  if c = '\n' then ⟨p.line + 1, 1⟩ else ⟨p.line, p.column + 1⟩

def after (p : Position) (text : List Char) : Position := text.foldl next p

end Position

end SourceCheck
