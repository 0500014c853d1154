/-!
Wildcards for names: a question mark stands for one character, a star for any number of them, and a
class in brackets for one of its characters, or for one outside it after an exclamation mark. Two
stars stand for any number of directories and must fill a name of a path alone.
-/

namespace SourceCheck.Workspace

inductive Wildcard where
  | char (c : Char)
  | anyChar
  | anyText
  | anyDepth
  /-- A character within one of the ranges, or within none of them. -/
  | oneOf (inside : Bool) (ranges : List (Char × Char))
  deriving DecidableEq, Repr

inductive WildcardFault where
  | tooManyStars
  | starsNotAlone
  | unclosedClass
  deriving DecidableEq, Repr

/-- A fault of a pattern, and how many characters stand in front of it. -/
structure PatternError where
  position : Nat
  fault : WildcardFault
  deriving DecidableEq, Repr

def WildcardFault.message : WildcardFault → String
  | .tooManyStars => "wildcards are either regular `*` or recursive `**`"
  | .starsNotAlone => "recursive wildcards must form a single path component"
  | .unclosedClass => "invalid range pattern"

namespace Wildcard

def ranges : List Char → List (Char × Char)
  | first :: '-' :: last :: rest => (first, last) :: ranges rest
  | c :: rest => (c, c) :: ranges rest
  | [] => []

inductive Reader where
  | nameStart
  | name
  /-- A class that was opened at a position, with its characters so far, latest first. -/
  | charClass (position : Nat) (inside : Bool) (characters : List Char)
  deriving DecidableEq, Repr

/-- Reads on in a pattern of which `position` characters have been read. A closing bracket that
comes first in a class belongs to it. -/
def read (position : Nat) : Reader → List Char → Except PatternError (List Wildcard)
  | .charClass start _ _, [] => .error ⟨start, .unclosedClass⟩
  | .charClass start inside characters, c :: rest =>
    if c = ']' ∧ characters ≠ [] then
      (read (position + 1) .name rest).map (.oneOf inside (ranges characters.reverse) :: ·)
    else read (position + 1) (.charClass start inside (c :: characters)) rest
  | _, [] => .ok []
  | _, '?' :: rest => (read (position + 1) .name rest).map (.anyChar :: ·)
  | _, '*' :: '*' :: '*' :: _ => .error ⟨position + 2, .tooManyStars⟩
  | .name, '*' :: '*' :: _ => .error ⟨position - 1, .starsNotAlone⟩
  | _, ['*', '*'] => .ok [.anyDepth]
  | _, '*' :: '*' :: '/' :: rest => (read (position + 3) .nameStart rest).map (.anyDepth :: ·)
  | _, '*' :: '*' :: _ => .error ⟨position + 2, .starsNotAlone⟩
  | _, '*' :: rest => (read (position + 1) .name rest).map (.anyText :: ·)
  | _, '[' :: '!' :: rest => read (position + 2) (.charClass position false []) rest
  | _, '[' :: rest => read (position + 1) (.charClass position true []) rest
  | _, '/' :: rest => (read (position + 1) .nameStart rest).map (.char '/' :: ·)
  | _, c :: rest => (read (position + 1) .name rest).map (.char c :: ·)

def anyEnd (p : List Char → Bool) : List Char → Bool
  | [] => p []
  | c :: rest => p (c :: rest) || anyEnd p rest

def admits : Wildcard → Char → Bool
  | .char own, c => own == c
  | .oneOf inside ranges, c => (ranges.any fun (low, high) => low ≤ c && c ≤ high) == inside
  | _, _ => true

def describes : List Wildcard → List Char → Bool
  | [], name => name.isEmpty
  | .anyText :: rest, name => anyEnd (describes rest) name
  | .anyDepth :: rest, name => anyEnd (describes rest) name
  | w :: rest, c :: name => w.admits c && describes rest name
  | _ :: _, [] => false

end Wildcard

end SourceCheck.Workspace
