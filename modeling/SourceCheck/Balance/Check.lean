import SourceCheck.Language.Vocabulary
import SourceCheck.Text.Decimal
import SourceCheck.Token.Basic

/-!
Checking that delimiter pairs are balanced and nested.

A closing delimiter that does not close the innermost open one is reported and otherwise ignored:
the open delimiters stay as they were. What is still open at the end is reported there, innermost
first. Tokens behind the first end of input do not count.
-/

namespace SourceCheck

namespace Balance

/-- An open delimiter: its pair, and the index and position of the token that opened it. -/
structure Opening where
  pair : DelimiterPair
  index : Nat
  position : Position
  deriving DecidableEq, Repr

inductive Cause where
  | mismatched (closing : Char) (innermost : Opening)
  | unexpected (closing : Char)
  | unclosed (opening : Opening)
  deriving DecidableEq, Repr

structure Issue where
  cause : Cause
  index : Nat
  position : Position
  deriving DecidableEq, Repr

inductive Role where
  | opens (pair : DelimiterPair)
  | closes (closing : Char)
  | neutral
  deriving DecidableEq, Repr

/-- A character that opens some pair opens the first such pair and closes none. -/
def characterRole (v : Vocabulary) (c : Char) : Role :=
  match v.openingPair? c with
  | some pair => .opens pair
  | none => if (v.closingPair? c).isSome then .closes c else .neutral

/-- A delimiter token acts by its first character. -/
def role (v : Vocabulary) (t : Token) : Role :=
  match t.kind, t.text.toList with
  | .delimiter, c :: _ => characterRole v c
  | _, _ => .neutral

/-- What a token does to the open delimiters, innermost first, and the issue that it reveals. -/
def react (role : Role) (index : Nat) (position : Position) (openings : List Opening) :
    List Opening × Option Issue :=
  match role with
  | .neutral => (openings, none)
  | .opens pair => (⟨pair, index, position⟩ :: openings, none)
  | .closes c =>
    match openings with
    | [] => ([], some ⟨.unexpected c, index, position⟩)
    | innermost :: outer =>
      if innermost.pair.closing = c then (outer, none)
      else (openings, some ⟨.mismatched c innermost, index, position⟩)

/-- The issues of the tokens, the first of which has the given index, and what they leave open. -/
def walk (v : Vocabulary) (index : Nat) (openings : List Opening) :
    List Token → List Issue × List Opening
  | [] => ([], openings)
  | t :: rest =>
    let after := react (role v t) index t.position openings
    let (issues, left) := walk v (index + 1) after.1 rest
    (after.2.toList ++ issues, left)

def beforeEnd (tokens : List Token) : List Token := tokens.takeWhile fun t => !t.isEnd

def closingIndex (tokens : List Token) : Nat := min (beforeEnd tokens).length (tokens.length - 1)

/-- Where unclosed delimiters are reported: at the end of input, or at the last token when there is
no end of input. -/
def closing? (tokens : List Token) : Option (Nat × Position) :=
  tokens[closingIndex tokens]?.map fun t => (closingIndex tokens, t.position)

def unclosed (tokens : List Token) (left : List Opening) : List Issue :=
  match closing? tokens with
  | some (index, position) => left.map fun opening => ⟨.unclosed opening, index, position⟩
  | none => []

def issues (v : Vocabulary) (tokens : List Token) : List Issue :=
  let (found, left) := walk v 0 [] (beforeEnd tokens)
  found ++ unclosed tokens left

end Balance

namespace Balance.Cause

def openedBy : Cause → Option Opening
  | .mismatched _ innermost => some innermost
  | .unexpected _ => none
  | .unclosed opening => some opening

end Balance.Cause

namespace Balance.Opening

def place (o : Opening) : String :=
  "line " ++ Text.showInt o.position.line ++ ", column " ++ Text.showInt o.position.column

end Balance.Opening

namespace Balance.Issue

def openedAt (issue : Issue) : Option Nat := issue.cause.openedBy.map Opening.index

def message (issue : Issue) : String :=
  match issue.cause with
  | .mismatched closing innermost =>
    "mismatched closing delimiter '" ++ String.singleton closing ++ "', expected '" ++
      String.singleton innermost.pair.closing ++ "' to close '" ++
      String.singleton innermost.pair.opening ++ "' opened at " ++ innermost.place
  | .unexpected closing =>
    "unexpected closing delimiter '" ++ String.singleton closing ++ "'"
  | .unclosed opening =>
    "unclosed delimiter '" ++ String.singleton opening.pair.opening ++ "' opened at " ++
      opening.place ++ ", expected '" ++ String.singleton opening.pair.closing ++ "'"

end Balance.Issue

structure Verdict where
  issues : List Balance.Issue
  deriving DecidableEq, Repr

namespace Verdict

def ok (verdict : Verdict) : Bool := verdict.issues.isEmpty

end Verdict

namespace Balance

def check (v : Vocabulary) (tokens : List Token) : Verdict := ⟨issues v tokens⟩

end Balance

end SourceCheck
