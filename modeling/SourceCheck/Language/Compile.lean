import SourceCheck.Language.Basic
import SourceCheck.Language.Vocabulary
import SourceCheck.Text.Escape

/-!
Checking a language description and compiling it into a vocabulary. Every refusal names the entry
at fault; of several faults the first in the order of the checks is named.
-/

namespace SourceCheck

inductive LanguageField where
  | keywords
  | operators
  | delimiters
  | pairs
  | lineComments
  | blockComment
  | quotes
  deriving DecidableEq, Repr

def LanguageField.name : LanguageField → String
  | .keywords => "keywords"
  | .operators => "operators"
  | .delimiters => "delimiters"
  | .pairs => "pairs"
  | .lineComments => "line_comments"
  | .blockComment => "block_comment"
  | .quotes => "quotes"

inductive ClaimingRule where
  | string
  | number
  | identifier
  | operator
  | comment
  deriving DecidableEq, Repr

def ClaimingRule.description : ClaimingRule → String
  | .string => "a string literal"
  | .number => "a number"
  | .identifier => "an identifier"
  | .operator => "an operator"
  | .comment => "a comment"

inductive VocabularyError where
  | notSingleCharacter (field : LanguageField) (value : String)
  | emptyEntry (field : LanguageField)
  | pairNotDelimiter (pair : MarkerPair)
  | pairSameCharacter (pair : MarkerPair)
  | pairShadowed (character : Char) (rule : ClaimingRule)
  deriving DecidableEq, Repr

def VocabularyError.message : VocabularyError → String
  | .notSingleCharacter field value =>
    field.name ++ " entry " ++ Text.quoted value ++ " must be exactly one character"
  | .emptyEntry field => field.name ++ " entries must not be empty"
  | .pairNotDelimiter pair =>
    "delimiter pair " ++ Text.quoted pair.opening ++ "/" ++ Text.quoted pair.closing ++
      " uses a character missing from delimiters"
  | .pairSameCharacter pair =>
    "delimiter pair " ++ Text.quoted pair.opening ++ "/" ++ Text.quoted pair.closing ++
      " must use two different characters"
  | .pairShadowed character rule =>
    "delimiter pair character " ++ Text.quotedChar character ++ " always scans as " ++
      rule.description

namespace Language

def singleCharacter (field : LanguageField) (value : String) : Except VocabularyError Char :=
  match value.toList with
  | [c] => .ok c
  | _ => .error (.notSingleCharacter field value)

def marker (field : LanguageField) (value : String) : Except VocabularyError Marker :=
  match value.toList with
  | c :: rest => .ok ⟨c, rest⟩
  | [] => .error (.emptyEntry field)

/-- The rule that takes the bare character before the delimiter rule is tried. A longer marker
that only begins with the character leaves it alone. -/
def claimingRule? (language : Language) (quotes : List Char) (c : Char) : Option ClaimingRule :=
  if c ∈ quotes then some .string
  else if c.isDigit then some .number
  else if Text.startsWord c then some .identifier
  else if String.singleton c ∈ language.operators then some .operator
  else if String.singleton c ∈ language.lineComments ∨
      language.blockComment.any (·.opening == String.singleton c) then some .comment
  else none

def unclaimed (language : Language) (quotes : List Char) (c : Char) :
    Except VocabularyError Unit :=
  match language.claimingRule? quotes c with
  | some rule => .error (.pairShadowed c rule)
  | none => .ok ()

def compilePair (language : Language) (delimiters quotes : List Char) (pair : MarkerPair) :
    Except VocabularyError DelimiterPair := do
  let opening ← singleCharacter .pairs pair.opening
  let closing ← singleCharacter .pairs pair.closing
  if opening = closing then throw (.pairSameCharacter pair)
  if opening ∉ delimiters ∨ closing ∉ delimiters then throw (.pairNotDelimiter pair)
  language.unclaimed quotes opening
  language.unclaimed quotes closing
  return ⟨opening, closing⟩

def compileBlockComment (pair : MarkerPair) : Except VocabularyError BlockComment := do
  let opening ← marker .blockComment pair.opening
  let closing ← marker .blockComment pair.closing
  return ⟨opening, closing⟩

def compile (language : Language) : Except VocabularyError Vocabulary := do
  if "" ∈ language.keywords then throw (.emptyEntry .keywords)
  let operators ← language.operators.mapM (marker .operators)
  let lineComments ← language.lineComments.mapM (marker .lineComments)
  let delimiters ← language.delimiters.mapM (singleCharacter .delimiters)
  let quotes ← language.quotes.mapM (singleCharacter .quotes)
  let pairs ← language.pairs.mapM (language.compilePair delimiters quotes)
  let blockComment ← language.blockComment.mapM compileBlockComment
  return {
    keywords := language.keywords
    trueWord := language.trueWord
    falseWord := language.falseWord
    operators, delimiters, pairs, lineComments, blockComment, quotes
    multilineStrings := language.multilineStrings }

end Language

end SourceCheck
