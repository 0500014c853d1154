import SourceCheck.Scan.Lexeme
import SourceCheck.Scan.Span
import SourceCheck.Text.Slice

/-!
The cursor, which passes over a source one character at a time and yields its tokens and faults.
It keeps three rests of the source: behind the last character, from the start of the lexeme and
from the start of the line. A scanning action returns, fails on a broken condition, or never ends.
-/

namespace SourceCheck.Scan

structure Cursor where
  /-- The greatest line or column that can be counted, if there is one. -/
  capacity : Option Int
  rest : List Char
  fromLexeme : List Char
  fromLine : List Char
  position : Position
  /-- The lines that have ended. -/
  lines : List String
  finished : Bool
  deriving DecidableEq, Repr

inductive Failure where
  | slice (failure : Text.SliceFailure)
  | lineCount
  | counterOverflow
  deriving DecidableEq, Repr

/-- `none` is an action that never ends. -/
abbrev Scanning := StateT Cursor (ExceptT Failure Option)

inductive Round (σ α : Type) where
  | again (state : σ)
  | done (a : α)
  deriving DecidableEq, Repr

namespace Cursor

def start (capacity : Option Int) (text : List Char) : Cursor where
  capacity := capacity
  rest := text
  fromLexeme := text
  fromLine := text
  position := .start
  lines := []
  finished := false

/-- Behind the end the input reads as NUL. -/
def peek (c : Cursor) (n : Nat) : Char := (c.rest[n]?).getD '\x00'

def atEnd (c : Cursor) : Bool := c.rest.isEmpty

end Cursor

namespace Scanning

variable {σ α : Type}

def loop (given : Round σ α) (r : σ → Scanning (Round σ α)) : Scanning α :=
  match given with
  | .again state => r state >>= loop (r := r)
  | .done a => pure a
partial_fixpoint

def slicing (result : Except Text.SliceFailure α) : Scanning α :=
  match result with
  | .ok a => pure a
  | .error failure => throw (.slice failure)

def increment (n : Int) : Scanning Int := do
  if (← get).capacity.any (· ≤ n) then throw .counterOverflow
  return n + 1

/-- Ends the line at a newline just passed over, behind which `rest` is left. -/
def endLine (rest : List Char) : Scanning Unit := do
  let cursor ← get
  let (line, later) ← slicing (Text.splitBefore cursor.fromLine rest)
  let lines := cursor.lines ++ [Text.trimmedLine line]
  if cursor.position.line ≠ lines.length then throw .lineCount
  let number ← increment cursor.position.line
  set { cursor with rest, fromLine := later, lines, position := ⟨number, 1⟩ }

def bump : Scanning Unit := do
  let cursor ← get
  match cursor.rest with
  | [] => return ()
  | c :: rest =>
    if c = '\n' then endLine rest
    else
      let column ← increment cursor.position.column
      set { cursor with rest, position := ⟨cursor.position.line, column⟩ }

/-- Passes over characters while more than `target` bytes are left. -/
def bumpTo (target : Nat) : Scanning Unit := loop (.again ()) fun _ => do
  if target < Text.byteLength (← get).rest then
    bump
    return .again ()
  else return .done ()

def bumpBytes (length : Nat) : Scanning Unit := do
  let target ← slicing (Text.lengthBut length (← get).rest)
  bumpTo target

def eatWhile (p : Char → Bool) : Scanning Unit := loop (.again ()) fun _ => do
  let cursor ← get
  if p (cursor.peek 0) && !cursor.atEnd then
    bump
    return .again ()
  else return .done ()

/-- The text since the start of the lexeme; the next lexeme starts here. -/
def extract : Scanning (List Char) := do
  let cursor ← get
  let (text, later) ← slicing (Text.splitBefore cursor.fromLexeme cursor.rest)
  set { cursor with fromLexeme := later }
  return text

/-- The last line is collected only when it has begun. -/
def finishLine : Scanning Unit := do
  let cursor ← get
  if !cursor.fromLine.isEmpty then
    set { cursor with lines := cursor.lines ++ [Text.trimmedLine cursor.fromLine], fromLine := [] }

/-- Whether the closing marker was found; all the input is passed over otherwise. -/
def blockComment (closing : Marker) : Scanning Bool := loop (.again ()) fun _ => do
  let cursor ← get
  if cursor.atEnd then return .done false
  if closing.begins cursor.rest then
    bumpBytes (Text.byteLength closing.chars)
    return .done true
  bump
  return .again ()

/-- Passes over blanks or one comment. An unterminated comment is reported where it opens. -/
def skipRound (v : Vocabulary) : Scanning (Round Unit (Option (Position × Fault))) := do
  let cursor ← get
  if Text.isBlank (cursor.peek 0) && !cursor.atEnd then
    eatWhile Text.isBlank
    return .again ()
  else match v.lineComment? cursor.rest with
  | some marker =>
    bumpBytes (Text.byteLength marker.chars)
    eatWhile (· ≠ '\n')
    return .again ()
  | none =>
    match v.blockComment.filter fun block => block.opening.begins cursor.rest with
    | some block =>
      bumpBytes (Text.byteLength block.opening.chars)
      let terminated ← blockComment block.closing
      let _ ← extract
      if terminated then return .again ()
      else return .done (some (cursor.position, .unterminatedComment block.opening))
    | none =>
      let _ ← extract
      return .done none

def skipIgnored (v : Vocabulary) : Scanning (Option (Position × Fault)) :=
  loop (.again ()) fun _ => skipRound v

/-- Reads a string behind its opening quote. Without `multiline` an unclosed string stops before
the newline. -/
def stringTail (quote : Char) (multiline hasEscapes : Bool) : Scanning (Option TokenKind) :=
  loop (.again hasEscapes) fun hasEscapes => do
    let cursor ← get
    if cursor.atEnd then return .done none
    let c := cursor.peek 0
    if c = quote then
      bump
      return .done (some (.literal (.string hasEscapes)))
    if c = '\n' && !multiline then return .done none
    bump
    if c = '\\' then
      let behind ← get
      if !behind.atEnd && (multiline || behind.peek 0 ≠ '\n') then bump
      return .again true
    else return .again hasEscapes

def stringLiteral (v : Vocabulary) (quote : Char) : Scanning (Option TokenKind) := do
  bump
  stringTail quote v.multilineStrings false

/-- A point counts only with a digit behind it. -/
def fraction : Scanning Bool := do
  let cursor ← get
  if cursor.peek 0 = '.' && (cursor.peek 1).isDigit then
    bump
    eatWhile Char.isDigit
    return true
  else return false

def passSign : Scanning Unit := do
  let cursor ← get
  if cursor.peek 0 = '+' || cursor.peek 0 = '-' then bump

/-- The mark and a sign count only with a digit behind them. -/
def exponent : Scanning Bool := do
  let cursor ← get
  let signed := cursor.peek 1 = '+' || cursor.peek 1 = '-'
  if (cursor.peek 0 = 'e' || cursor.peek 0 = 'E') &&
      (if signed then cursor.peek 2 else cursor.peek 1).isDigit then
    bump
    passSign
    eatWhile Char.isDigit
    return true
  else return false

def numberLiteral : Scanning Literal := do
  eatWhile Char.isDigit
  let hasFraction ← fraction
  let hasExponent ← exponent
  return if hasExponent then .float .scientific
    else if hasFraction then .float .simple
    else .integer

def lexemeKind (v : Vocabulary) (c : Char) : Scanning (Option TokenKind) := do
  if v.isQuote c then stringLiteral v c
  else if c.isDigit then return some (.literal (← numberLiteral))
  else if Text.startsWord c then
    eatWhile Text.continuesWord
    return some .identifier
  else match v.firstOperator? (← get).rest with
  | some marker =>
    bumpBytes (Text.byteLength marker.chars)
    return some .operator
  | none =>
    bump
    return if v.isDelimiter c then some .delimiter else none

def settledKind (v : Vocabulary) (text : String) : TokenKind → TokenKind
  | .identifier => wordKind v text
  | kind => kind

def lexemeEvent (v : Vocabulary) (c : Char) (text : String) (position : Position) :
    Option TokenKind → Event
  | some kind => .token ⟨settledKind v text kind, text, position⟩
  | none =>
    .fault position (if v.isQuote c then .unterminatedString c else .unrecognizedCharacter c)

/-- The next token or fault, or `none` behind the end of the input. -/
def next (v : Vocabulary) : Scanning (Option Event) := do
  if (← get).finished then return none
  match ← skipIgnored v with
  | some (position, fault) => return some (.fault position fault)
  | none =>
    let cursor ← get
    if cursor.atEnd then
      set { cursor with finished := true }
      finishLine
      return some (.token (.endOfInput cursor.position))
    let c := cursor.peek 0
    let kind ← lexemeKind v c
    let text ← extract
    return some (lexemeEvent v c (String.ofList text) cursor.position kind)

def drainLoop (v : Vocabulary) (found : Array Event) : Scanning (List Event) :=
  loop (.again found) fun found => do
    match ← next v with
    | none => return .done found.toList
    | some event => return .again (found.push event)

def drain (v : Vocabulary) : Scanning (List Event) := drainLoop v #[]

def drainToFaultLoop (v : Vocabulary) (found : Array Token) :
    Scanning (List Token × Option (Position × Fault)) :=
  loop (.again found) fun found => do
    match ← next v with
    | none => return .done (found.toList, none)
    | some (.fault position fault) => return .done (found.toList, some (position, fault))
    | some (.token t) => return .again (found.push t)

def drainToFault (v : Vocabulary) : Scanning (List Token × Option (Position × Fault)) :=
  drainToFaultLoop v #[]

def Returns (action : Scanning α) (before : Cursor) (a : α) (after : Cursor) : Prop :=
  (action.run before).run = some (.ok (a, after))

def Ends (action : Scanning α) (c : Cursor) : Prop := ∃ a after, Returns action c a after

def result (action : Scanning α) (c : Cursor) (h : Ends action c) : α × Cursor :=
  match hrun : (action.run c).run with
  | some (.ok r) => r
  | some (.error _) => False.elim (by
      obtain ⟨a, after, hreturns⟩ := h
      rw [Returns, hrun] at hreturns
      cases hreturns)
  | none => False.elim (by
      obtain ⟨a, after, hreturns⟩ := h
      rw [Returns, hrun] at hreturns
      cases hreturns)

end Scanning

end SourceCheck.Scan
