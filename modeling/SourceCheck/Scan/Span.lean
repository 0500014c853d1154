import SourceCheck.Scan.Lexeme

/-!
A source divides into spans: blank runs, comments, tokens, and faults with the input that recovery
skips. Which span begins at a point depends only on the vocabulary and the input from there on, and
every span holds at least the character that it begins with. Runs of the cursor are described by
this division.
-/

namespace SourceCheck.Scan

inductive Fault where
  | unrecognizedCharacter (character : Char)
  | unterminatedString (quote : Char)
  | unterminatedComment (opening : Marker)
  deriving DecidableEq, Repr

inductive SpanKind where
  | blank
  | comment
  | token (kind : TokenKind)
  | fault (reason : Fault)
  deriving DecidableEq, Repr

structure Span where
  kind : SpanKind
  text : List Char
  deriving DecidableEq, Repr

/-- The blank run or comment that begins with `c`, if one does, and the number of characters that
follow in it. -/
def ignored? (v : Vocabulary) (c : Char) (input : List Char) : Option (SpanKind × Nat) :=
  if Text.isBlank c then some (.blank, runLength Text.isBlank input)
  else match v.lineComment? (c :: input) with
  | some m =>
    let marker := m.rest.length
    some (.comment, marker + runLength (· ≠ '\n') (input.drop marker))
  | none =>
    match v.blockComment with
    | none => none
    | some block =>
      if block.opening.begins (c :: input) then
        let marker := block.opening.rest.length
        match block.closing.end? (input.drop marker) with
        | some body => some (.comment, marker + body)
        | none => some (.fault (.unterminatedComment block.opening), input.length)
      else none

/-- The token or fault that begins with `c`, which is neither blank nor part of a comment, and the
number of characters that follow in it. -/
def lexeme (v : Vocabulary) (c : Char) (input : List Char) : SpanKind × Nat :=
  if v.isQuote c then
    let body := StringBody.read c v.multilineStrings input
    (if body.closed then .token (.literal (.string body.hasEscapes))
      else .fault (.unterminatedString c), body.length)
  else if c.isDigit then
    ((.token (.literal (number input).1)), (number input).2)
  else if Text.startsWord c then
    let word := c :: input.takeWhile Text.continuesWord
    (.token (wordKind v (String.ofList word)), runLength Text.continuesWord input)
  else match v.operator? (c :: input) with
  | some m => (.token .operator, m.rest.length)
  | none =>
    if v.isDelimiter c then (.token .delimiter, 0) else (.fault (.unrecognizedCharacter c), 0)

def spanAt (v : Vocabulary) (c : Char) (input : List Char) : SpanKind × Nat :=
  match ignored? v c input with
  | some span => span
  | none => lexeme v c input

/-- The spans of the input that begin after the first `skip` characters, which belong to a span
that began earlier. -/
def spansAfter (v : Vocabulary) : Nat → List Char → List Span
  | _, [] => []
  | skip + 1, _ :: input => spansAfter v skip input
  | 0, c :: input =>
    let (kind, length) := spanAt v c input
    ⟨kind, c :: input.take length⟩ :: spansAfter v length input

def spans (v : Vocabulary) (input : List Char) : List Span := spansAfter v 0 input

inductive Event where
  | token (token : Token)
  | fault (position : Position) (reason : Fault)
  deriving DecidableEq, Repr

namespace Event

def token? : Event → Option Token
  | .token t => some t
  | .fault .. => none

def fault? : Event → Option (Position × Fault)
  | .token _ => none
  | .fault position reason => some (position, reason)

end Event

/-- The tokens and faults of the spans, the first of which begins at `position`, and the end of
the input behind them. -/
def eventsFrom (position : Position) : List Span → List Event
  | [] => [.token (.endOfInput position)]
  | ⟨kind, text⟩ :: rest =>
    let later := eventsFrom (position.after text) rest
    match kind with
    | .token kind => .token ⟨kind, String.ofList text, position⟩ :: later
    | .fault reason => .fault position reason :: later
    | .blank => later
    | .comment => later

def events (v : Vocabulary) (input : List Char) : List Event :=
  eventsFrom .start (spans v input)

end SourceCheck.Scan
