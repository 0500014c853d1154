import SourceCheck.Proofs.Language.Markers
import SourceCheck.Proofs.Scan.Moves

/-!
What the scanning rules do, each stated against the function that counts how far its lexeme
reaches. Every rule ends on every input.
-/

namespace SourceCheck

namespace Scan

theorem runLength_cons {p : Char → Bool} {c : Char} (hc : p c = true) (input : List Char) :
    runLength p (c :: input) = 1 + runLength p input := by
  simp [runLength, hc]
  omega

namespace Scanning

open Cursor

variable {capacity : Option Int} {text : List Char} (fits : Fits capacity text)
variable {input : List Char} {start place : Nat} {c : Char}

include fits

theorem marker_returns {m : Marker} (hbegins : m.begins (c :: input) = true)
    (h : text.drop place = c :: input) :
    Returns (bumpBytes (Text.byteLength m.chars)) (placed capacity text start place) ⟨⟩
      (placed capacity text start (place + 1 + m.rest.length)) := by
  obtain ⟨later, hinput, -⟩ := Marker.begins_cons hbegins
  exact (bumpBytes_returns fits (h.trans hinput)).congr rfl
    (congrArg _ (by rw [Marker.length_chars]; omega))

theorem wholeRun_returns {p : Char → Bool} (hc : p c = true) (h : text.drop place = c :: input) :
    Returns (eatWhile p) (placed capacity text start place) ⟨⟩
      (placed capacity text start (place + 1 + runLength p input)) := by
  refine (eatWhile_returns fits p h).congr rfl (congrArg _ ?_)
  rw [runLength_cons hc]
  omega

theorem blockComment_returns (closing : Marker) (h : text.drop place = input) :
    Returns (blockComment closing) (placed capacity text start place) (closing.end? input).isSome
      (placed capacity text start (place + (closing.end? input).getD input.length)) := by
  fun_induction closing.end? input generalizing place with
  | case1 =>
    refine .done (.read ?_)
    rw [if_pos (atEnd_placed_nil h)]
    exact .pure _ _
  | case2 c input hbegins =>
    refine .done (.read ?_)
    rw [if_neg (not_atEnd_placed h), rest_placed h, if_pos hbegins]
    refine .bind (marker_returns fits hbegins h) ((Returns.pure _ _).congr rfl (congrArg _ ?_))
    rw [Option.getD_some]
    omega
  | case3 c input hbegins ih =>
    have hplace : place + ((closing.end? input).map (· + 1)).getD (c :: input).length =
        place + 1 + (closing.end? input).getD input.length := by
      cases closing.end? input <;> simp <;> omega
    rw [Option.isSome_map, hplace]
    refine .again (.read ?_) (ih (drop_next h))
    rw [if_neg (not_atEnd_placed h), rest_placed h, if_neg hbegins]
    exact .bind (bump_returns fits h) (.pure _ _)

def stringKind (escapes : Bool) (body : StringBody) : Option TokenKind :=
  if body.closed then some (.literal (.string (escapes || body.hasEscapes))) else none

omit fits in
theorem stringKind_escaped (escapes : Bool) (body : StringBody) (count : Nat) :
    stringKind escapes (body.escaped count) = stringKind true body := by
  simp [stringKind, StringBody.escaped]

theorem stringTail_returns (quote : Char) (multiline escapes : Bool)
    (h : text.drop place = input) :
    Returns (stringTail quote multiline escapes) (placed capacity text start place)
      (stringKind escapes (StringBody.read quote multiline input))
      (placed capacity text start (place + (StringBody.read quote multiline input).length)) := by
  fun_induction StringBody.read quote multiline input generalizing place escapes with
  | case1 =>
    refine .done (.read ?_)
    rw [if_pos (atEnd_placed_nil h)]
    exact .pure _ _
  | case2 rest =>
    refine .done (.read ?_)
    rw [if_neg (not_atEnd_placed h), first_placed h]
    simp only [↓reduceIte]
    refine .bind (bump_returns fits h) ?_
    exact (Returns.pure _ _).congr (by simp [stringKind]) rfl
  | case3 d rest hquote hstop =>
    refine .done (.read ?_)
    rw [if_neg (not_atEnd_placed h), first_placed h]
    simp only [hquote, ↓reduceIte]
    rw [if_pos (by simpa using hstop)]
    exact .pure _ _
  | case4 hquote hstop =>
    have hbehind := drop_next h
    have hlast : Returns (stringTail quote multiline true)
        (placed capacity text start (place + 1)) none
        (placed capacity text start (place + 1)) := by
      refine .done (.read ?_)
      rw [if_pos (atEnd_placed_nil hbehind)]
      exact .pure _ _
    refine .again (.read ?_) hlast
    rw [if_neg (not_atEnd_placed h), first_placed h]
    simp only [hquote, ↓reduceIte]
    rw [if_neg (by simp)]
    refine .bind (bump_returns fits h) (.read ?_)
    rw [atEnd_placed hbehind, if_neg (by simp)]
    exact .pure _ _
  | case5 d rest hnewline hquote hstop ih =>
    refine .again (.read ?_) ((ih true (drop_next h)).congr
      (stringKind_escaped escapes _ 1).symm
      (congrArg _ (by simp only [StringBody.escaped]; omega)))
    rw [if_neg (not_atEnd_placed h), first_placed h]
    simp only [hquote, ↓reduceIte]
    rw [if_neg (by simp)]
    refine .bind (bump_returns fits h) (.read ?_)
    rw [first_placed (drop_next h), if_neg (by simp [hnewline])]
    exact .pure _ _
  | case6 d rest hnewline hquote hstop ih =>
    have hbehind := drop_next h
    refine .again (.read ?_) ((ih true (drop_next hbehind)).congr
      (stringKind_escaped escapes _ 2).symm
      (congrArg _ (by simp only [StringBody.escaped]; omega)))
    rw [if_neg (not_atEnd_placed h), first_placed h]
    simp only [hquote, ↓reduceIte]
    rw [if_neg (by simp)]
    refine .bind (bump_returns fits h) (.read ?_)
    have hover : (!false && (multiline || decide (d ≠ '\n'))) = true := by
      cases multiline <;> simp_all
    rw [first_placed hbehind, atEnd_placed hbehind, List.isEmpty_cons, if_pos hover]
    exact .bind (bump_returns fits hbehind) (.pure _ _)
  | case7 d rest hquote hstop hescape ih =>
    refine .again (.read ?_) ((ih escapes (drop_next h)).congr rfl
      (congrArg _ (by simp only [StringBody.extend]; omega)))
    rw [if_neg (not_atEnd_placed h), first_placed h]
    simp only [hquote, ↓reduceIte, hescape]
    rw [if_neg (by simpa using hstop)]
    exact .bind (bump_returns fits h) (.pure _ _)

omit fits in
theorem isDigit_head (input : List Char) :
    ((input[0]?).getD '\x00').isDigit = decide (digitsLength input ≠ 0) := by
  cases input with
  | nil => rfl
  | cons c input =>
    rw [List.getElem?_cons_zero, Option.getD_some]
    cases hc : c.isDigit <;> simp [digitsLength, runLength, hc]

omit fits in
theorem fractionLength_of_ne {c : Char} (hc : c ≠ '.') (input : List Char) :
    fractionLength (c :: input) = 0 := by
  unfold fractionLength
  split
  · next heq => exact absurd (List.cons.inj heq).1 hc
  · rfl

theorem fraction_returns (h : text.drop place = input) :
    Returns fraction (placed capacity text start place) (decide (fractionLength input ≠ 0))
      (placed capacity text start (place + fractionLength input)) := by
  refine .read ?_
  cases input with
  | nil =>
    rw [peek_placed h, if_neg (by simp)]
    exact .pure _ _
  | cons c input =>
    have hdigit : (placed capacity text start place).peek 1 = (input[0]?).getD '\x00' := by
      rw [peek_placed h, List.getElem?_cons_succ]
    rw [first_placed h, hdigit, isDigit_head]
    by_cases hc : c = '.'
    · subst hc
      by_cases hd : digitsLength input = 0
      · rw [if_neg (by simp [hd])]
        exact (Returns.pure _ _).congr (by simp [fractionLength, hd]) (by simp [fractionLength, hd])
      · rw [if_pos (by simp [hd])]
        refine .bind (bump_returns fits h) (.bind (eatWhile_returns fits _ (drop_next h)) ?_)
        exact (Returns.pure _ _).congr (by simp [fractionLength, hd])
          (congrArg _ (by rw [fractionLength, if_neg hd, digitsLength]; omega))
    · rw [if_neg (by simp [hc]), fractionLength_of_ne hc]
      exact .pure _ _

omit fits in
theorem signLength_eq (input : List Char) :
    signLength input =
      if (input[0]?).getD '\x00' = '+' ∨ (input[0]?).getD '\x00' = '-' then 1 else 0 := by
  unfold signLength
  split
  · simp
  · simp
  · next hplus hminus =>
    cases input with
    | nil => simp
    | cons c input =>
      rw [if_neg]
      rintro (rfl | rfl)
      · exact hplus input rfl
      · exact hminus input rfl

theorem passSign_returns (h : text.drop place = input) :
    Returns passSign (placed capacity text start place) ⟨⟩
      (placed capacity text start (place + signLength input)) := by
  refine .read ?_
  rw [peek_placed h, signLength_eq]
  by_cases hs : (input[0]?).getD '\x00' = '+' ∨ (input[0]?).getD '\x00' = '-'
  · rw [if_pos (by simpa using hs), if_pos hs]
    cases input with
    | nil => simp at hs
    | cons c input => exact bump_returns fits h
  · rw [if_neg (by simpa using hs), if_neg hs]
    exact .pure _ _

theorem exponent_returns (h : text.drop place = input) :
    Returns exponent (placed capacity text start place) (decide (exponentLength input ≠ 0))
      (placed capacity text start (place + exponentLength input)) := by
  refine .read ?_
  cases input with
  | nil =>
    rw [peek_placed h]
    simp only [List.getElem?_nil, Option.getD_none]
    rw [if_neg (by simp)]
    exact .pure _ _
  | cons c input =>
    have hdigit : ((if (decide ((placed capacity text start place).peek 1 = '+') ||
        decide ((placed capacity text start place).peek 1 = '-')) = true
        then (placed capacity text start place).peek 2
        else (placed capacity text start place).peek 1).isDigit) =
          decide (digitsLength (input.drop (signLength input)) ≠ 0) := by
      rw [peek_placed h, peek_placed h, List.getElem?_cons_succ, List.getElem?_cons_succ,
        ← isDigit_head, List.getElem?_drop, signLength_eq]
      simp only [Bool.or_eq_true, decide_eq_true_eq]
      split <;> rfl
    simp only
    rw [first_placed h, hdigit]
    by_cases hc : c = 'e' ∨ c = 'E'
    · by_cases hd : digitsLength (input.drop (signLength input)) = 0
      · have hnone : exponentLength (c :: input) = 0 := by simp [exponentLength, hd]
        rw [if_neg (by simp [hd]), hnone]
        exact .pure _ _
      · have hlength : exponentLength (c :: input) =
            digitsLength (input.drop (signLength input)) + signLength input + 1 := by
          simp [exponentLength, hc, hd]
        have hbehind := drop_next h
        rw [if_pos (by simpa [hd] using hc), hlength]
        refine .bind (bump_returns fits h) (.bind (passSign_returns fits hbehind) ?_)
        refine .bind (eatWhile_returns fits _ (drop_further hbehind _)) ?_
        exact (Returns.pure _ _).congr (by simp)
          (congrArg _ (by rw [digitsLength]; omega))
    · have hnone : exponentLength (c :: input) = 0 := by simp [exponentLength, hc]
      rw [if_neg (by simpa using fun hmark => absurd hmark hc), hnone]
      exact .pure _ _

theorem numberLiteral_returns (h : text.drop place = c :: input) (hc : c.isDigit = true) :
    Returns numberLiteral (placed capacity text start place) (number input).1
      (placed capacity text start (place + 1 + (number input).2)) := by
  have hfraction := drop_further (drop_next h) (digitsLength input)
  have hexponent := drop_further hfraction (fractionLength (input.drop (digitsLength input)))
  rw [List.drop_drop] at hexponent
  refine .bind (wholeRun_returns fits hc h) ?_
  rw [← digitsLength]
  refine .bind (fraction_returns fits hfraction) (.bind (exponent_returns fits hexponent) ?_)
  exact (Returns.pure _ _).congr (by simp [number]) (congrArg _ (by simp only [number]; omega))

end Scanning

theorem continuesWord_of_startsWord {c : Char} (h : Text.startsWord c = true) :
    Text.continuesWord c = true := by
  simp only [Text.startsWord, Text.continuesWord, Text.isAlphanumeric, Bool.or_eq_true] at *
  exact h.imp_left Or.inl

def Span.event? (position : Position) : Span → Option Event
  | ⟨.token kind, text⟩ => some (.token ⟨kind, String.ofList text, position⟩)
  | ⟨.fault reason, _⟩ => some (.fault position reason)
  | ⟨.blank, _⟩ => none
  | ⟨.comment, _⟩ => none

def Event.isEnd : Event → Bool
  | .token t => t.isEnd
  | .fault .. => false

theorem wordKind_ne_endOfInput (v : Vocabulary) (word : String) :
    wordKind v word ≠ .endOfInput := by
  unfold wordKind
  split
  · simp
  · split <;> simp

theorem lexeme_ne_endOfInput (v : Vocabulary) (c : Char) (input : List Char) :
    (lexeme v c input).1 ≠ .token .endOfInput := by
  unfold lexeme
  split
  · simp only
    split <;> simp
  split
  · simp
  split
  · exact fun h => wordKind_ne_endOfInput v _ (SpanKind.token.inj h)
  split
  · simp
  · split <;> simp

namespace Scanning

open Cursor

variable {capacity : Option Int} {text : List Char} (fits : Fits capacity text)
variable {input : List Char} {start place : Nat} {c : Char}

include fits

theorem stringLiteral_returns (v : Vocabulary) (h : text.drop place = c :: input) :
    Returns (stringLiteral v c) (placed capacity text start place)
      (stringKind false (StringBody.read c v.multilineStrings input))
      (placed capacity text start
        (place + 1 + (StringBody.read c v.multilineStrings input).length)) :=
  .bind (bump_returns fits h) (stringTail_returns fits _ _ _ (drop_next h))

/-- The rule that the first character selects reads the span that begins with it. -/
theorem lexemeKind_returns (start : Nat) (v : Vocabulary) (h : text.drop place = c :: input) :
    ∃ kind, Returns (lexemeKind v c) (placed capacity text start place) kind
        (placed capacity text start (place + 1 + (lexeme v c input).2)) ∧
      ∀ position, Span.event? position
          ⟨(lexeme v c input).1, c :: input.take (lexeme v c input).2⟩ =
        some (lexemeEvent v c (String.ofList (c :: input.take (lexeme v c input).2)) position
          kind) := by
  unfold lexemeKind lexeme
  by_cases hquote : v.isQuote c = true
  · simp only [hquote, ↓reduceIte]
    refine ⟨_, stringLiteral_returns fits v h, fun position => ?_⟩
    cases hclosed : (StringBody.read c v.multilineStrings input).closed <;>
      simp [stringKind, hclosed, Span.event?, lexemeEvent, settledKind, hquote]
  simp only [hquote]
  by_cases hdigit : c.isDigit = true
  · simp only [hdigit, ↓reduceIte]
    exact ⟨_, .bind (numberLiteral_returns fits h hdigit) (.pure _ _), fun _ => rfl⟩
  simp only [hdigit]
  by_cases hword : Text.startsWord c = true
  · simp only [hword, ↓reduceIte]
    refine ⟨_, .bind (wholeRun_returns fits (continuesWord_of_startsWord hword) h) (.pure _ _),
      fun position => ?_⟩
    have htake : input.takeWhile Text.continuesWord =
        input.take (runLength Text.continuesWord input) :=
      List.prefix_iff_eq_take.mp (List.takeWhile_prefix _)
    simp only [Span.event?, lexemeEvent, settledKind, htake, Bool.false_eq_true, ↓reduceIte]
  simp only [hword]
  cases hoperator : v.operator? (c :: input) with
  | some m =>
    refine ⟨some .operator, .read ?_, fun _ => rfl⟩
    rw [rest_placed h, Vocabulary.firstOperator?_eq, hoperator]
    exact .bind (marker_returns fits (Vocabulary.operator?_begins hoperator) h) (.pure _ _)
  | none =>
    refine ⟨if v.isDelimiter c then some .delimiter else none, .read ?_, fun position => ?_⟩
    · rw [rest_placed h, Vocabulary.firstOperator?_eq, hoperator]
      refine .bind (bump_returns fits h) ?_
      split <;> exact .pure _ _
    · cases hdelimiter : v.isDelimiter c <;>
        simp [Span.event?, lexemeEvent, settledKind, hquote]

end Scanning

end Scan

end SourceCheck
