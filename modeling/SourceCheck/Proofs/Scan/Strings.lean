import SourceCheck.Proofs.Language.Compile
import SourceCheck.Proofs.Scan.LineEnds
import SourceCheck.Proofs.Scan.Points

/-!
The strings of a vocabulary. Between two quotes stand plain characters and escapes, and a text
divides into them in one way only. What the scanner reads as a string is what divides so; where
nothing does, the scan goes on behind the line, or not at all.
-/

namespace SourceCheck

namespace Scan

/-- What stands between two quotes. Where the backslash is the quote, nothing is escaped. -/
inductive StringPart (quote : Char) (multiline : Bool) where
  | plain (c : Char) (hquote : c ≠ quote) (hescape : c ≠ '\\')
    (hline : multiline = true ∨ c ≠ '\n')
  | escape (c : Char) (hquote : quote ≠ '\\') (hline : multiline = true ∨ c ≠ '\n')

namespace StringPart

variable {quote : Char} {multiline : Bool}

def chars : StringPart quote multiline → List Char
  | plain c .. => [c]
  | escape c .. => ['\\', c]

def isEscape : StringPart quote multiline → Bool
  | plain .. => false
  | escape .. => true

def textOf (parts : List (StringPart quote multiline)) : List Char := parts.flatMap chars

def quoted (parts : List (StringPart quote multiline)) : List Char :=
  quote :: (textOf parts ++ [quote])

theorem textOf_cons (part : StringPart quote multiline)
    (parts : List (StringPart quote multiline)) :
    textOf (part :: parts) = part.chars ++ textOf parts := List.flatMap_cons

theorem chars_ne_quote (part : StringPart quote multiline) (input later : List Char) :
    part.chars ++ input ≠ quote :: later := by
  intro h
  cases part with
  | plain c hquote => exact hquote (List.cons.inj h).1
  | escape c hquote => exact hquote (List.cons.inj h).1.symm

theorem eq_of_chars_append {part other : StringPart quote multiline} {input later : List Char}
    (h : part.chars ++ input = other.chars ++ later) : part = other ∧ input = later := by
  cases part with
  | plain c hquote hescape =>
    cases other with
    | plain d =>
      obtain ⟨rfl, hrest⟩ := List.cons.inj h
      exact ⟨rfl, hrest⟩
    | escape d => exact absurd (List.cons.inj h).1 hescape
  | escape c hquote =>
    cases other with
    | plain d hquote' hescape => exact absurd (List.cons.inj h).1.symm hescape
    | escape d =>
      obtain ⟨-, h⟩ := List.cons.inj h
      obtain ⟨rfl, hrest⟩ := List.cons.inj h
      exact ⟨rfl, hrest⟩

/-- A text divides into parts up to a quote in one way only. -/
theorem eq_of_textOf_append {parts other : List (StringPart quote multiline)}
    {later later' : List Char}
    (h : textOf parts ++ quote :: later = textOf other ++ quote :: later') : parts = other := by
  induction parts generalizing other with
  | nil =>
    cases other with
    | nil => rfl
    | cons part other =>
      rw [textOf_cons, List.append_assoc] at h
      exact absurd h.symm (chars_ne_quote part _ _)
  | cons part parts ih =>
    rw [textOf_cons, List.append_assoc] at h
    cases other with
    | nil => exact absurd h (chars_ne_quote part _ _)
    | cons part' other =>
      rw [textOf_cons, List.append_assoc] at h
      obtain ⟨rfl, hrest⟩ := eq_of_chars_append h
      rw [ih hrest]

theorem quoted_append {parts : List (StringPart quote multiline)} {input later : List Char}
    (h : quote :: input = quoted parts ++ later) : input = textOf parts ++ quote :: later := by
  simpa [quoted] using h

end StringPart

namespace StringBody

open StringPart

variable {quote : Char} {multiline : Bool}

theorem read_part (part : StringPart quote multiline) (input : List Char) :
    read quote multiline (part.chars ++ input) =
      if part.isEscape then (read quote multiline input).escaped 2
      else (read quote multiline input).extend 1 := by
  cases part with
  | plain c hquote hescape hline =>
    apply read_plain hquote _ hescape
    rintro ⟨hnewline, hsingle⟩
    exact hline.elim hsingle (· hnewline)
  | escape c hquote hline =>
    have hover : ¬ (c = '\n' ∧ ¬ multiline) := by
      rintro ⟨hnewline, hsingle⟩
      exact hline.elim hsingle (· hnewline)
    have hescape : ¬ ('\\' = '\n' ∧ ¬ multiline) := fun h => absurd h.1 (by decide)
    simp only [chars, List.cons_append, List.nil_append, read, if_neg hquote.symm, if_neg hescape,
      if_neg hover, isEscape, ↓reduceIte]

theorem read_parts (parts : List (StringPart quote multiline)) (later : List Char) :
    read quote multiline (textOf parts ++ quote :: later) =
      ⟨true, parts.any isEscape, (textOf parts).length + 1⟩ := by
  induction parts with
  | nil => exact read_quote quote multiline later
  | cons part parts ih =>
    rw [textOf_cons, List.append_assoc, read_part, ih]
    cases part with
    | plain => simp [extend, isEscape, chars]
    | escape => simp [escaped, isEscape, chars]

theorem exists_parts {input : List Char} (hnewline : quote ≠ '\n')
    (h : (read quote multiline input).closed = true) :
    ∃ (parts : List (StringPart quote multiline)) (later : List Char),
      input = textOf parts ++ quote :: later := by
  have hline {c : Char} (hstop : ¬ (c = '\n' ∧ ¬ multiline)) : multiline = true ∨ c ≠ '\n' := by
    rcases Classical.not_and_iff_not_or_not.mp hstop with hc | hmultiline
    · exact .inr hc
    · exact .inl (Classical.not_not.mp hmultiline)
  fun_induction read quote multiline input with
  | case1 => cases h
  | case2 input => exact ⟨[], input, rfl⟩
  | case3 => cases h
  | case4 => cases h
  | case5 d rest hstop hquote hescape ih =>
    obtain ⟨rfl, hsingle⟩ := hstop
    rw [Bool.not_eq_true] at hsingle
    subst hsingle
    rw [read_newline hnewline] at h
    cases h
  | case6 d rest hstop hquote hescape ih =>
    obtain ⟨parts, later, rfl⟩ := ih h
    exact ⟨escape d (Ne.symm hquote) (hline hstop) :: parts, later, rfl⟩
  | case7 c input hquote hstop hescape ih =>
    obtain ⟨parts, later, rfl⟩ := ih h
    exact ⟨plain c hquote hescape (hline hstop) :: parts, later, rfl⟩

theorem closed_iff {input : List Char} (hnewline : quote ≠ '\n') :
    (read quote multiline input).closed = true ↔
      ∃ (parts : List (StringPart quote multiline)) (later : List Char),
        quote :: input = quoted parts ++ later := by
  constructor
  · intro hclosed
    obtain ⟨parts, later, rfl⟩ := exists_parts hnewline hclosed
    exact ⟨parts, later, by simp [quoted]⟩
  · rintro ⟨parts, later, hinput⟩
    rw [quoted_append hinput, read_parts]

theorem newline_not_mem_read (hnewline : quote ≠ '\n') (input : List Char) :
    '\n' ∉ input.take (read quote false input).length := by
  obtain ⟨line, hline, rfl | ⟨later, rfl⟩⟩ := Text.exists_line input
  · intro hmem
    exact hline (List.mem_of_mem_take hmem)
  · rw [read_single_before_newline hnewline, List.take_append_of_le_length (read_le _ _ line)]
    intro hmem
    exact hline (List.mem_of_mem_take hmem)

/-- An open string reaches up to the next newline, or to the end of the input. -/
theorem drop_of_open_eq {input : List Char} (hnewline : quote ≠ '\n')
    (h : (read quote multiline input).closed = false) :
    input.drop (read quote multiline input).length =
      if multiline then [] else input.dropWhile (· ≠ '\n') := by
  cases multiline with
  | true =>
    rcases drop_of_open h with hend | ⟨hsingle, -⟩
    · exact hend
    · cases hsingle
  | false =>
    have hline : ∀ c ∈ input.take (read quote false input).length, decide (c ≠ '\n') = true := by
      intro c hc
      apply decide_eq_true
      rintro rfl
      exact newline_not_mem_read hnewline input hc
    have hrest : (input.drop (read quote false input).length).dropWhile (· ≠ '\n') =
        input.drop (read quote false input).length := by
      rcases drop_of_open h with hend | ⟨-, later, hend⟩
      · rw [hend]
        rfl
      · rw [hend]
        exact List.dropWhile_cons_of_neg (by decide)
    have hjoin : (input.take (read quote false input).length ++
        input.drop (read quote false input).length).dropWhile (· ≠ '\n') = _ :=
      List.dropWhile_append_of_pos hline
    rw [List.take_append_drop, hrest] at hjoin
    exact hjoin.symm

end StringBody

theorem lexeme_of_parts {v : Vocabulary} {quote : Char} (hquote : v.isQuote quote = true)
    (parts : List (StringPart quote v.multilineStrings)) (later : List Char) :
    lexeme v quote (StringPart.textOf parts ++ quote :: later) =
      (.token (.literal (.string (parts.any StringPart.isEscape))),
        (StringPart.quoted parts).length - 1) := by
  simp [lexeme, hquote, StringBody.read_parts, StringPart.quoted]

end Scan

open Scan StringPart

/-- At a quote, the text up to a closing quote is one string in one way only, and the scan yields
it. Without a closing quote the scan yields one fault and goes on behind the line, or not at all
where strings may hold newlines. -/
theorem strings_are_read_exactly {source : Source} {v : Vocabulary} {found : List Event}
    {before : Cursor} {passed input : List Char} {q : Char}
    (h : source.LexemeAhead v found before passed q input) (hquote : v.isQuote q = true) :
    (∀ (parts : List (StringPart q v.multilineStrings)) (later : List Char),
      q :: input = quoted parts ++ later →
        (∀ (other : List (StringPart q v.multilineStrings)) (later' : List Char),
          q :: input = quoted other ++ later' → other = parts) ∧
        source.GoesOn v found before
          (.token ⟨.literal (.string (parts.any isEscape)), String.ofList (quoted parts),
            .behind passed⟩) later) ∧
    ((¬ ∃ (parts : List (StringPart q v.multilineStrings)) (later : List Char),
      q :: input = quoted parts ++ later) →
        source.GoesOn v found before (.fault (.behind passed) (.unterminatedString q))
          (if v.multilineStrings then [] else input.dropWhile (· ≠ '\n'))) := by
  have hnewline := ne_newline_of_not_blank (Bool.eq_false_iff.mp h.not_blank)
  constructor
  · intro parts later hinput
    have hparts := quoted_append hinput
    constructor
    · intro other later' hother
      apply eq_of_textOf_append
      exact (quoted_append hother).symm.trans hparts
    · subst hparts
      exact h.goesOn_behind hinput (List.cons_ne_nil _ _) (lexeme_of_parts hquote parts later) rfl
  · intro hnone
    have hopen : (StringBody.read q v.multilineStrings input).closed = false := by
      rwa [← StringBody.closed_iff hnewline, Bool.not_eq_true] at hnone
    have hgoes := h.goesOn (lexeme_of_open hquote hopen) rfl
    rwa [StringBody.drop_of_open_eq hnewline hopen] at hgoes

/-- An escaped quote, and a backslash that does not reach over the end of the line. -/
theorem strings_are_read_exactly_escaped :
    ∃ v, Language.standard.compile = .ok v ∧
      Source.GoesOn ⟨"input", "'it\\'s' x"⟩ v [] (.start none "'it\\'s' x".toList)
        (.token ⟨.literal (.string true), "'it\\'s'", ⟨1, 1⟩⟩) [' ', 'x'] ∧
      Source.GoesOn ⟨"input", "'it\\\nx"⟩ v [] (.start none "'it\\\nx".toList)
        (.fault ⟨1, 1⟩ (.unterminatedString '\'')) ['\n', 'x'] := by
  obtain ⟨v, hv, hquote, hsingle, hclosed, hopen⟩ := Language.standard_satisfies (p := fun v =>
    v.isQuote '\'' = true ∧ v.multilineStrings = false ∧
      ignored? v '\'' ['i', 't', '\\', '\'', 's', '\'', ' ', 'x'] = none ∧
      ignored? v '\'' ['i', 't', '\\', '\n', 'x'] = none) (by decide +kernel)
  have hstring := (strings_are_read_exactly
      (Source.lexemeAhead_start ⟨"input", "'it\\'s' x"⟩ rfl hclosed) hquote).1
    [.plain 'i' (by decide) (by decide) (.inr (by decide)),
      .plain 't' (by decide) (by decide) (.inr (by decide)),
      .escape '\'' (by decide) (.inr (by decide)),
      .plain 's' (by decide) (by decide) (.inr (by decide))] [' ', 'x'] rfl
  have hfault := (strings_are_read_exactly
      (Source.lexemeAhead_start ⟨"input", "'it\\\nx"⟩ rfl hopen) hquote).2 (by
    rw [← StringBody.closed_iff (by decide), hsingle]
    decide +kernel)
  rw [hsingle] at hfault
  exact ⟨v, hv, hstring.2, hfault⟩

end SourceCheck
