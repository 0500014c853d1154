import SourceCheck.Proofs.Language.Compile
import SourceCheck.Proofs.Scan.Points

/-!
Words, operators, delimiters and characters that nothing accepts, told by the description of the
language alone. A word goes before an operator and an operator before a delimiter; of the operators
the longest goes first, in whatever order the description lists them and however often.
-/

namespace SourceCheck

open Scan

namespace Language

/-- The kind of a word. A boolean literal goes before a keyword, and the true one before the false
one. -/
def wordKind (language : Language) (word : String) : TokenKind :=
  if word = language.trueWord then .literal (.boolean true)
  else if word = language.falseWord then .literal (.boolean false)
  else if word ∈ language.keywords then .keyword
  else .identifier

/-- What the language reads at a position where `c` and then `input` stand, and what is left behind
it. Neither a quote nor a digit is read here. -/
inductive Reads (language : Language) (position : Position) (c : Char) (input : List Char) :
    Event → List Char → Prop where
  | word {word : String} (hstarts : Text.startsWord c = true)
      (hword : word.toList = (c :: input).takeWhile Text.continuesWord) :
      Reads language position c input (.token ⟨language.wordKind word, word, position⟩)
        ((c :: input).dropWhile Text.continuesWord)
  | operator {operator : String} {later : List Char} (hstarts : Text.startsWord c = false)
      (hoperator : operator ∈ language.operators)
      (hinput : c :: input = operator.toList ++ later)
      (hlongest : ∀ other ∈ language.operators, other.toList <+: c :: input →
        other.length ≤ operator.length) :
      Reads language position c input (.token ⟨.operator, operator, position⟩) later
  | delimiter (hstarts : Text.startsWord c = false)
      (hnone : ∀ operator ∈ language.operators, ¬ operator.toList <+: c :: input)
      (hdelimiter : String.singleton c ∈ language.delimiters) :
      Reads language position c input (.token ⟨.delimiter, String.singleton c, position⟩) input
  | unrecognized (hstarts : Text.startsWord c = false)
      (hnone : ∀ operator ∈ language.operators, ¬ operator.toList <+: c :: input)
      (hdelimiter : String.singleton c ∉ language.delimiters) :
      Reads language position c input (.fault position (.unrecognizedCharacter c)) input

variable {language : Language} {v : Vocabulary} {position : Position} {c : Char}
  {input : List Char}

theorem Reads.unique {event other : Event} {rest rest' : List Char}
    (h : language.Reads position c input event rest)
    (h' : language.Reads position c input other rest') : other = event ∧ rest' = rest := by
  cases h with
  | word hstarts hword =>
    cases h' with
    | word _ hword' =>
      obtain rfl := String.toList_inj.mp (hword.trans hword'.symm)
      exact ⟨rfl, rfl⟩
    | operator hnot => simp [hstarts] at hnot
    | delimiter hnot => simp [hstarts] at hnot
    | unrecognized hnot => simp [hstarts] at hnot
  | operator hstarts hoperator hinput hlongest =>
    cases h' with
    | word hnot => simp [hstarts] at hnot
    | operator _ hoperator' hinput' hlongest' =>
      have hlength := Nat.le_antisymm (hlongest' _ hoperator ⟨_, hinput.symm⟩)
        (hlongest _ hoperator' ⟨_, hinput'.symm⟩)
      obtain ⟨hchars, hlater⟩ := List.append_inj (hinput.symm.trans hinput')
        (by rw [String.length_toList, String.length_toList, hlength])
      obtain rfl := String.toList_inj.mp hchars
      exact ⟨rfl, hlater.symm⟩
    | delimiter _ hnone => exact absurd ⟨_, hinput.symm⟩ (hnone _ hoperator)
    | unrecognized _ hnone => exact absurd ⟨_, hinput.symm⟩ (hnone _ hoperator)
  | delimiter hstarts hnone hdelimiter =>
    cases h' with
    | word hnot => simp [hstarts] at hnot
    | operator _ hoperator hinput => exact absurd ⟨_, hinput.symm⟩ (hnone _ hoperator)
    | delimiter => exact ⟨rfl, rfl⟩
    | unrecognized _ _ hnot => exact absurd hdelimiter hnot
  | unrecognized hstarts hnone hdelimiter =>
    cases h' with
    | word hnot => simp [hstarts] at hnot
    | operator _ hoperator hinput => exact absurd ⟨_, hinput.symm⟩ (hnone _ hoperator)
    | delimiter _ _ hmem => exact absurd hmem hdelimiter
    | unrecognized => exact ⟨rfl, rfl⟩

theorem wordKind_written (v : Vocabulary) (word : String) :
    v.written.wordKind word = Scan.wordKind v word := by
  unfold wordKind Scan.wordKind Vocabulary.booleanValue? Vocabulary.written
  by_cases htrue : word = v.trueWord
  · simp only [if_pos htrue]
  by_cases hfalse : word = v.falseWord
  · simp only [if_neg htrue, if_pos hfalse]
  · simp only [if_neg htrue, if_neg hfalse, Vocabulary.isKeyword, List.contains_iff_mem]

theorem not_prefix_written (hnone : v.operator? input = none) :
    ∀ operator ∈ v.written.operators, ¬ operator.toList <+: input := by
  intro operator hoperator hprefix
  obtain ⟨m, hm, rfl⟩ := List.mem_map.mp hoperator
  rw [Marker.toList_text, ← List.isPrefixOf_iff_prefix, ← Marker.begins,
    Vocabulary.operator?_none_iff.mp hnone m hm] at hprefix
  cases hprefix

theorem le_length_written {m : Marker} (hm : v.operator? input = some m) :
    ∀ operator ∈ v.written.operators, operator.toList <+: input →
      operator.length ≤ m.text.length := by
  intro operator hoperator hprefix
  obtain ⟨n, hn, rfl⟩ := List.mem_map.mp hoperator
  rw [Marker.toList_text, ← List.isPrefixOf_iff_prefix, ← Marker.begins] at hprefix
  have hle := (Vocabulary.operator?_spec hm).2.2 n hn hprefix
  rw [← String.length_toList, ← String.length_toList, Marker.toList_text, Marker.toList_text]
  exact Nat.succ_le_succ hle

theorem exists_reads (position : Position) (input : List Char) (hquote : v.isQuote c = false)
    (hdigit : c.isDigit = false) :
    ∃ kind text event later, c :: input = text ++ later ∧ text ≠ [] ∧
      lexeme v c input = (kind, text.length - 1) ∧
      Span.event? position ⟨kind, text⟩ = some event ∧
      v.written.Reads position c input event later := by
  by_cases hstarts : Text.startsWord c = true
  · have hcontinues := continuesWord_of_startsWord hstarts
    have hword : (c :: input).takeWhile Text.continuesWord =
        c :: input.takeWhile Text.continuesWord := List.takeWhile_cons_of_pos hcontinues
    refine ⟨.token (Scan.wordKind v (String.ofList (c :: input.takeWhile Text.continuesWord))),
      c :: input.takeWhile Text.continuesWord, _, (c :: input).dropWhile Text.continuesWord, ?_,
      List.cons_ne_nil _ _, ?_, rfl, ?_⟩
    · rw [← hword, List.takeWhile_append_dropWhile]
    · simp only [lexeme, hquote, hdigit, hstarts, Bool.false_eq_true, ↓reduceIte]
      rfl
    · rw [← wordKind_written]
      exact .word hstarts (String.toList_ofList.trans hword.symm)
  rw [Bool.not_eq_true] at hstarts
  cases hoperator : v.operator? (c :: input) with
  | some m =>
    obtain ⟨hmem, hbegins, -⟩ := Vocabulary.operator?_spec hoperator
    obtain ⟨later, hinput, -⟩ := Marker.begins_cons hbegins
    refine ⟨.token .operator, m.chars, _, later, hinput, List.cons_ne_nil _ _, ?_, rfl, ?_⟩
    · simp [lexeme, hquote, hdigit, hstarts, hoperator]
    · have hlisted : m.text ∈ v.written.operators := List.mem_map_of_mem hmem
      have htext : c :: input = m.text.toList ++ later := by rw [Marker.toList_text, hinput]
      exact .operator hstarts hlisted htext (le_length_written hoperator)
  | none =>
    have hnone := not_prefix_written hoperator
    by_cases hdelimiter : v.isDelimiter c = true
    · refine ⟨.token .delimiter, [c], _, input, rfl, List.cons_ne_nil _ _, ?_, rfl, ?_⟩
      · simp [lexeme, hquote, hdigit, hstarts, hoperator, hdelimiter]
      · refine .delimiter hstarts hnone (singleton_mem_iff.mpr ?_)
        rwa [Vocabulary.isDelimiter, List.contains_iff_mem] at hdelimiter
    · refine ⟨.fault (.unrecognizedCharacter c), [c], _, input, rfl, List.cons_ne_nil _ _, ?_, rfl,
        ?_⟩
      · simp [lexeme, hquote, hdigit, hstarts, hoperator, hdelimiter]
      · refine .unrecognized hstarts hnone fun hmem => hdelimiter ?_
        rw [Vocabulary.isDelimiter, List.contains_iff_mem]
        exact singleton_mem_iff.mp hmem

end Language

/-- Where neither a quote nor a digit is ahead, the scan yields the one thing that the language
reads there, and goes on right behind it. -/
theorem lexemes_follow_priority {language : Language} {v : Vocabulary} {source : Source}
    {found : List Event} {before : Cursor} {passed input : List Char} {c : Char}
    (hv : language.compile = .ok v) (h : source.LexemeAhead v found before passed c input)
    (hquote : String.singleton c ∉ language.quotes) (hdigit : c.isDigit = false) :
    ∃ event rest, language.Reads (.behind passed) c input event rest ∧
      (∀ event' rest', language.Reads (.behind passed) c input event' rest' →
        event' = event ∧ rest' = rest) ∧
      source.GoesOn v found before event rest := by
  obtain ⟨rfl, -, -⟩ := Language.compile_eq_ok_iff.mp hv
  have hquote : v.isQuote c = false := by
    rw [← Bool.not_eq_true, Vocabulary.isQuote, List.contains_iff_mem]
    intro hmem
    exact hquote (Language.singleton_mem_iff.mpr hmem)
  obtain ⟨kind, text, event, rest, hinput, hne, hlexeme, hevent, hreads⟩ :=
    Language.exists_reads (.behind passed) input hquote hdigit
  exact ⟨event, rest, hreads, fun _ _ hother => hreads.unique hother,
    h.goesOn_behind hinput hne hlexeme hevent⟩

/-- Two operators begin the input, and a third one the rest of it. The longer of the two is read. -/
theorem lexemes_follow_priority_longest :
    ∃ v, Language.standard.compile = .ok v ∧
      Language.standard.Reads ⟨1, 1⟩ '<' ['<', '=', 'x'] (.token ⟨.operator, "<<", ⟨1, 1⟩⟩)
        ['=', 'x'] ∧
      Source.GoesOn ⟨"input", "<<=x"⟩ v [] (.start none "<<=x".toList)
        (.token ⟨.operator, "<<", ⟨1, 1⟩⟩) ['=', 'x'] := by
  obtain ⟨v, hv, hignored⟩ := Language.standard_satisfies (p := fun v =>
    ignored? v '<' ['<', '=', 'x'] = none) (by decide +kernel)
  have hpoint := Source.lexemeAhead_start ⟨"input", "<<=x"⟩ rfl hignored
  obtain ⟨event, rest, hreads, hunique, hgoes⟩ :=
    lexemes_follow_priority hv hpoint (by decide +kernel) (by decide)
  have hlongest : Language.standard.Reads ⟨1, 1⟩ '<' ['<', '=', 'x']
      (.token ⟨.operator, "<<", ⟨1, 1⟩⟩) ['=', 'x'] :=
    .operator (by decide +kernel) (by decide +kernel) rfl (by decide +kernel)
  obtain ⟨rfl, rfl⟩ := hunique _ _ hlongest
  exact ⟨v, hv, hlongest, hgoes⟩

end SourceCheck
