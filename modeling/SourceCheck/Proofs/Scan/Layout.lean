import SourceCheck.Proofs.Language.Compile
import SourceCheck.Proofs.Scan.Stops

/-!
Lexemes in any layout. A text that alone is one token is the same token in a longer text, as long as
blanks set it apart: no rule takes a blank into the token before it or looks past it.
-/

namespace SourceCheck

structure LaidWord where
  gap : List Char
  word : String
  kind : TokenKind

namespace LaidWord

def text (w : LaidWord) : List Char := w.gap ++ w.word.toList

def lexeme (w : LaidWord) : TokenKind × String := (w.kind, w.word)

end LaidWord

/-- Words in a row. Blanks may stand before the first and behind the last, and some stand between
any two. -/
structure Layout where
  words : List LaidWord
  trailing : List Char
  blank_gaps : ∀ w ∈ words, Text.Blank w.gap
  blank_trailing : Text.Blank trailing
  separated : ∀ w ∈ words.tail, w.gap ≠ []

namespace Layout

def textOf (words : List LaidWord) (trailing : List Char) : List Char :=
  words.flatMap LaidWord.text ++ trailing

def text (layout : Layout) : String := String.ofList (textOf layout.words layout.trailing)

end Layout

namespace Source

def lexemes (source : Source) (v : Vocabulary) : List (TokenKind × String) :=
  (source.scan v).buffer.tokens.map fun t => (t.kind, t.text)

structure IsToken (source : Source) (v : Vocabulary) (kind : TokenKind) : Prop where
  diagnostics : (source.scan v).diagnostics = []
  lexemes : source.lexemes v = [(kind, source.text), (.endOfInput, "")]

theorem lexemes_eq (source : Source) (v : Vocabulary) :
    source.lexemes v =
      (Scan.spans v source.text.toList).filterMap Scan.Span.lexeme? ++ [(.endOfInput, "")] := by
  rw [lexemes, tokens_scan]
  exact Scan.lexemes_eventsFrom _ _

end Source

namespace Scan

variable {v : Vocabulary} {kind : TokenKind}

theorem lexeme?_eq_some {span : Span} {text : String} (h : span.lexeme? = some (kind, text)) :
    span = ⟨.token kind, text.toList⟩ := by
  obtain ⟨found, chars⟩ := span
  cases found <;> cases h
  rw [String.toList_ofList]

/-- Spans are not empty, so a token that is as long as the source leaves no room for others. -/
theorem spans_eq_of_lexeme {text : String}
    (h : (spans v text.toList).filterMap Span.lexeme? = [(kind, text)]) :
    spans v text.toList = [⟨.token kind, text.toList⟩] := by
  obtain ⟨before, span, behind, hspans, -, hspan, -⟩ := List.filterMap_eq_cons_iff.mp h
  have htext := spans_flatMap v text.toList
  have hnonempty := text_ne_nil_of_mem_spans v text.toList
  rw [hspans] at htext hnonempty ⊢
  rw [lexeme?_eq_some hspan] at htext hnonempty ⊢
  rw [List.flatMap_append, List.flatMap_cons] at htext
  have hbefore : before.length ≤ (before.flatMap Span.text).length :=
    length_le_flatMap fun span hmem => hnonempty span (List.mem_append_left _ hmem)
  have hbehind : behind.length ≤ (behind.flatMap Span.text).length :=
    length_le_flatMap fun span hmem =>
      hnonempty span (List.mem_append_right _ (List.mem_cons_of_mem _ hmem))
  have hlength := congrArg List.length htext
  simp only [List.length_append] at hlength
  have hfirst : before = [] := List.length_eq_zero_iff.mp (by omega)
  have hlast : behind = [] := List.length_eq_zero_iff.mp (by omega)
  rw [hfirst, hlast, List.nil_append]

end Scan

theorem Source.isToken_iff {source : Source} {v : Vocabulary} {kind : TokenKind} :
    source.IsToken v kind ↔
      Scan.spans v source.text.toList = [⟨.token kind, source.text.toList⟩] := by
  constructor
  · intro h
    have hlexemes := h.lexemes
    rw [lexemes_eq] at hlexemes
    have hjoined : _ ++ [_] = [(kind, source.text)] ++ [_] := hlexemes
    exact Scan.spans_eq_of_lexeme (List.append_cancel_right hjoined)
  · intro h
    constructor
    · rw [diagnostics_scan, Scan.events, h]
      rfl
    · rw [lexemes_eq, h]
      simp [Scan.Span.lexeme?]

namespace Scan

variable {v : Vocabulary} {kind : TokenKind}

theorem spanAt_of_spans_singleton {c : Char} {input : List Char}
    (h : spans v (c :: input) = [⟨.token kind, c :: input⟩]) :
    spanAt v c input = (.token kind, input.length) := by
  rw [spans_cons, List.cons.injEq, Span.mk.injEq, List.cons.injEq] at h
  obtain ⟨⟨hkind, -, htake⟩, -⟩ := h
  have hlong := congrArg List.length htake
  rw [List.length_take] at hlong
  have hshort := spanAt_le v c input
  exact Prod.ext hkind (by omega)

/-- Where a text ends or a blank follows, the token before it is read as at the end of the
input. -/
theorem eventsFrom_word (hmarkers : v.MarkersAvoid Text.isBlank) {word : String}
    (halone : spans v word.toList = [⟨.token kind, word.toList⟩]) {rest : List Char}
    (hrest : ∀ b ∈ rest.head?, Text.isBlank b = true) (position : Position) :
    eventsFrom position (spans v (word.toList ++ rest)) =
      .token ⟨kind, word, position⟩ ::
        eventsFrom (position.after word.toList) (spans v rest) := by
  cases hword : word.toList with
  | nil => rw [hword] at halone; cases halone
  | cons c input =>
    rw [hword] at halone
    have hspan := spanAt_of_spans_singleton halone
    have hsame : spanAt v c (input ++ rest) = (.token kind, input.length) := by
      cases rest with
      | nil => rw [List.append_nil, hspan]
      | cons b later =>
        have hlexeme := not_ignored_of_token (congrArg Prod.fst hspan)
        have hblank : Text.isBlank b = true := hrest b rfl
        rw [spanAt_before_blank hblank hmarkers hlexeme (by simp [hspan]), hspan]
    have htoken : String.ofList (c :: input) = word := by rw [← hword, String.ofList_toList]
    rw [List.cons_append, spans_cons, hsame, List.take_left, List.drop_left, eventsFrom_cons]
    simp [Span.event?, htoken]

end Scan

namespace Layout

open Scan

variable {v : Vocabulary} {words : List LaidWord} {trailing : List Char}

theorem textOf_cons (w : LaidWord) (words : List LaidWord) (trailing : List Char) :
    textOf (w :: words) trailing = w.gap ++ (w.word.toList ++ textOf words trailing) := by
  simp [textOf, LaidWord.text]

theorem isBlank_head_textOf (hgaps : ∀ w ∈ words, Text.Blank w.gap)
    (htrailing : Text.Blank trailing) (hapart : ∀ w ∈ words, w.gap ≠ []) :
    ∀ b ∈ (textOf words trailing).head?, Text.isBlank b = true := by
  intro b hb
  cases words with
  | nil => exact htrailing b (List.mem_of_mem_head? hb)
  | cons w words =>
    obtain ⟨first, gap, hgap⟩ := List.exists_cons_of_ne_nil (hapart w List.mem_cons_self)
    rw [textOf_cons, hgap, List.cons_append, List.head?_cons, Option.mem_some_iff] at hb
    subst hb
    apply hgaps w List.mem_cons_self
    rw [hgap]
    exact List.mem_cons_self

theorem events_textOf (hmarkers : v.MarkersAvoid Text.isBlank)
    (hgaps : ∀ w ∈ words, Text.Blank w.gap)
    (htrailing : Text.Blank trailing)
    (hapart : ∀ w ∈ words.tail, w.gap ≠ [])
    (halone : ∀ w ∈ words, spans v w.word.toList = [⟨.token w.kind, w.word.toList⟩])
    (position : Position) :
    ((eventsFrom position (spans v (textOf words trailing))).filterMap Event.token?).map
        (fun t => (t.kind, t.text)) = words.map LaidWord.lexeme ++ [(.endOfInput, "")] ∧
      (eventsFrom position (spans v (textOf words trailing))).filterMap Event.fault? = [] := by
  induction words generalizing position with
  | nil =>
    have hend := eventsFrom_blanks (v := v) htrailing position []
    rw [List.append_nil] at hend
    have htext : textOf [] trailing = trailing := rfl
    rw [htext, hend]
    exact ⟨rfl, rfl⟩
  | cons w words ih =>
    obtain ⟨hgap, hgaps⟩ := List.forall_mem_cons.mp hgaps
    obtain ⟨hw, halone⟩ := List.forall_mem_cons.mp halone
    have hlater := ih hgaps (fun w hmem => hapart w (List.mem_of_mem_tail hmem)) halone
      ((position.after w.gap).after w.word.toList)
    have hrest := isBlank_head_textOf hgaps htrailing hapart
    rw [textOf_cons, eventsFrom_blanks hgap, eventsFrom_word hmarkers hw hrest,
      List.filterMap_cons_some (Event.token?_token _),
      List.filterMap_cons_none (Event.fault?_token _), List.map_cons, hlater.1]
    exact ⟨rfl, hlater.2⟩

end Layout

/-- Words that are one token each when they stand alone are the same tokens, in their order and
without any diagnostic, in every layout that sets them apart by blanks. -/
theorem layout_keeps_lexemes (v : Vocabulary) (hmarkers : v.MarkersAvoid Text.isBlank)
    (name : String) (layout : Layout)
    (halone : ∀ w ∈ layout.words, Source.IsToken ⟨name, w.word⟩ v w.kind) :
    (Source.scan ⟨name, layout.text⟩ v).diagnostics = [] ∧
      Source.lexemes ⟨name, layout.text⟩ v =
        layout.words.map LaidWord.lexeme ++ [(.endOfInput, "")] := by
  have hspans : ∀ w ∈ layout.words,
      Scan.spans v w.word.toList = [⟨.token w.kind, w.word.toList⟩] :=
    fun w hw => Source.isToken_iff.mp (halone w hw)
  obtain ⟨htokens, hfaults⟩ := Layout.events_textOf hmarkers layout.blank_gaps
    layout.blank_trailing layout.separated hspans .start
  constructor
  · rw [Source.diagnostics_scan, Layout.text, String.toList_ofList, Scan.events, hfaults]
    rfl
  · rw [Source.lexemes, Source.tokens_scan, Layout.text, String.toList_ofList]
    exact htokens

def Layout.apart : Layout where
  words := [⟨[], "1", .literal .integer⟩, ⟨[' '], ".", .delimiter⟩, ⟨['\n'], "5", .literal .integer⟩,
    ⟨['\t'], "/", .operator⟩, ⟨['\r', '\u2028'], "/", .operator⟩]
  trailing := ['\n']
  blank_gaps := by decide
  blank_trailing := by decide
  separated := by decide

theorem layout_keeps_lexemes_apart :
    ∃ v, Language.standard.compile = .ok v ∧ v.MarkersAvoid Text.isBlank ∧
      (∀ w ∈ Layout.apart.words, Source.IsToken ⟨"input", w.word⟩ v w.kind) ∧
      (Source.scan ⟨"input", Layout.apart.text⟩ v).diagnostics = [] ∧
      Source.lexemes ⟨"input", Layout.apart.text⟩ v =
        [(.literal .integer, "1"), (.delimiter, "."), (.literal .integer, "5"), (.operator, "/"),
          (.operator, "/"), (.endOfInput, "")] := by
  obtain ⟨v, hv, hmarkers, hspans⟩ := Language.standard_satisfies
    (p := fun v => v.MarkersAvoid Text.isBlank ∧ ∀ w ∈ Layout.apart.words,
      Scan.spans v w.word.toList = [⟨.token w.kind, w.word.toList⟩]) (by decide +kernel)
  have halone : ∀ w ∈ Layout.apart.words, Source.IsToken ⟨"input", w.word⟩ v w.kind :=
    fun w hw => Source.isToken_iff.mpr (hspans w hw)
  obtain ⟨hdiagnostics, hlexemes⟩ := layout_keeps_lexemes v hmarkers "input" Layout.apart halone
  exact ⟨v, hv, hmarkers, halone, hdiagnostics, hlexemes⟩

end SourceCheck
