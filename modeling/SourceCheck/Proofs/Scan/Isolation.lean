import SourceCheck.Proofs.Scan.Layout
import SourceCheck.Proofs.Scan.Locality

/-!
Lexemes on their own. Where a lexeme ends is decided by the rule that reads it, and what follows it
in the source can only be a reason to go on. A token that is cut out of its source is therefore the
same token again when it is all that there is to scan.
-/

namespace SourceCheck

namespace Scan

variable {v : Vocabulary} {c : Char} {kind : TokenKind}

/-- A token is read the same when the input ends with it. -/
theorem spanAt_cut {text later : List Char}
    (h : spanAt v c (text ++ later) = (.token kind, text.length)) :
    spanAt v c text = (.token kind, text.length) := by
  have hkind : (spanAt v c (text ++ later)).1 = .token kind := congrArg Prod.fst h
  have hlength : (spanAt v c (text ++ later)).2 ≤ text.length :=
    Nat.le_of_eq (congrArg Prod.snd h)
  have hstring : ∀ quote, (spanAt v c (text ++ later)).1 ≠ .fault (.unterminatedString quote) := by
    intro quote
    rw [hkind]
    exact nofun
  rw [← spanAt_append (not_ignored_of_token hkind) hlength hstring]
  exact h

theorem spans_of_whole_token {text : List Char} (h : spanAt v c text = (.token kind, text.length)) :
    spans v (c :: text) = [⟨.token kind, c :: text⟩] := by
  rw [spans_cons, h, List.take_length, List.drop_length]
  rfl

/-- A token of the division is the whole division of its own text. -/
theorem spans_of_token {input : List Char} {span : Span} (hmem : span ∈ spans v input)
    (hkind : span.kind = .token kind) : spans v span.text = [⟨.token kind, span.text⟩] := by
  induction input using spans_induction (v := v) with
  | nil => cases hmem
  | cons c input ih =>
    rcases List.mem_cons.mp hmem with rfl | hlater
    · have hlength : (input.take (spanAt v c input).2).length = (spanAt v c input).2 :=
        List.length_take_of_le (spanAt_le v c input)
      have hspan : spanAt v c
          (input.take (spanAt v c input).2 ++ input.drop (spanAt v c input).2) =
            (.token kind, (input.take (spanAt v c input).2).length) := by
        rw [List.take_append_drop, hlength]
        exact Prod.ext hkind rfl
      apply spans_of_whole_token
      exact spanAt_cut hspan
    · exact ih hlater

end Scan

namespace Source

variable {source : Source} {v : Vocabulary} {t : Token}

theorem span_of_token (ht : t ∈ (source.scan v).buffer.tokens) (hend : t.isEnd = false) :
    ⟨.token t.kind, t.text.toList⟩ ∈ Scan.spans v source.text.toList := by
  have hlexeme : (t.kind, t.text) ∈ source.lexemes v :=
    List.mem_map_of_mem (f := fun t : Token => (t.kind, t.text)) ht
  rw [lexemes_eq] at hlexeme
  rcases List.mem_append.mp hlexeme with hspan | hlast
  · obtain ⟨span, hmem, hspan⟩ := List.mem_filterMap.mp hspan
    rwa [← Scan.lexeme?_eq_some hspan]
  · have hkind : t.kind = .endOfInput := congrArg Prod.fst (List.mem_singleton.mp hlast)
    rw [Token.isEnd, hkind] at hend
    cases hend

theorem tokens_scan_of_isToken {kind : TokenKind} (h : source.IsToken v kind) :
    (source.scan v).buffer.tokens =
      [⟨kind, source.text, .start⟩, .endOfInput (.behind source.text.toList)] := by
  rw [tokens_scan, Scan.events, isToken_iff.mp h, ← Position.start_after]
  simp [Scan.eventsFrom]

end Source

/-- A lexeme does not depend on its context: what is one token in a source is the same token, with
nothing to report and nothing beside it, when its text is scanned alone. -/
theorem lexemes_stand_alone (source : Source) (v : Vocabulary) (name : String) :
    ∀ t ∈ (source.scan v).buffer.tokens, t.isEnd = false →
      (Source.scan ⟨name, t.text⟩ v).diagnostics = [] ∧
      (Source.scan ⟨name, t.text⟩ v).buffer.tokens =
        [⟨t.kind, t.text, ⟨1, 1⟩⟩, .endOfInput (.behind t.text.toList)] := by
  intro t ht hend
  have hspan := Source.span_of_token ht hend
  have halone : Source.IsToken ⟨name, t.text⟩ v t.kind :=
    Source.isToken_iff.mpr (Scan.spans_of_token hspan rfl)
  exact ⟨halone.diagnostics, Source.tokens_scan_of_isToken halone⟩

/-- A number in front of an exponent mark that no digit follows. -/
theorem lexemes_stand_alone_cut :
    ∃ v, Language.standard.compile = .ok v ∧
      ⟨.literal (.float .simple), "1.5", ⟨1, 1⟩⟩ ∈
        (Source.scan ⟨"input", "1.5e+x"⟩ v).buffer.tokens ∧
      (Source.scan ⟨"input", "1.5"⟩ v).diagnostics = [] ∧
      (Source.scan ⟨"input", "1.5"⟩ v).buffer.tokens =
        [⟨.literal (.float .simple), "1.5", ⟨1, 1⟩⟩, .endOfInput ⟨1, 4⟩] := by
  obtain ⟨v, hv, hmem⟩ := Language.standard_satisfies (p := fun v =>
    (⟨.literal (.float .simple), "1.5", ⟨1, 1⟩⟩ : Token) ∈
      (Scan.events v "1.5e+x".toList).filterMap Scan.Event.token?) (by decide +kernel)
  have ht : ⟨.literal (.float .simple), "1.5", ⟨1, 1⟩⟩ ∈
      (Source.scan ⟨"input", "1.5e+x"⟩ v).buffer.tokens := by
    rw [Source.tokens_scan]
    exact hmem
  obtain ⟨hdiagnostics, htokens⟩ := lexemes_stand_alone ⟨"input", "1.5e+x"⟩ v "input" _ ht rfl
  exact ⟨v, hv, ht, hdiagnostics, htokens⟩

end SourceCheck
