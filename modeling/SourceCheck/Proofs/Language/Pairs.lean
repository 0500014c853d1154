import SourceCheck.Proofs.Language.Compile
import SourceCheck.Proofs.Scan.Locality

/-!
Delimiter pairs against the scan. A character that stands alone is scanned as a delimiter when it is
one, is no blank, and none of the rules that a description is checked for claims it.
-/

namespace SourceCheck

namespace Marker

variable {c : Char}

theorem begins_singleton_iff {m : Marker} : m.begins [c] = true ↔ m.text = String.singleton c := by
  rw [← String.toList_inj, String.toList_singleton, toList_text, begins,
    List.isPrefixOf_iff_prefix]
  constructor
  · intro h
    exact h.eq_of_length_le (by simp)
  · intro h
    exact h ▸ List.prefix_refl m.chars

theorem not_begins_singleton_iff {markers : List Marker} :
    (∀ m ∈ markers, m.begins [c] = false) ↔ String.singleton c ∉ markers.map text := by
  simp only [← Bool.not_eq_true, begins_singleton_iff, List.mem_map, not_exists, not_and]

end Marker

namespace Language

variable {v : Vocabulary} {c : Char}

/-- The rules that a description is checked for are those of the scan, where one character is all
that is left. -/
theorem claimingRule?_written_eq_none_iff : v.written.claimingRule? v.quotes c = none ↔
    ¬ v.isQuote c = true ∧ ¬ c.isDigit = true ∧ ¬ Text.startsWord c = true ∧
      v.operator? [c] = none ∧ v.lineComment? [c] = none ∧
      ∀ block, v.blockComment = some block → block.opening.begins [c] = false := by
  have hquote : ¬ v.isQuote c = true ↔ c ∉ v.quotes := by
    rw [Vocabulary.isQuote, List.contains_iff_mem]
  have hblock : (∀ block, v.blockComment = some block → block.opening.begins [c] = false) ↔
      ¬ v.written.blockComment.any (·.opening == String.singleton c) = true := by
    unfold Vocabulary.written
    cases v.blockComment with
    | none => simp
    | some block => simp [← Bool.not_eq_true, Marker.begins_singleton_iff, BlockComment.written]
  rw [claimingRule?, ite_some_eq_none_iff, ite_some_eq_none_iff, ite_some_eq_none_iff,
    ite_some_eq_none_iff, ite_some_eq_none_iff, not_or, eq_self, and_true, hquote,
    Vocabulary.operator?_none_iff, Vocabulary.lineComment?_none_iff, hblock,
    Marker.not_begins_singleton_iff, Marker.not_begins_singleton_iff]
  rfl

end Language

namespace Scan

variable {v : Vocabulary} {c : Char}

theorem wordKind_ne_delimiter (v : Vocabulary) (word : String) : wordKind v word ≠ .delimiter := by
  unfold wordKind
  split
  · exact nofun
  · split <;> exact nofun

theorem lexeme_alone_iff : (lexeme v c []).1 = .token .delimiter ↔
    ¬ v.isQuote c = true ∧ ¬ c.isDigit = true ∧ ¬ Text.startsWord c = true ∧
      v.operator? [c] = none ∧ v.isDelimiter c = true := by
  unfold lexeme
  by_cases hquote : v.isQuote c = true
  · simp [hquote, StringBody.read]
  by_cases hdigit : c.isDigit = true
  · simp [hquote, hdigit]
  by_cases hword : Text.startsWord c = true
  · simp [hquote, hdigit, hword, wordKind_ne_delimiter]
  cases v.operator? [c] with
  | some m => simp [hquote, hdigit, hword]
  | none => by_cases hdelimiter : v.isDelimiter c = true <;> simp [hquote, hdigit, hword, hdelimiter]

theorem spanAt_alone_iff : (spanAt v c []).1 = .token .delimiter ↔
    ¬ Text.isBlank c = true ∧ v.written.claimingRule? v.quotes c = none ∧
      v.isDelimiter c = true := by
  rw [Language.claimingRule?_written_eq_none_iff]
  constructor
  · intro h
    have hnone := not_ignored_of_token h
    obtain ⟨hblank, hline, hblock⟩ := ignored?_none_iff.mp hnone
    rw [spanAt_of_not_ignored hnone] at h
    obtain ⟨hquote, hdigit, hword, hoperator, hdelimiter⟩ := lexeme_alone_iff.mp h
    exact ⟨hblank, ⟨hquote, hdigit, hword, hoperator, hline, hblock⟩, hdelimiter⟩
  · rintro ⟨hblank, ⟨hquote, hdigit, hword, hoperator, hline, hblock⟩, hdelimiter⟩
    rw [spanAt_of_not_ignored (ignored?_none_iff.mpr ⟨hblank, hline, hblock⟩)]
    exact lexeme_alone_iff.mpr ⟨hquote, hdigit, hword, hoperator, hdelimiter⟩

theorem events_alone (v : Vocabulary) (c : Char) :
    events v [c] = ((⟨(spanAt v c []).1, [c]⟩ : Span).event? .start).toList ++
      [.token (.endOfInput (Position.start.next c))] := by
  rw [events, spans_cons, List.take_nil, List.drop_nil, eventsFrom_cons]
  rfl

end Scan

namespace Source

variable {v : Vocabulary} {c : Char} (name : String)

theorem scan_alone_of_blank (hblank : Text.isBlank c = true) :
    (Source.scan ⟨name, String.singleton c⟩ v).diagnostics = [] ∧
      (Source.scan ⟨name, String.singleton c⟩ v).buffer.tokens =
        [.endOfInput (Position.start.next c)] := by
  rw [diagnostics_scan, tokens_scan, String.toList_singleton, Scan.events_alone,
    Scan.spanAt_of_blank hblank]
  exact ⟨rfl, rfl⟩

theorem scan_alone_of_delimiter (h : (Scan.spanAt v c []).1 = .token .delimiter) :
    (Source.scan ⟨name, String.singleton c⟩ v).diagnostics = [] ∧
      (Source.scan ⟨name, String.singleton c⟩ v).buffer.tokens =
        [⟨.delimiter, String.singleton c, .start⟩, .endOfInput (Position.start.next c)] := by
  rw [diagnostics_scan, tokens_scan, String.toList_singleton, Scan.events_alone, h]
  exact ⟨rfl, rfl⟩

theorem delimiter_of_scan_alone {t : Token}
    (ht : t ∈ (Source.scan ⟨name, String.singleton c⟩ v).buffer.tokens)
    (hkind : t.kind = .delimiter) : (Scan.spanAt v c []).1 = .token .delimiter := by
  rw [tokens_scan, String.toList_singleton, Scan.events_alone] at ht
  cases hspan : (Scan.spanAt v c []).1 with
  | token kind =>
    rw [hspan] at ht
    rcases List.mem_cons.mp ht with rfl | hend
    · exact congrArg Scan.SpanKind.token hkind
    · rw [List.mem_singleton.mp hend] at hkind
      cases hkind
  | blank | comment | fault =>
    rw [hspan] at ht
    rw [List.mem_singleton.mp ht] at hkind
    cases hkind

end Source

theorem Language.paired_characters {language : Language} {v : Vocabulary}
    (hv : language.compile = .ok v) {pair : MarkerPair} (hpair : pair ∈ language.pairs)
    {text : String} (htext : text ∈ [pair.opening, pair.closing]) :
    ∃ c, text = String.singleton c ∧ v.isDelimiter c = true ∧
      v.written.claimingRule? v.quotes c = none := by
  obtain ⟨rfl, -, hpairs⟩ := Language.compile_eq_ok_iff.mp hv
  obtain ⟨p, hp, rfl⟩ := List.mem_map.mp hpair
  have husable := hpairs p hp
  simp only [Vocabulary.isDelimiter, List.contains_iff_mem]
  rcases List.mem_cons.mp htext with rfl | hclosing
  · exact ⟨p.opening, rfl, husable.delimiters.1, husable.opening⟩
  · rw [List.mem_singleton.mp hclosing]
    exact ⟨p.closing, rfl, husable.delimiters.2, husable.closing⟩

/-- A character of a pair is scanned as a delimiter, or passed over as a blank, for which pairs are
not checked. A character that is refused in a pair would not be scanned as a delimiter. -/
theorem paired_characters_scan_as_delimiters (language : Language) (name : String) :
    (∀ v, language.compile = .ok v → ∀ pair ∈ language.pairs,
      ∀ text ∈ [pair.opening, pair.closing], ∃ c, text = String.singleton c ∧
        (Source.scan ⟨name, text⟩ v).diagnostics = [] ∧
        (Source.scan ⟨name, text⟩ v).buffer.tokens =
          if Text.isBlank c then [.endOfInput (Position.start.next c)]
          else [⟨.delimiter, text, .start⟩, .endOfInput (Position.start.next c)]) ∧
      ∀ c rule v, language.compile = .error (.pairShadowed c rule) →
        Language.compile { language with pairs := [] } = .ok v →
        ∀ t ∈ (Source.scan ⟨name, String.singleton c⟩ v).buffer.tokens, t.kind ≠ .delimiter := by
  constructor
  · intro v hv pair hpair text htext
    obtain ⟨c, rfl, hdelimiter, hunclaimed⟩ := Language.paired_characters hv hpair htext
    refine ⟨c, rfl, ?_⟩
    by_cases hblank : Text.isBlank c = true
    · rw [if_pos hblank]
      exact Source.scan_alone_of_blank name hblank
    · rw [if_neg hblank]
      exact Source.scan_alone_of_delimiter name
        (Scan.spanAt_alone_iff.mpr ⟨hblank, hunclaimed, hdelimiter⟩)
  · intro c rule v hrefused hv t ht hkind
    obtain ⟨quotes, hquotes, hclaimed⟩ := Language.claimed_of_compile_error hrefused
    obtain ⟨hwritten, -, -⟩ := Language.compile_eq_ok_iff.mp hv
    have hdelimiter := Source.delimiter_of_scan_alone name ht hkind
    obtain ⟨-, hunclaimed, -⟩ := Scan.spanAt_alone_iff.mp hdelimiter
    have hsame : v.quotes = quotes := by
      have hmap := (congrArg Language.quotes hwritten).trans hquotes.symm
      refine (List.map_inj_right ?_).mp hmap
      intro a b hab
      simpa using congrArg String.toList hab
    rw [hwritten, hsame] at hunclaimed
    have hrule : language.claimingRule? quotes c = none := hunclaimed
    rw [hrule] at hclaimed
    cases hclaimed

/-- A pair that is refused for its opening character, and one that is not. -/
theorem paired_characters_scan_as_delimiters_shadowed :
    ∃ v w, Language.standard.compile = .ok v ∧ ⟨"(", ")"⟩ ∈ Language.standard.pairs ∧
      (Source.scan ⟨"input", ")"⟩ v).buffer.tokens =
        [⟨.delimiter, ")", ⟨1, 1⟩⟩, .endOfInput ⟨1, 2⟩] ∧
      Language.compile { Language.standard with lineComments := ["("] } =
        .error (.pairShadowed '(' .comment) ∧
      Language.compile { Language.standard with lineComments := ["("], pairs := [] } = .ok w ∧
      ∀ t ∈ (Source.scan ⟨"input", "("⟩ w).buffer.tokens, t.kind ≠ .delimiter := by
  obtain ⟨v, hv⟩ := Language.standard_compiles
  obtain ⟨w, hw, -⟩ := Language.satisfies_of_any
    { Language.standard with lineComments := ["("], pairs := [] } (p := fun _ => True)
    (by decide +kernel)
  have hpair : ⟨"(", ")"⟩ ∈ Language.standard.pairs := by decide
  have hrefused : Language.compile { Language.standard with lineComments := ["("] } =
      .error (.pairShadowed '(' .comment) := rfl
  obtain ⟨c, hc, -, htokens⟩ := (paired_characters_scan_as_delimiters .standard "input").1 v hv _
    hpair ")" (by decide)
  have hchars : [')'] = [c] := (congrArg String.toList hc).trans (String.toList_singleton c)
  obtain rfl : ')' = c := List.head_eq_of_cons_eq hchars
  have hshadowed := (paired_characters_scan_as_delimiters
    { Language.standard with lineComments := ["("] } "input").2 '(' .comment w hrefused hw
  exact ⟨v, w, hv, hpair, htokens, hrefused, hw, hshadowed⟩

namespace Language

def blankPair : Language :=
  { standard with delimiters := [" ", "]"], pairs := [⟨" ", "]"⟩] }

/-- The pair is accepted, and a blank that stands alone is no delimiter. -/
theorem blankPair_opening_is_passed_over :
    ∃ v, blankPair.compile = .ok v ∧ ⟨" ", "]"⟩ ∈ blankPair.pairs ∧
      (Source.scan ⟨"input", " "⟩ v).buffer.tokens = [.endOfInput ⟨1, 2⟩] ∧
      (Source.scan ⟨"input", " "⟩ v).buffer.tokens ≠
        [⟨.delimiter, " ", ⟨1, 1⟩⟩, .endOfInput ⟨1, 2⟩] := by
  obtain ⟨v, hv, -⟩ := satisfies_of_any blankPair (p := fun _ => True) (by decide +kernel)
  obtain ⟨-, htokens⟩ := Source.scan_alone_of_blank (v := v) (c := ' ') "input" (by decide)
  refine ⟨v, hv, by decide, htokens, ?_⟩
  intro heq
  have hlength := congrArg List.length (htokens.symm.trans heq)
  cases hlength

end Language

end SourceCheck
