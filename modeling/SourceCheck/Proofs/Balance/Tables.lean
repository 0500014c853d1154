import SourceCheck.Proofs.Balance.Words
import SourceCheck.Proofs.Language.Compile

/-!
Tables of pairs against the check. A description is checked pair by pair, while the check of the
delimiters looks a character up in the whole table: an opener stands for the first pair that it
opens, and a character that opens a pair closes none. The table serves all its pairs exactly when no
character opens two pairs that close differently, or closes one pair and opens another.
-/

namespace SourceCheck

namespace Language

structure Unambiguous (language : Language) : Prop where
  one_closing : ∀ pair ∈ language.pairs, ∀ other ∈ language.pairs,
    pair.opening = other.opening → pair.closing = other.closing
  apart : ∀ pair ∈ language.pairs, ∀ other ∈ language.pairs, pair.closing ≠ other.opening

/-- Words generated by `N ::= ε | o N c N`, in which `o` and `c` are any pair of the table. -/
inductive Nested (language : Language) : List Char → Prop where
  | empty : Nested language []
  | nest {pair : MarkerPair} {inner rest : List Char} (hpair : pair ∈ language.pairs)
      (hinner : Nested language inner) (hrest : Nested language rest) :
      Nested language (pair.opening.toList ++ (inner ++ (pair.closing.toList ++ rest)))

def IsPaired (language : Language) (c : Char) : Prop :=
  ∃ pair ∈ language.pairs, String.singleton c = pair.opening ∨ String.singleton c = pair.closing

instance (language : Language) (c : Char) : Decidable (language.IsPaired c) :=
  inferInstanceAs (Decidable (∃ pair ∈ language.pairs, _ ∨ _))

def word (language : Language) (tokens : List Token) : List Char :=
  ((Balance.beforeEnd tokens).filterMap Balance.character?).filter fun c => language.IsPaired c

end Language

namespace Balance

variable {v : Vocabulary}

theorem mem_pairs_written {pair : MarkerPair} :
    pair ∈ v.written.pairs ↔ ∃ p ∈ v.pairs, p.written = pair := List.mem_map

theorem isPaired_written_iff {c : Char} :
    v.written.IsPaired c ↔ IsOpener v c ∨ IsCloser v c := by
  constructor
  · rintro ⟨pair, hpair, hc⟩
    obtain ⟨p, hp, rfl⟩ := mem_pairs_written.mp hpair
    by_cases hopener : IsOpener v c
    · exact .inl hopener
    · rcases hc with hc | hc
      · exact absurd ⟨p, hp, (String.singleton_inj.mp hc).symm⟩ hopener
      · exact .inr ⟨hopener, p, hp, (String.singleton_inj.mp hc).symm⟩
  · rintro (⟨p, hp, rfl⟩ | ⟨-, p, hp, rfl⟩)
    · exact ⟨p.written, mem_pairs_written.mpr ⟨p, hp, rfl⟩, .inl rfl⟩
    · exact ⟨p.written, mem_pairs_written.mpr ⟨p, hp, rfl⟩, .inr rfl⟩

theorem word_written (tokens : List Token) : v.written.word tokens = word v tokens := by
  refine List.filter_congr fun c _ => ?_
  rw [decide_eq_decide]
  exact isPaired_written_iff

theorem check_eq_nil_iff (tokens : List Token) :
    check v tokens = ⟨[]⟩ ↔ Settles v [] (word v tokens) := by
  rw [check, Verdict.mk.injEq, issues_eq_nil, walk_eq_nil]
  rfl

structure Serves (v : Vocabulary) (pair : DelimiterPair) : Prop where
  opens : ∃ first, v.openingPair? pair.opening = some first ∧ first.closing = pair.closing
  closes : IsCloser v pair.closing

theorem unambiguous_written_iff :
    v.written.Unambiguous ↔ ∀ pair ∈ v.pairs, Serves v pair := by
  constructor
  · intro hunambiguous pair hpair
    have hwritten := mem_pairs_written.mpr ⟨pair, hpair, rfl⟩
    constructor
    · cases hfirst : v.openingPair? pair.opening with
      | none => exact absurd ⟨pair, hpair, rfl⟩ (not_isOpener_of_openingPair? hfirst)
      | some first =>
        have hsame : first.opening = pair.opening := by simpa using List.find?_some hfirst
        have hfound := mem_pairs_written.mpr ⟨first, List.mem_of_find?_eq_some hfirst, rfl⟩
        have hclosing := hunambiguous.one_closing _ hfound _ hwritten (String.singleton_inj.mpr hsame)
        exact ⟨first, rfl, String.singleton_inj.mp hclosing⟩
    · refine ⟨?_, pair, hpair, rfl⟩
      rintro ⟨other, hother, hopens⟩
      exact hunambiguous.apart _ hwritten _ (mem_pairs_written.mpr ⟨other, hother, rfl⟩)
        (String.singleton_inj.mpr hopens.symm)
  · intro hserves
    constructor
    · intro pair hpair other hother hsame
      obtain ⟨p, hp, rfl⟩ := mem_pairs_written.mp hpair
      obtain ⟨q, hq, rfl⟩ := mem_pairs_written.mp hother
      obtain ⟨first, hfirst, hclosing⟩ := (hserves p hp).opens
      obtain ⟨second, hsecond, hclosing'⟩ := (hserves q hq).opens
      rw [String.singleton_inj.mp hsame] at hfirst
      obtain rfl : first = second := Option.some.inj (hfirst.symm.trans hsecond)
      exact String.singleton_inj.mpr (hclosing.symm.trans hclosing')
    · intro pair hpair other hother hsame
      obtain ⟨p, hp, rfl⟩ := mem_pairs_written.mp hpair
      obtain ⟨q, hq, rfl⟩ := mem_pairs_written.mp hother
      exact (hserves p hp).closes.1 ⟨q, hq, (String.singleton_inj.mp hsame).symm⟩

theorem balanced_of_nested (hserves : ∀ pair ∈ v.pairs, Serves v pair) {text : List Char}
    (h : v.written.Nested text) : Balanced v text := by
  induction h with
  | empty => exact .empty
  | @nest pair inner rest hpair _ _ hinner hrest =>
    obtain ⟨p, hp, rfl⟩ := mem_pairs_written.mp hpair
    obtain ⟨⟨first, hfirst, hclosing⟩, hcloser⟩ := hserves p hp
    rw [← hclosing] at hcloser
    have hnested := Balanced.nest hfirst hcloser hinner hrest
    rw [hclosing] at hnested
    rw [DelimiterPair.written, String.toList_singleton, String.toList_singleton]
    exact hnested

/-- An opener in front of its closer settles only where the pair is served. -/
theorem serves_of_settles {pair : DelimiterPair} (hpair : pair ∈ v.pairs)
    (h : Settles v [] [pair.opening, pair.closing]) : Serves v pair := by
  cases hfirst : v.openingPair? pair.opening with
  | none => exact absurd ⟨pair, hpair, rfl⟩ (not_isOpener_of_openingPair? hfirst)
  | some first =>
    have hopened := (settles_opener (o := ⟨first, 0, .start⟩) hfirst).mp h
    have hcloser : IsCloser v pair.closing := by
      refine ⟨?_, pair, hpair, rfl⟩
      intro hopener
      cases hsecond : v.openingPair? pair.closing with
      | none => exact not_isOpener_of_openingPair? hsecond hopener
      | some second =>
        have hopened := (settles_opener (o := ⟨second, 0, .start⟩) hsecond).mp hopened
        cases settles_nil.mp hopened
    exact ⟨⟨first, hfirst, ((settles_closer hcloser).mp hopened).1⟩, hcloser⟩

def pairTokens (pair : MarkerPair) (first second last : Position) : List Token :=
  [⟨.delimiter, pair.opening, first⟩, ⟨.delimiter, pair.closing, second⟩, .endOfInput last]

theorem word_pairTokens {pair : DelimiterPair} (hpair : pair ∈ v.pairs)
    (first second last : Position) : v.written.word (pairTokens pair.written first second last) =
      [pair.opening, pair.closing] := by
  have hwritten := mem_pairs_written.mpr ⟨pair, hpair, rfl⟩
  have hopening : v.written.IsPaired pair.opening := ⟨_, hwritten, .inl rfl⟩
  have hclosing : v.written.IsPaired pair.closing := ⟨_, hwritten, .inr rfl⟩
  simp [Language.word, pairTokens, beforeEnd, Token.isEnd, Token.endOfInput, character?,
    DelimiterPair.written, hopening, hclosing]

theorem nested_pairTokens {pair : DelimiterPair} (hpair : pair ∈ v.pairs)
    (first second last : Position) :
    v.written.Nested (v.written.word (pairTokens pair.written first second last)) := by
  have hwritten := mem_pairs_written.mpr ⟨pair, hpair, rfl⟩
  have hnested := Language.Nested.nest hwritten .empty .empty
  rw [word_pairTokens hpair]
  simpa [DelimiterPair.written] using hnested

/-- A table serves all its pairs exactly when it is unambiguous: then every word in which pairs of
the table are nested passes without an issue, and else some opener in front of its own closer does
not pass. -/
theorem nested_pairs_pass_iff {language : Language} {v : Vocabulary}
    (hv : language.compile = .ok v) :
    (language.Unambiguous ↔
      ∀ tokens, language.Nested (language.word tokens) → check v tokens = ⟨[]⟩) ∧
    (language.Unambiguous ↔ ∀ pair ∈ language.pairs, ∀ first second last,
      check v (pairTokens pair first second last) = ⟨[]⟩) := by
  obtain ⟨rfl, -, -⟩ := Language.compile_eq_ok_iff.mp hv
  have hpass : v.written.Unambiguous →
      ∀ tokens, v.written.Nested (v.written.word tokens) → check v tokens = ⟨[]⟩ := by
    intro hunambiguous tokens hnested
    rw [word_written] at hnested
    rw [check_eq_nil_iff]
    exact .balanced (balanced_of_nested (unambiguous_written_iff.mp hunambiguous) hnested)
  have hpairs : (∀ tokens, v.written.Nested (v.written.word tokens) → check v tokens = ⟨[]⟩) →
      ∀ pair ∈ v.written.pairs, ∀ first second last,
        check v (pairTokens pair first second last) = ⟨[]⟩ := by
    intro hnested pair hpair first second last
    obtain ⟨p, hp, rfl⟩ := mem_pairs_written.mp hpair
    exact hnested _ (nested_pairTokens hp first second last)
  have hserves : (∀ pair ∈ v.written.pairs, ∀ first second last,
      check v (pairTokens pair first second last) = ⟨[]⟩) → v.written.Unambiguous := by
    intro hchecked
    rw [unambiguous_written_iff]
    intro p hp
    have hsettles := (check_eq_nil_iff _).mp
      (hchecked p.written (mem_pairs_written.mpr ⟨p, hp, rfl⟩) .start .start .start)
    rw [← word_written, word_pairTokens hp] at hsettles
    exact serves_of_settles hp hsettles
  constructor
  · constructor
    · exact hpass
    · intro hnested
      exact hserves (hpairs hnested)
  · constructor
    · intro hunambiguous
      exact hpairs (hpass hunambiguous)
    · exact hserves

/-- Brackets in brackets, with a comma between them. -/
theorem nested_pairs_pass_iff_brackets :
    ∃ v, Language.standard.compile = .ok v ∧ Language.standard.Unambiguous ∧
      check v [⟨.delimiter, "(", ⟨1, 1⟩⟩, ⟨.delimiter, "[", ⟨1, 2⟩⟩, ⟨.delimiter, ",", ⟨1, 3⟩⟩,
        ⟨.delimiter, "]", ⟨1, 4⟩⟩, ⟨.delimiter, ")", ⟨1, 5⟩⟩, .endOfInput ⟨1, 6⟩] = ⟨[]⟩ := by
  obtain ⟨v, hv⟩ := Language.standard_compiles
  have hunambiguous : Language.standard.Unambiguous := ⟨by decide, by decide⟩
  have hsquare : ⟨"[", "]"⟩ ∈ Language.standard.pairs := by decide
  have hround : ⟨"(", ")"⟩ ∈ Language.standard.pairs := by decide
  obtain ⟨hnested, -⟩ := nested_pairs_pass_iff hv
  refine ⟨v, hv, hunambiguous, hnested.mp hunambiguous _ ?_⟩
  exact .nest hround (.nest hsquare .empty .empty) .empty

end Balance

namespace Language

def chainedPairs : Language := { standard with pairs := [⟨"(", ")"⟩, ⟨")", "]"⟩] }

/-- The table is accepted, and each character of the first pair is reported as left open, although
one closes the other. -/
theorem chainedPairs_leave_both_open :
    ∃ v, chainedPairs.compile = .ok v ∧
      chainedPairs.Nested (chainedPairs.word (Balance.pairTokens ⟨"(", ")"⟩ ⟨1, 1⟩ ⟨1, 2⟩ ⟨1, 3⟩)) ∧
      (Balance.check v (Balance.pairTokens ⟨"(", ")"⟩ ⟨1, 1⟩ ⟨1, 2⟩ ⟨1, 3⟩)).ok = false ∧
      (Balance.check v (Balance.pairTokens ⟨"(", ")"⟩ ⟨1, 1⟩ ⟨1, 2⟩ ⟨1, 3⟩)).issues =
        [⟨.unclosed ⟨⟨')', ']'⟩, 1, ⟨1, 2⟩⟩, 2, ⟨1, 3⟩⟩,
          ⟨.unclosed ⟨⟨'(', ')'⟩, 0, ⟨1, 1⟩⟩, 2, ⟨1, 3⟩⟩] := by
  obtain ⟨v, hv, hreported⟩ := satisfies_of_any chainedPairs (p := fun v =>
    (Balance.check v (Balance.pairTokens ⟨"(", ")"⟩ ⟨1, 1⟩ ⟨1, 2⟩ ⟨1, 3⟩)).issues =
      [⟨.unclosed ⟨⟨')', ']'⟩, 1, ⟨1, 2⟩⟩, 2, ⟨1, 3⟩⟩,
        ⟨.unclosed ⟨⟨'(', ')'⟩, 0, ⟨1, 1⟩⟩, 2, ⟨1, 3⟩⟩]) (by decide +kernel)
  have hpair : ⟨"(", ")"⟩ ∈ chainedPairs.pairs := by decide
  refine ⟨v, hv, .nest hpair .empty .empty, ?_, hreported⟩
  rw [Verdict.ok, hreported]
  rfl

end Language

end SourceCheck
