import SourceCheck.Language.Compile
import SourceCheck.Proofs.Outcomes

/-!
Compiling language descriptions. An accepted description can be read back from its vocabulary, which
is the only one that it describes; an error says at which of the checks a description was refused.
-/

namespace SourceCheck

theorem Marker.toList_text (m : Marker) : m.text.toList = m.chars := String.toList_ofList

namespace MarkerPair

def members (pair : MarkerPair) : List String := [pair.opening, pair.closing]

end MarkerPair

namespace DelimiterPair

def written (pair : DelimiterPair) : MarkerPair :=
  ⟨String.singleton pair.opening, String.singleton pair.closing⟩

end DelimiterPair

namespace BlockComment

def written (block : BlockComment) : MarkerPair := ⟨block.opening.text, block.closing.text⟩

end BlockComment

namespace Vocabulary

def written (v : Vocabulary) : Language where
  keywords := v.keywords
  trueWord := v.trueWord
  falseWord := v.falseWord
  operators := v.operators.map Marker.text
  delimiters := v.delimiters.map String.singleton
  pairs := v.pairs.map DelimiterPair.written
  lineComments := v.lineComments.map Marker.text
  blockComment := v.blockComment.map BlockComment.written
  quotes := v.quotes.map String.singleton
  multilineStrings := v.multilineStrings

/-- A vocabulary is told by its lists; the table is made of the operators. -/
theorem eq_of_lists (v : Vocabulary) :
    { keywords := v.keywords
      trueWord := v.trueWord
      falseWord := v.falseWord
      operators := v.operators
      delimiters := v.delimiters
      pairs := v.pairs
      lineComments := v.lineComments
      blockComment := v.blockComment
      quotes := v.quotes
      multilineStrings := v.multilineStrings } = v := by
  obtain ⟨_, _, _, _, _, _, _, _, _, _, _, rfl⟩ := v
  rfl

end Vocabulary

namespace Language

variable {language : Language} {v : Vocabulary}

structure Pairable (language : Language) (delimiters quotes : List Char) (pair : DelimiterPair) :
    Prop where
  distinct : pair.opening ≠ pair.closing
  delimiters : pair.opening ∈ delimiters ∧ pair.closing ∈ delimiters
  opening : language.claimingRule? quotes pair.opening = none
  closing : language.claimingRule? quotes pair.closing = none

theorem ite_some_eq_none_iff {α : Type} {p : Prop} [Decidable p] {a : α} {x : Option α} :
    (if p then some a else x) = none ↔ ¬ p ∧ x = none := by
  by_cases hp : p <;> simp [hp]

theorem singleton_mem_iff {c : Char} {cs : List Char} :
    String.singleton c ∈ cs.map String.singleton ↔ c ∈ cs := by
  constructor
  · intro h
    obtain ⟨d, hd, heq⟩ := List.mem_map.mp h
    rwa [← (String.singleton_inj).mp heq]
  · exact List.mem_map_of_mem

theorem singleCharacter_eq_ok_iff {field : LanguageField} (value : String) (c : Char) :
    singleCharacter field value = .ok c ↔ String.singleton c = value := by
  rw [← String.toList_inj, String.toList_singleton, singleCharacter]
  split
  · next d hd =>
    rw [hd]
    constructor
    · rintro ⟨⟩
      rfl
    · rintro ⟨⟩
      rfl
  · next hnot => exact ⟨nofun, fun h => absurd h.symm (hnot c)⟩

theorem marker_eq_ok_iff {field : LanguageField} (value : String) (m : Marker) :
    marker field value = .ok m ↔ m.text = value := by
  obtain ⟨first, rest⟩ := m
  rw [← String.toList_inj, Marker.toList_text, marker, Marker.chars]
  split
  · next c later hvalue =>
    rw [hvalue]
    constructor
    · rintro ⟨⟩
      rfl
    · rintro ⟨⟩
      rfl
  · next hvalue =>
    rw [hvalue]
    exact ⟨nofun, nofun⟩

theorem unclaimed_eq_ok_iff {quotes : List Char} {c : Char} {u : Unit} :
    language.unclaimed quotes c = .ok u ↔ language.claimingRule? quotes c = none := by
  unfold unclaimed
  cases language.claimingRule? quotes c with
  | none => exact ⟨fun _ => rfl, fun _ => rfl⟩
  | some rule => exact ⟨nofun, nofun⟩

theorem compilePair_eq_ok_iff {delimiters quotes : List Char} (pair : MarkerPair)
    (p : DelimiterPair) : language.compilePair delimiters quotes pair = .ok p ↔
      p.written = pair ∧ language.Pairable delimiters quotes p := by
  unfold compilePair
  constructor
  · intro h
    obtain ⟨opening, hopening, h⟩ := bind_eq_ok_iff.mp h
    obtain ⟨closing, hclosing, h⟩ := bind_eq_ok_iff.mp h
    obtain ⟨hdistinct, h⟩ := unless_eq_ok_iff.mp h
    obtain ⟨hlisted, h⟩ := unless_eq_ok_iff.mp h
    obtain ⟨_, hfree, h⟩ := bind_eq_ok_iff.mp h
    obtain ⟨_, hfree', h⟩ := bind_eq_ok_iff.mp h
    cases h
    rw [not_or, Decidable.not_not, Decidable.not_not] at hlisted
    rw [singleCharacter_eq_ok_iff] at hopening hclosing
    rw [unclaimed_eq_ok_iff] at hfree hfree'
    refine ⟨?_, hdistinct, hlisted, hfree, hfree'⟩
    rw [DelimiterPair.written, hopening, hclosing]
  · rintro ⟨rfl, hp⟩
    refine bind_eq_ok_iff.mpr ⟨p.opening, (singleCharacter_eq_ok_iff _ _).mpr rfl, ?_⟩
    refine bind_eq_ok_iff.mpr ⟨p.closing, (singleCharacter_eq_ok_iff _ _).mpr rfl, ?_⟩
    refine unless_eq_ok_iff.mpr ⟨hp.distinct, unless_eq_ok_iff.mpr ⟨?_, ?_⟩⟩
    · rw [not_or, Decidable.not_not, Decidable.not_not]
      exact hp.delimiters
    · refine bind_eq_ok_iff.mpr ⟨⟨⟩, unclaimed_eq_ok_iff.mpr hp.opening, ?_⟩
      exact bind_eq_ok_iff.mpr ⟨⟨⟩, unclaimed_eq_ok_iff.mpr hp.closing, rfl⟩

theorem compileBlockComment_eq_ok_iff (pair : MarkerPair) (block : BlockComment) :
    compileBlockComment pair = .ok block ↔ block.written = pair := by
  unfold compileBlockComment
  constructor
  · intro h
    obtain ⟨opening, hopening, h⟩ := bind_eq_ok_iff.mp h
    obtain ⟨closing, hclosing, h⟩ := bind_eq_ok_iff.mp h
    cases h
    rw [marker_eq_ok_iff] at hopening hclosing
    rw [BlockComment.written, hopening, hclosing]
  · rintro rfl
    refine bind_eq_ok_iff.mpr ⟨block.opening, (marker_eq_ok_iff _ _).mpr rfl, ?_⟩
    exact bind_eq_ok_iff.mpr ⟨block.closing, (marker_eq_ok_iff _ _).mpr rfl, rfl⟩

theorem mapM_compileBlockComment_eq_ok_iff (pair : Option MarkerPair)
    (block : Option BlockComment) :
    pair.mapM compileBlockComment = .ok block ↔ block.map BlockComment.written = pair := by
  cases pair with
  | none =>
    rw [Option.map_eq_none_iff]
    exact ⟨fun h => (Except.ok.inj h).symm, fun h => h ▸ rfl⟩
  | some pair =>
    rw [Option.mapM_some, Option.map_eq_some_iff]
    constructor
    · intro h
      cases hblock : compileBlockComment pair with
      | error e =>
        rw [hblock] at h
        cases h
      | ok found =>
        rw [hblock] at h
        exact ⟨found, (Except.ok.inj h).symm, (compileBlockComment_eq_ok_iff _ _).mp hblock⟩
    · rintro ⟨found, rfl, hfound⟩
      rw [(compileBlockComment_eq_ok_iff _ _).mpr hfound]
      rfl

/-- A vocabulary is compiled from its description, unless a keyword is empty or a pair cannot be
used. -/
theorem compile_eq_ok_iff : language.compile = .ok v ↔ v.written = language ∧
    "" ∉ language.keywords ∧ ∀ pair ∈ v.pairs, language.Pairable v.delimiters v.quotes pair := by
  unfold compile
  constructor
  · intro h
    obtain ⟨hkeywords, h⟩ := unless_eq_ok_iff.mp h
    obtain ⟨operators, hoperators, h⟩ := bind_eq_ok_iff.mp h
    obtain ⟨lineComments, hlineComments, h⟩ := bind_eq_ok_iff.mp h
    obtain ⟨delimiters, hdelimiters, h⟩ := bind_eq_ok_iff.mp h
    obtain ⟨quotes, hquotes, h⟩ := bind_eq_ok_iff.mp h
    obtain ⟨pairs, hpairs, h⟩ := bind_eq_ok_iff.mp h
    obtain ⟨blockComment, hblockComment, h⟩ := bind_eq_ok_iff.mp h
    cases h
    rw [mapM_eq_ok_iff_map marker_eq_ok_iff] at hoperators hlineComments
    rw [mapM_eq_ok_iff_map singleCharacter_eq_ok_iff] at hdelimiters hquotes
    rw [mapM_eq_ok_iff compilePair_eq_ok_iff] at hpairs
    rw [mapM_compileBlockComment_eq_ok_iff] at hblockComment
    refine ⟨?_, hkeywords, hpairs.2⟩
    rw [Vocabulary.written, hoperators, hlineComments, hdelimiters, hquotes, hpairs.1,
      hblockComment]
  · rintro ⟨rfl, hkeywords, hpairs⟩
    refine unless_eq_ok_iff.mpr ⟨hkeywords, ?_⟩
    refine bind_eq_ok_iff.mpr ⟨v.operators, (mapM_eq_ok_iff_map marker_eq_ok_iff).mpr rfl, ?_⟩
    refine bind_eq_ok_iff.mpr ⟨v.lineComments, (mapM_eq_ok_iff_map marker_eq_ok_iff).mpr rfl, ?_⟩
    refine bind_eq_ok_iff.mpr
      ⟨v.delimiters, (mapM_eq_ok_iff_map singleCharacter_eq_ok_iff).mpr rfl, ?_⟩
    refine bind_eq_ok_iff.mpr ⟨v.quotes, (mapM_eq_ok_iff_map singleCharacter_eq_ok_iff).mpr rfl, ?_⟩
    refine bind_eq_ok_iff.mpr ⟨v.pairs, (mapM_eq_ok_iff compilePair_eq_ok_iff).mpr ⟨rfl, hpairs⟩, ?_⟩
    exact bind_eq_ok_iff.mpr ⟨v.blockComment, (mapM_compileBlockComment_eq_ok_iff _ _).mpr rfl,
      congrArg Except.ok v.eq_of_lists⟩

theorem length_eq_one_iff {text : String} : text.length = 1 ↔ ∃ c, String.singleton c = text := by
  rw [← String.length_toList, List.length_eq_one_iff]
  simp only [← String.toList_inj, String.toList_singleton, eq_comm]

theorem refused_of_singleCharacter_error {field : LanguageField} {value : String}
    {e : VocabularyError} (h : singleCharacter field value = .error e) :
    value.length ≠ 1 ∧ e = .notSingleCharacter field value := by
  constructor
  · intro hlength
    obtain ⟨c, hc⟩ := length_eq_one_iff.mp hlength
    rw [(singleCharacter_eq_ok_iff value c).mpr hc] at h
    cases h
  · unfold singleCharacter at h
    split at h
    · cases h
    · exact (Except.error.inj h).symm

theorem refused_of_marker_error {field : LanguageField} {value : String} {e : VocabularyError}
    (h : marker field value = .error e) : value = "" ∧ e = .emptyEntry field := by
  unfold marker at h
  split at h
  · cases h
  · next hvalue => exact ⟨String.toList_inj.mp hvalue, (Except.error.inj h).symm⟩

theorem refused_of_compileBlockComment_error {pair : Option MarkerPair} {e : VocabularyError}
    (h : pair.mapM compileBlockComment = .error e) :
    (∃ block, pair = some block ∧ "" ∈ block.members) ∧ e = .emptyEntry .blockComment := by
  cases pair with
  | none => cases h
  | some pair =>
    rw [Option.mapM_some] at h
    cases hblock : compileBlockComment pair with
    | ok block =>
      rw [hblock] at h
      cases h
    | error d =>
      rw [hblock] at h
      obtain rfl : d = e := Except.error.inj h
      rcases bind_eq_error hblock with hopening | ⟨_, -, hblock⟩
      · obtain ⟨hempty, he⟩ := refused_of_marker_error hopening
        exact ⟨⟨pair, rfl, by simp [MarkerPair.members, hempty]⟩, he⟩
      rcases bind_eq_error hblock with hclosing | ⟨_, -, hpure⟩
      · obtain ⟨hempty, he⟩ := refused_of_marker_error hclosing
        exact ⟨⟨pair, rfl, by simp [MarkerPair.members, hempty]⟩, he⟩
      · cases hpure

inductive PairRefused (language : Language) (delimiters quotes : List Char) (pair : MarkerPair) :
    VocabularyError → Prop where
  | notSingle {value : String} (hvalue : value ∈ pair.members) (hlength : value.length ≠ 1) :
      PairRefused language delimiters quotes pair (.notSingleCharacter .pairs value)
  | sameCharacter {p : DelimiterPair} (hpair : p.written = pair) (hsame : p.opening = p.closing) :
      PairRefused language delimiters quotes pair (.pairSameCharacter pair)
  | notDelimiter {p : DelimiterPair} (hpair : p.written = pair)
      (hmissing : p.opening ∉ delimiters ∨ p.closing ∉ delimiters) :
      PairRefused language delimiters quotes pair (.pairNotDelimiter pair)
  | shadowed {c : Char} {rule : ClaimingRule} (hc : String.singleton c ∈ pair.members)
      (hrule : language.claimingRule? quotes c = some rule) :
      PairRefused language delimiters quotes pair (.pairShadowed c rule)

theorem refused_of_unclaimed_error {quotes : List Char} {c : Char} {e : VocabularyError}
    (h : language.unclaimed quotes c = .error e) :
    ∃ rule, language.claimingRule? quotes c = some rule ∧ e = .pairShadowed c rule := by
  unfold unclaimed at h
  split at h
  · next rule hrule => exact ⟨rule, hrule, (Except.error.inj h).symm⟩
  · cases h

theorem refused_of_compilePair_error {delimiters quotes : List Char} {pair : MarkerPair}
    {e : VocabularyError} (h : language.compilePair delimiters quotes pair = .error e) :
    language.PairRefused delimiters quotes pair e := by
  unfold compilePair at h
  rcases bind_eq_error h with hopening | ⟨opening, hopening, h⟩
  · obtain ⟨hlength, rfl⟩ := refused_of_singleCharacter_error hopening
    exact .notSingle (by simp [MarkerPair.members]) hlength
  rcases bind_eq_error h with hclosing | ⟨closing, hclosing, h⟩
  · obtain ⟨hlength, rfl⟩ := refused_of_singleCharacter_error hclosing
    exact .notSingle (by simp [MarkerPair.members]) hlength
  rw [singleCharacter_eq_ok_iff] at hopening hclosing
  have hpair : DelimiterPair.written ⟨opening, closing⟩ = pair := by
    rw [DelimiterPair.written, hopening, hclosing]
  rcases unless_eq_error h with ⟨hsame, rfl⟩ | h
  · exact .sameCharacter hpair hsame
  rcases unless_eq_error h with ⟨hmissing, rfl⟩ | h
  · exact .notDelimiter hpair hmissing
  rcases bind_eq_error h with hclaimed | ⟨_, -, h⟩
  · obtain ⟨rule, hrule, rfl⟩ := refused_of_unclaimed_error hclaimed
    exact .shadowed (by simp [MarkerPair.members, hopening]) hrule
  rcases bind_eq_error h with hclaimed | ⟨_, -, h⟩
  · obtain ⟨rule, hrule, rfl⟩ := refused_of_unclaimed_error hclaimed
    exact .shadowed (by simp [MarkerPair.members, hclosing]) hrule
  · cases h

/-- Why a description is refused, in the order of the checks. Pairs are looked at when the
delimiters and the quotes have been read. -/
inductive Refused (language : Language) : VocabularyError → Prop where
  | keyword (hempty : "" ∈ language.keywords) : Refused language (.emptyEntry .keywords)
  | operator (hempty : "" ∈ language.operators) : Refused language (.emptyEntry .operators)
  | lineComment (hempty : "" ∈ language.lineComments) : Refused language (.emptyEntry .lineComments)
  | delimiter {value : String} (hvalue : value ∈ language.delimiters)
      (hlength : value.length ≠ 1) : Refused language (.notSingleCharacter .delimiters value)
  | quote {value : String} (hvalue : value ∈ language.quotes) (hlength : value.length ≠ 1) :
      Refused language (.notSingleCharacter .quotes value)
  | pair {delimiters quotes : List Char} {pair : MarkerPair} {e : VocabularyError}
      (hdelimiters : delimiters.map String.singleton = language.delimiters)
      (hquotes : quotes.map String.singleton = language.quotes) (hpair : pair ∈ language.pairs)
      (hrefused : language.PairRefused delimiters quotes pair e) : Refused language e
  | blockComment {block : MarkerPair} (hblock : language.blockComment = some block)
      (hempty : "" ∈ block.members) : Refused language (.emptyEntry .blockComment)

theorem refused_of_compile_error {e : VocabularyError} (h : language.compile = .error e) :
    language.Refused e := by
  unfold compile at h
  rcases unless_eq_error h with ⟨hempty, rfl⟩ | h
  · exact .keyword hempty
  rcases bind_eq_error h with h | ⟨operators, -, h⟩
  · obtain ⟨value, hvalue, herror⟩ := mapM_eq_error h
    obtain ⟨rfl, rfl⟩ := refused_of_marker_error herror
    exact .operator hvalue
  rcases bind_eq_error h with h | ⟨lineComments, -, h⟩
  · obtain ⟨value, hvalue, herror⟩ := mapM_eq_error h
    obtain ⟨rfl, rfl⟩ := refused_of_marker_error herror
    exact .lineComment hvalue
  rcases bind_eq_error h with h | ⟨delimiters, hdelimiters, h⟩
  · obtain ⟨value, hvalue, herror⟩ := mapM_eq_error h
    obtain ⟨hlength, rfl⟩ := refused_of_singleCharacter_error herror
    exact .delimiter hvalue hlength
  rcases bind_eq_error h with h | ⟨quotes, hquotes, h⟩
  · obtain ⟨value, hvalue, herror⟩ := mapM_eq_error h
    obtain ⟨hlength, rfl⟩ := refused_of_singleCharacter_error herror
    exact .quote hvalue hlength
  rw [mapM_eq_ok_iff_map singleCharacter_eq_ok_iff] at hdelimiters hquotes
  rcases bind_eq_error h with h | ⟨pairs, -, h⟩
  · obtain ⟨pair, hpair, herror⟩ := mapM_eq_error h
    exact .pair hdelimiters hquotes hpair (refused_of_compilePair_error herror)
  rcases bind_eq_error h with h | ⟨blockComment, -, h⟩
  · obtain ⟨⟨block, hblock, hempty⟩, rfl⟩ := refused_of_compileBlockComment_error h
    exact .blockComment hblock hempty
  · cases h

variable {c : Char} {rule : ClaimingRule}

/-- A character that is refused in a pair is claimed by the rule that is named. -/
theorem claimed_of_compile_error (h : language.compile = .error (.pairShadowed c rule)) :
    ∃ quotes, quotes.map String.singleton = language.quotes ∧
      language.claimingRule? quotes c = some rule := by
  cases refused_of_compile_error h with
  | pair hdelimiters hquotes hpair hrefused =>
    cases hrefused with
    | shadowed hc hrule => exact ⟨_, hquotes, hrule⟩

/-- What the compiled vocabulary satisfies can be computed. -/
theorem satisfies_of_any (language : Language) {p : Vocabulary → Prop} [DecidablePred p]
    (h : language.compile.toOption.any (fun v => decide (p v)) = true) :
    ∃ v, language.compile = .ok v ∧ p v := by
  cases hv : language.compile with
  | error e =>
    rw [hv] at h
    cases h
  | ok v =>
    rw [hv] at h
    exact ⟨v, rfl, of_decide_eq_true h⟩

theorem standard_satisfies {p : Vocabulary → Prop} [DecidablePred p]
    (h : standard.compile.toOption.any (fun v => decide (p v)) = true) :
    ∃ v, standard.compile = .ok v ∧ p v := satisfies_of_any standard h

theorem standard_compiles : ∃ v, standard.compile = .ok v := by
  obtain ⟨v, hv, -⟩ := standard_satisfies (p := fun _ => True) (by decide +kernel)
  exact ⟨v, hv⟩

end Language

end SourceCheck
