import Mathlib.Data.Set.List
import SourceCheck.Proofs.Language.Compile

/-!
Which descriptions are accepted. What makes a description usable is told by its texts alone, without
the characters and markers that they are compiled to. Compiling accepts the usable descriptions, and
what it says of the others is true of the entry, pair or character that it names.
-/

namespace SourceCheck

def ClaimingRule.order : List ClaimingRule := [.string, .number, .identifier, .operator, .comment]

theorem ClaimingRule.mem_order (rule : ClaimingRule) : rule ∈ order := by
  cases rule <;> decide

namespace Language

variable {language : Language} {c : Char}

def Claims (language : Language) (c : Char) : ClaimingRule → Prop
  | .string => String.singleton c ∈ language.quotes
  | .number => c.isDigit = true
  | .identifier => Text.startsWord c = true
  | .operator => String.singleton c ∈ language.operators
  | .comment => String.singleton c ∈ language.lineComments ∨
      ∃ block ∈ language.blockComment, block.opening = String.singleton c

instance (language : Language) (c : Char) : (rule : ClaimingRule) →
    Decidable (language.Claims c rule)
  | .string => inferInstanceAs (Decidable (_ ∈ _))
  | .number => inferInstanceAs (Decidable (_ = _))
  | .identifier => inferInstanceAs (Decidable (_ = _))
  | .operator => inferInstanceAs (Decidable (_ ∈ _))
  | .comment => inferInstanceAs (Decidable (_ ∨ _))

structure ClaimsFirst (language : Language) (c : Char) (rule : ClaimingRule) : Prop where
  claims : language.Claims c rule
  first : ∃ before behind, ClaimingRule.order = before ++ rule :: behind ∧
    ∀ other ∈ before, ¬ language.Claims c other

structure UsablePair (language : Language) (pair : MarkerPair) : Prop where
  single : ∀ text ∈ pair.members, text.length = 1
  distinct : pair.opening ≠ pair.closing
  listed : ∀ text ∈ pair.members, text ∈ language.delimiters
  unclaimed : ∀ c, String.singleton c ∈ pair.members → ∀ rule, ¬ language.Claims c rule

structure Usable (language : Language) : Prop where
  keywords : "" ∉ language.keywords
  operators : "" ∉ language.operators
  lineComments : "" ∉ language.lineComments
  delimiters : ∀ text ∈ language.delimiters, text.length = 1
  quotes : ∀ text ∈ language.quotes, text.length = 1
  pairs : ∀ pair ∈ language.pairs, language.UsablePair pair
  blockComment : ∀ block ∈ language.blockComment, "" ∉ block.members

def entries (language : Language) : LanguageField → List String
  | .keywords => language.keywords
  | .operators => language.operators
  | .delimiters => language.delimiters
  | .pairs => language.pairs.flatMap MarkerPair.members
  | .lineComments => language.lineComments
  | .blockComment => language.blockComment.toList.flatMap MarkerPair.members
  | .quotes => language.quotes

inductive Defect (language : Language) : VocabularyError → Prop where
  | notSingleCharacter {field : LanguageField} {value : String}
      (hfield : field ∈ [.delimiters, .quotes, .pairs]) (hvalue : value ∈ language.entries field)
      (hlength : value.length ≠ 1) : Defect language (.notSingleCharacter field value)
  | emptyEntry {field : LanguageField}
      (hfield : field ∈ [.keywords, .operators, .lineComments, .blockComment])
      (hempty : "" ∈ language.entries field) : Defect language (.emptyEntry field)
  | pairNotDelimiter {pair : MarkerPair} (hpair : pair ∈ language.pairs)
      (hsingle : ∀ text ∈ pair.members, text.length = 1)
      (hmissing : ∃ text ∈ pair.members, text ∉ language.delimiters) :
      Defect language (.pairNotDelimiter pair)
  | pairSameCharacter {pair : MarkerPair} (hpair : pair ∈ language.pairs)
      (hsingle : ∀ text ∈ pair.members, text.length = 1) (hsame : pair.opening = pair.closing) :
      Defect language (.pairSameCharacter pair)
  | pairShadowed {c : Char} {rule : ClaimingRule}
      (hc : String.singleton c ∈ language.entries .pairs)
      (hclaimed : language.ClaimsFirst c rule) : Defect language (.pairShadowed c rule)

theorem find?_cons_eq_ite {α : Type} {p : α → Prop} [DecidablePred p] (a : α) (as : List α) :
    (a :: as).find? (fun b => p b) = if p a then some a else as.find? fun b => p b := by
  by_cases ha : p a <;> simp [ha]

section Lists

variable {delimiters quotes : List Char}
  (hdelimiters : delimiters.map String.singleton = language.delimiters)
  (hquotes : quotes.map String.singleton = language.quotes)

include hquotes

theorem claimingRule?_eq_find? : language.claimingRule? quotes c =
    ClaimingRule.order.find? fun rule => language.Claims c rule := by
  have hcomment : language.blockComment.any (·.opening == String.singleton c) = true ↔
      ∃ block ∈ language.blockComment, block.opening = String.singleton c := by
    simp only [Option.any_eq_true, beq_iff_eq, Option.mem_def]
  have hstring : c ∈ quotes ↔ language.Claims c .string := by
    rw [Claims, ← hquotes, singleton_mem_iff]
  simp only [ClaimingRule.order, find?_cons_eq_ite, List.find?_nil]
  refine ite_congr (propext hstring) (fun _ => rfl) fun _ => ?_
  refine ite_congr rfl (fun _ => rfl) fun _ => ?_
  refine ite_congr rfl (fun _ => rfl) fun _ => ?_
  refine ite_congr rfl (fun _ => rfl) fun _ => ?_
  exact ite_congr (propext (or_congr_right hcomment)) (fun _ => rfl) fun _ => rfl

theorem claimingRule?_eq_none_iff :
    language.claimingRule? quotes c = none ↔ ∀ rule, ¬ language.Claims c rule := by
  rw [claimingRule?_eq_find? hquotes, List.find?_eq_none]
  simp only [decide_eq_true_eq]
  exact ⟨fun h rule => h rule rule.mem_order, fun h rule _ => h rule⟩

theorem claimsFirst_of_claimingRule? {rule : ClaimingRule}
    (h : language.claimingRule? quotes c = some rule) : language.ClaimsFirst c rule := by
  rw [claimingRule?_eq_find? hquotes, List.find?_eq_some_iff_append] at h
  obtain ⟨hclaims, before, behind, horder, hbefore⟩ := h
  refine ⟨of_decide_eq_true hclaims, before, behind, horder, ?_⟩
  intro other hother hclaims
  simpa [hclaims] using hbefore other hother

include hdelimiters

theorem usablePair_written_iff {p : DelimiterPair} :
    language.UsablePair p.written ↔ language.Pairable delimiters quotes p := by
  have hmembers : p.written.members = [p.opening, p.closing].map String.singleton := rfl
  constructor
  · intro h
    have hlisted := h.listed
    have hunclaimed := h.unclaimed
    simp only [hmembers, ← hdelimiters, List.forall_mem_map, singleton_mem_iff,
      ← claimingRule?_eq_none_iff hquotes] at hlisted hunclaimed
    refine ⟨?_, ⟨?_, ?_⟩, ?_, ?_⟩
    · intro hsame
      exact h.distinct (congrArg String.singleton hsame)
    · exact hlisted p.opening (by simp)
    · exact hlisted p.closing (by simp)
    · exact hunclaimed p.opening (by simp)
    · exact hunclaimed p.closing (by simp)
  · intro h
    refine ⟨?_, ?_, ?_, ?_⟩
    · rw [hmembers, List.forall_mem_map]
      intro d _
      exact length_eq_one_iff.mpr ⟨d, rfl⟩
    · intro hsame
      exact h.distinct (String.singleton_inj.mp hsame)
    · rw [hmembers, List.forall_mem_map, ← hdelimiters]
      simp only [singleton_mem_iff]
      exact List.forall_mem_cons.mpr ⟨h.delimiters.1, by simpa using h.delimiters.2⟩
    · simp only [hmembers, singleton_mem_iff, ← claimingRule?_eq_none_iff hquotes]
      exact List.forall_mem_cons.mpr ⟨h.opening, by simpa using h.closing⟩

theorem defect_of_pairRefused {pair : MarkerPair} (hpair : pair ∈ language.pairs)
    {e : VocabularyError} (h : language.PairRefused delimiters quotes pair e) :
    language.Defect e := by
  have hwritten : ∀ p : DelimiterPair, ∀ text ∈ p.written.members, text.length = 1 := by
    intro p text htext
    obtain ⟨d, -, rfl⟩ := List.mem_map.mp
      (show text ∈ [p.opening, p.closing].map String.singleton from htext)
    exact length_eq_one_iff.mpr ⟨d, rfl⟩
  cases h with
  | notSingle hvalue hlength =>
    exact .notSingleCharacter (by decide) (List.mem_flatMap.mpr ⟨pair, hpair, hvalue⟩) hlength
  | @sameCharacter p hp hsame =>
    subst hp
    exact .pairSameCharacter hpair (hwritten p) (congrArg String.singleton hsame)
  | @notDelimiter p hp hmissing =>
    subst hp
    refine .pairNotDelimiter hpair (hwritten p) ?_
    rw [← singleton_mem_iff, ← singleton_mem_iff (c := p.closing), hdelimiters] at hmissing
    rcases hmissing with hmissing | hmissing
    · exact ⟨_, List.mem_cons_self, hmissing⟩
    · exact ⟨_, List.mem_cons_of_mem _ List.mem_cons_self, hmissing⟩
  | shadowed hc hrule =>
    exact .pairShadowed (List.mem_flatMap.mpr ⟨pair, hpair, hc⟩)
      (claimsFirst_of_claimingRule? hquotes hrule)

end Lists

theorem defect_of_refused {e : VocabularyError} (h : language.Refused e) : language.Defect e := by
  cases h with
  | keyword hempty => exact .emptyEntry (by decide) hempty
  | operator hempty => exact .emptyEntry (by decide) hempty
  | lineComment hempty => exact .emptyEntry (by decide) hempty
  | delimiter hvalue hlength => exact .notSingleCharacter (by decide) hvalue hlength
  | quote hvalue hlength => exact .notSingleCharacter (by decide) hvalue hlength
  | pair hdelimiters hquotes hpair hrefused =>
    exact defect_of_pairRefused hdelimiters hquotes hpair hrefused
  | blockComment hblock hempty =>
    refine .emptyEntry (by decide) (List.mem_flatMap.mpr ⟨_, ?_, hempty⟩)
    exact Option.mem_toList.mpr hblock

theorem empty_not_mem_texts (markers : List Marker) : "" ∉ markers.map Marker.text := by
  intro h
  obtain ⟨m, -, hm⟩ := List.mem_map.mp h
  have hchars := congrArg String.toList hm
  rw [Marker.toList_text] at hchars
  cases hchars

theorem length_of_mem_singletons (cs : List Char) :
    ∀ text ∈ cs.map String.singleton, text.length = 1 := by
  rw [List.forall_mem_map]
  intro c _
  exact length_eq_one_iff.mpr ⟨c, rfl⟩

theorem exists_map_eq {α β : Type} {g : β → α} {as : List α} (h : ∀ a ∈ as, ∃ b, g b = a) :
    ∃ bs : List β, bs.map g = as := by
  have hrange : as ∈ Set.range (List.map g) := by
    rw [Set.range_list_map]
    exact h
  exact hrange

theorem exists_marker {text : String} (h : text ≠ "") : ∃ m : Marker, m.text = text := by
  cases htext : text.toList with
  | nil => exact absurd (String.toList_inj.mp htext) h
  | cons c rest => exact ⟨⟨c, rest⟩, String.toList_inj.mp ((Marker.toList_text _).trans htext.symm)⟩

theorem usable_of_compile {v : Vocabulary} (hv : language.compile = .ok v) : language.Usable := by
  obtain ⟨rfl, hkeywords, hpairs⟩ := compile_eq_ok_iff.mp hv
  constructor
  · exact hkeywords
  · exact empty_not_mem_texts v.operators
  · exact empty_not_mem_texts v.lineComments
  · exact length_of_mem_singletons v.delimiters
  · exact length_of_mem_singletons v.quotes
  · refine List.forall_mem_map.mpr ?_
    intro p hp
    exact (usablePair_written_iff rfl rfl).mpr (hpairs p hp)
  · intro block hblock
    obtain ⟨b, -, rfl⟩ := Option.map_eq_some_iff.mp hblock
    exact empty_not_mem_texts [b.opening, b.closing]

theorem exists_written {pair : MarkerPair} (h : ∀ text ∈ pair.members, text.length = 1) :
    ∃ p : DelimiterPair, p.written = pair := by
  obtain ⟨opening, hopening⟩ := length_eq_one_iff.mp (h pair.opening (by simp [MarkerPair.members]))
  obtain ⟨closing, hclosing⟩ := length_eq_one_iff.mp (h pair.closing (by simp [MarkerPair.members]))
  exact ⟨⟨opening, closing⟩, by rw [DelimiterPair.written, hopening, hclosing]⟩

theorem exists_blockComment {pair : Option MarkerPair} (h : ∀ block ∈ pair, "" ∉ block.members) :
    ∃ block : Option BlockComment, block.map BlockComment.written = pair := by
  cases pair with
  | none => exact ⟨none, rfl⟩
  | some pair =>
    have hmembers := h pair rfl
    rw [MarkerPair.members, List.mem_cons, List.mem_singleton, not_or] at hmembers
    obtain ⟨opening, hopening⟩ := exists_marker (Ne.symm hmembers.1)
    obtain ⟨closing, hclosing⟩ := exists_marker (Ne.symm hmembers.2)
    exact ⟨some ⟨opening, closing⟩, by
      rw [Option.map_some, BlockComment.written, hopening, hclosing]⟩

theorem compile_of_usable (h : language.Usable) : ∃ v, language.compile = .ok v := by
  have hmarkers : ∀ texts : List String, "" ∉ texts →
      ∃ markers : List Marker, markers.map Marker.text = texts := by
    intro texts hempty
    exact exists_map_eq fun text htext => exists_marker fun heq => hempty (heq ▸ htext)
  obtain ⟨operators, hoperators⟩ := hmarkers language.operators h.operators
  obtain ⟨lineComments, hlineComments⟩ := hmarkers language.lineComments h.lineComments
  obtain ⟨delimiters, hdelimiters⟩ := exists_map_eq (g := String.singleton)
    fun text htext => length_eq_one_iff.mp (h.delimiters text htext)
  obtain ⟨quotes, hquotes⟩ := exists_map_eq (g := String.singleton)
    fun text htext => length_eq_one_iff.mp (h.quotes text htext)
  obtain ⟨pairs, hpairs⟩ := exists_map_eq
    fun pair hpair => exists_written (h.pairs pair hpair).single
  obtain ⟨blockComment, hblockComment⟩ := exists_blockComment h.blockComment
  have hwritten : Vocabulary.written {
      keywords := language.keywords
      trueWord := language.trueWord
      falseWord := language.falseWord
      operators, delimiters, pairs, lineComments, blockComment, quotes
      multilineStrings := language.multilineStrings } = language := by
    rw [Vocabulary.written, hoperators, hdelimiters, hpairs, hlineComments, hblockComment, hquotes]
  refine ⟨_, compile_eq_ok_iff.mpr ⟨hwritten, h.keywords, ?_⟩⟩
  intro p hp
  refine (usablePair_written_iff hdelimiters hquotes).mp (h.pairs p.written ?_)
  exact hpairs ▸ List.mem_map_of_mem hp

theorem compiles_iff_usable : (∃ v, language.compile = .ok v) ↔ language.Usable := by
  constructor
  · rintro ⟨v, hv⟩
    exact usable_of_compile hv
  · exact compile_of_usable

/-- Compiling accepts exactly the usable descriptions, and what it says of another is true: the
entry, pair or character that it names is in the description and has the defect that it names. -/
theorem compile_refuses_exactly_the_defects (language : Language) :
    ((∃ v, language.compile = .ok v) ↔ language.Usable) ∧
      ∀ e, language.compile = .error e → language.Defect e := by
  constructor
  · exact compiles_iff_usable
  · intro e he
    exact defect_of_refused (refused_of_compile_error he)

/-- A letter as a delimiter, an operator and one half of a pair: the scan reads it as a word before
it looks at operators. -/
def letterPair : Language :=
  { standard with operators := ["é"], delimiters := ["é", "]"], pairs := [⟨"é", "]"⟩] }

theorem compile_refuses_exactly_the_defects_letter :
    letterPair.compile = .error (.pairShadowed 'é' .identifier) ∧
      letterPair.Claims 'é' .identifier ∧ letterPair.Claims 'é' .operator ∧
      letterPair.Defect (.pairShadowed 'é' .identifier) ∧ ¬ letterPair.Usable := by
  have hrefused : letterPair.compile = .error (.pairShadowed 'é' .identifier) := by decide +kernel
  obtain ⟨haccepted, hdefect⟩ := compile_refuses_exactly_the_defects letterPair
  refine ⟨hrefused, by decide +kernel, by decide +kernel, hdefect _ hrefused, ?_⟩
  intro husable
  obtain ⟨v, hv⟩ := haccepted.mpr husable
  rw [hrefused] at hv
  cases hv

end Language

end SourceCheck
