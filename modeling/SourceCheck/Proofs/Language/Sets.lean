import Mathlib.Data.List.Basic
import SourceCheck.Balance.Check
import SourceCheck.Proofs.Language.Acceptance
import SourceCheck.Proofs.Language.Markers
import SourceCheck.Proofs.Scan.Reports
import SourceCheck.Proofs.Scan.Stops

/-!
The lists of a description are sets. In which order it names its keywords, operators, delimiters,
quotes and line comments, and how often, is not seen in what is accepted, scanned and balanced. Of
the line comment markers that begin the input the first one listed counts, but the comment reaches
to the end of the line whichever that is, as long as no marker holds a newline.
-/

namespace SourceCheck

theorem Marker.text_injective : Function.Injective Marker.text := by
  intro m n h
  obtain ⟨first, rest⟩ := m
  obtain ⟨first', rest'⟩ := n
  have hchars := congrArg String.toList h
  rw [Marker.toList_text, Marker.toList_text] at hchars
  obtain ⟨rfl, rfl⟩ := List.cons.inj hchars
  rfl

theorem DelimiterPair.written_injective : Function.Injective DelimiterPair.written := by
  intro p q h
  obtain ⟨opening, closing⟩ := p
  obtain ⟨opening', closing'⟩ := q
  obtain ⟨hopening, hclosing⟩ := MarkerPair.mk.inj h
  exact congrArg₂ DelimiterPair.mk (String.singleton_inj.mp hopening)
    (String.singleton_inj.mp hclosing)

theorem BlockComment.written_injective : Function.Injective BlockComment.written := by
  intro b d h
  obtain ⟨opening, closing⟩ := b
  obtain ⟨opening', closing'⟩ := d
  obtain ⟨hopening, hclosing⟩ := MarkerPair.mk.inj h
  exact congrArg₂ BlockComment.mk (Marker.text_injective hopening) (Marker.text_injective hclosing)

/-- The descriptions differ in the order of their entries and in repetitions only. -/
structure Language.SameSets (a b : Language) : Prop where
  keywords : ∀ text, text ∈ a.keywords ↔ text ∈ b.keywords
  trueWord : a.trueWord = b.trueWord
  falseWord : a.falseWord = b.falseWord
  operators : ∀ text, text ∈ a.operators ↔ text ∈ b.operators
  delimiters : ∀ text, text ∈ a.delimiters ↔ text ∈ b.delimiters
  pairs : a.pairs = b.pairs
  lineComments : ∀ text, text ∈ a.lineComments ↔ text ∈ b.lineComments
  blockComment : a.blockComment = b.blockComment
  quotes : ∀ text, text ∈ a.quotes ↔ text ∈ b.quotes
  multilineStrings : a.multilineStrings = b.multilineStrings

namespace Language

variable {a b : Language}

theorem SameSets.claims_iff (h : a.SameSets b) (c : Char) (rule : ClaimingRule) :
    a.Claims c rule ↔ b.Claims c rule := by
  cases rule with
  | string => exact h.quotes _
  | number => exact Iff.rfl
  | identifier => exact Iff.rfl
  | operator => exact h.operators _
  | comment => exact or_congr (h.lineComments _) (by rw [h.blockComment])

theorem SameSets.usable (h : a.SameSets b) (ha : a.Usable) : b.Usable := by
  constructor
  · rw [← h.keywords]
    exact ha.keywords
  · rw [← h.operators]
    exact ha.operators
  · rw [← h.lineComments]
    exact ha.lineComments
  · intro text htext
    exact ha.delimiters text ((h.delimiters text).mpr htext)
  · intro text htext
    exact ha.quotes text ((h.quotes text).mpr htext)
  · rw [← h.pairs]
    intro pair hpair
    obtain ⟨hsingle, hdistinct, hlisted, hunclaimed⟩ := ha.pairs pair hpair
    refine ⟨hsingle, hdistinct, ?_, ?_⟩
    · intro text htext
      exact (h.delimiters text).mp (hlisted text htext)
    · intro c hc rule
      rw [← h.claims_iff]
      exact hunclaimed c hc rule
  · rw [← h.blockComment]
    exact ha.blockComment

theorem SameSets.symm (h : a.SameSets b) : b.SameSets a where
  keywords text := (h.keywords text).symm
  trueWord := h.trueWord.symm
  falseWord := h.falseWord.symm
  operators text := (h.operators text).symm
  delimiters text := (h.delimiters text).symm
  pairs := h.pairs.symm
  lineComments text := (h.lineComments text).symm
  blockComment := h.blockComment.symm
  quotes text := (h.quotes text).symm
  multilineStrings := h.multilineStrings.symm

end Language

section Alike

variable {v w : Vocabulary} (h : v.written.SameSets w.written)

include h

namespace Vocabulary

theorem mem_operators_congr (m : Marker) : m ∈ v.operators ↔ m ∈ w.operators := by
  have hsame := h.operators m.text
  simpa only [written, List.mem_map_of_injective Marker.text_injective] using hsame

theorem mem_lineComments_congr (m : Marker) : m ∈ v.lineComments ↔ m ∈ w.lineComments := by
  have hsame := h.lineComments m.text
  simpa only [written, List.mem_map_of_injective Marker.text_injective] using hsame

theorem isKeyword_congr (word : String) : v.isKeyword word = w.isKeyword word := by
  rw [isKeyword, isKeyword, Bool.eq_iff_iff, List.contains_iff_mem, List.contains_iff_mem]
  exact h.keywords word

theorem isDelimiter_congr (c : Char) : v.isDelimiter c = w.isDelimiter c := by
  have hsame := h.delimiters (String.singleton c)
  rw [isDelimiter, isDelimiter, Bool.eq_iff_iff, List.contains_iff_mem, List.contains_iff_mem]
  simpa only [written, Language.singleton_mem_iff] using hsame

theorem isQuote_congr (c : Char) : v.isQuote c = w.isQuote c := by
  have hsame := h.quotes (String.singleton c)
  rw [isQuote, isQuote, Bool.eq_iff_iff, List.contains_iff_mem, List.contains_iff_mem]
  simpa only [written, Language.singleton_mem_iff] using hsame

theorem booleanValue?_congr (word : String) : v.booleanValue? word = w.booleanValue? word := by
  have htrue : v.trueWord = w.trueWord := h.trueWord
  have hfalse : v.falseWord = w.falseWord := h.falseWord
  rw [booleanValue?, booleanValue?, htrue, hfalse]

theorem pairs_congr : v.pairs = w.pairs :=
  List.map_injective_iff.mpr DelimiterPair.written_injective h.pairs

theorem blockComment_congr : v.blockComment = w.blockComment :=
  Option.map_injective BlockComment.written_injective h.blockComment

theorem operator?_congr (input : List Char) : v.operator? input = w.operator? input := by
  cases hfound : v.operator? input with
  | none =>
    symm
    rw [operator?_none_iff] at hfound ⊢
    intro m hm
    exact hfound m ((mem_operators_congr h m).mpr hm)
  | some m =>
    symm
    rw [operator?_eq_some_iff] at hfound ⊢
    obtain ⟨hm, hbegins, hlongest⟩ := hfound
    refine ⟨(mem_operators_congr h m).mp hm, hbegins, ?_⟩
    intro n hn
    exact hlongest n ((mem_operators_congr h n).mpr hn)

theorem lineComment?_none_congr (input : List Char) :
    v.lineComment? input = none ↔ w.lineComment? input = none := by
  simp only [lineComment?_none_iff, mem_lineComments_congr h]

end Vocabulary

namespace Scan

variable {c : Char} {input : List Char}

theorem wordKind_congr (word : String) : wordKind v word = wordKind w word := by
  rw [wordKind, wordKind, Vocabulary.booleanValue?_congr h, Vocabulary.isKeyword_congr h]

theorem lexeme_congr (c : Char) (input : List Char) : lexeme v c input = lexeme w c input := by
  have hmultiline : v.multilineStrings = w.multilineStrings := h.multilineStrings
  simp only [lexeme, Vocabulary.isQuote_congr h, hmultiline, wordKind_congr h,
    Vocabulary.operator?_congr h, Vocabulary.isDelimiter_congr h]

omit h in
/-- A comment reaches to the end of the line, by whichever marker it begins. -/
theorem lineComment_length {m : Marker} (hline : '\n' ∉ m.chars)
    (hbegins : m.begins (c :: input) = true) :
    m.rest.length + runLength (· ≠ '\n') (input.drop m.rest.length) =
      runLength (· ≠ '\n') input := by
  obtain ⟨later, -, rfl⟩ := Marker.begins_cons hbegins
  have hrest : ∀ d ∈ m.rest, decide (d ≠ '\n') = true := by
    intro d hd
    apply decide_eq_true
    rintro rfl
    exact hline (List.mem_cons_of_mem m.first hd)
  rw [List.drop_left, runLength, runLength, List.takeWhile_append_of_pos hrest, List.length_append]

variable (hlines : ∀ m ∈ v.lineComments, '\n' ∉ m.chars)

include hlines

theorem ignored?_congr (c : Char) (input : List Char) :
    ignored? v c input = ignored? w c input := by
  have hnone := Vocabulary.lineComment?_none_congr h (c :: input)
  cases hv : v.lineComment? (c :: input) with
  | none => rw [ignored?, ignored?, hv, hnone.mp hv, Vocabulary.blockComment_congr h]
  | some m =>
    cases hw : w.lineComment? (c :: input) with
    | none =>
      rw [hnone.mpr hw] at hv
      cases hv
    | some n =>
      have hm := hlines m (List.mem_of_find?_eq_some hv)
      have hn := hlines n
        ((Vocabulary.mem_lineComments_congr h n).mpr (List.mem_of_find?_eq_some hw))
      simp only [ignored?, hv, hw, lineComment_length hm (Vocabulary.lineComment?_begins hv),
        lineComment_length hn (Vocabulary.lineComment?_begins hw)]

theorem spanAt_congr (c : Char) (input : List Char) : spanAt v c input = spanAt w c input := by
  rw [spanAt, spanAt, ignored?_congr h hlines, lexeme_congr h]

theorem spans_congr (input : List Char) : spans v input = spans w input := by
  induction input using spans_induction (v := v) with
  | nil => rfl
  | cons c input ih => rw [ih, spans_cons, spanAt_congr h hlines]

theorem events_congr (text : List Char) : events v text = events w text := by
  rw [events, events, spans_congr h hlines]

end Scan

namespace Source

variable (source : Source) (hlines : ∀ m ∈ v.lineComments, '\n' ∉ m.chars)

include hlines

theorem scan_congr : source.scan v = source.scan w := by
  have hevents := Scan.events_congr h hlines source.text.toList
  have hbuffer : (source.scan v).buffer = (source.scan w).buffer := by
    rw [buffer_scan, buffer_scan, hevents]
  have hdiagnostics : (source.scan v).diagnostics = (source.scan w).diagnostics := by
    rw [diagnostics_scan, diagnostics_scan, hevents]
  exact congrArg₂ ResilientScan.mk hbuffer hdiagnostics

theorem scanStrictly_congr : source.scanStrictly v = source.scanStrictly w := by
  rw [scanStrictly_eq, scanStrictly_eq, Scan.events_congr h hlines]

end Source

end Alike

namespace Balance

variable {v w : Vocabulary} (hpairs : v.pairs = w.pairs)

include hpairs

theorem characterRole_congr (c : Char) : characterRole v c = characterRole w c := by
  rw [characterRole, characterRole, Vocabulary.openingPair?, Vocabulary.openingPair?,
    Vocabulary.closingPair?, Vocabulary.closingPair?, hpairs]

theorem role_congr (t : Token) : role v t = role w t := by
  unfold role
  split
  · exact characterRole_congr hpairs _
  · rfl

theorem walk_congr (tokens : List Token) (index : Nat) (openings : List Opening) :
    walk v index openings tokens = walk w index openings tokens := by
  induction tokens generalizing index openings with
  | nil => rfl
  | cons t tokens ih => rw [walk, walk, role_congr hpairs, ih]

theorem check_congr (tokens : List Token) : check v tokens = check w tokens := by
  rw [check, check, issues, issues, walk_congr hpairs]

end Balance

/-- Descriptions with the same entries are accepted alike, and then every source is scanned alike,
resiliently and strictly, and all tokens are balanced alike. -/
theorem entries_count_as_sets (a b : Language) (h : a.SameSets b)
    (hlines : ∀ text ∈ a.lineComments, '\n' ∉ text.toList) :
    ((∃ v, a.compile = .ok v) ↔ ∃ w, b.compile = .ok w) ∧
      ∀ v w, a.compile = .ok v → b.compile = .ok w → ∀ source : Source,
        source.scan v = source.scan w ∧ source.scanStrictly v = source.scanStrictly w ∧
          ∀ tokens, Balance.check v tokens = Balance.check w tokens := by
  constructor
  · rw [Language.compiles_iff_usable, Language.compiles_iff_usable]
    exact ⟨h.usable, h.symm.usable⟩
  · intro v w hv hw source
    obtain ⟨rfl, -⟩ := Language.compile_eq_ok_iff.mp hv
    obtain ⟨rfl, -⟩ := Language.compile_eq_ok_iff.mp hw
    have hmarkers : ∀ m ∈ v.lineComments, '\n' ∉ m.chars := by
      intro m hm
      rw [← Marker.toList_text]
      exact hlines m.text (List.mem_map_of_mem hm)
    exact ⟨source.scan_congr h hmarkers, source.scanStrictly_congr h hmarkers,
      Balance.check_congr (Vocabulary.pairs_congr h)⟩

namespace Language

def twoMarkers : Language := { standard with lineComments := ["//", "//!"] }

def twoMarkersTurned : Language where
  keywords := "if" :: standard.keywords.reverse
  trueWord := standard.trueWord
  falseWord := standard.falseWord
  operators := "=" :: standard.operators.reverse
  delimiters := "(" :: standard.delimiters.reverse
  pairs := standard.pairs
  lineComments := ["//!", "//!", "//"]
  blockComment := standard.blockComment
  quotes := "'" :: standard.quotes.reverse
  multilineStrings := standard.multilineStrings

theorem twoMarkers_sameSets : twoMarkers.SameSets twoMarkersTurned := by
  have hturned : ∀ (texts : List String) (again : String), again ∈ texts →
      ∀ text, text ∈ texts ↔ text ∈ again :: texts.reverse := by
    intro texts again hagain text
    rw [List.mem_cons, List.mem_reverse]
    exact ⟨.inr, fun htext => htext.elim (fun heq => heq ▸ hagain) id⟩
  constructor
  · exact hturned standard.keywords "if" (by decide)
  · rfl
  · rfl
  · exact hturned standard.operators "=" (by decide)
  · exact hturned standard.delimiters "(" (by decide)
  · rfl
  · exact hturned ["//", "//!"] "//!" (by decide)
  · rfl
  · exact hturned standard.quotes "'" (by decide)
  · rfl

end Language

/-- A comment that either marker begins, scanned with the shorter and with the longer one first. -/
theorem entries_count_as_sets_turned :
    Language.twoMarkers.SameSets Language.twoMarkersTurned ∧
      (∀ text ∈ Language.twoMarkers.lineComments, '\n' ∉ text.toList) ∧
      ∃ v w, Language.twoMarkers.compile = .ok v ∧ Language.twoMarkersTurned.compile = .ok w ∧
        Source.scan ⟨"input", "//! a\n(b <= 'c"⟩ v = Source.scan ⟨"input", "//! a\n(b <= 'c"⟩ w := by
  have hlines : ∀ text ∈ Language.twoMarkers.lineComments, '\n' ∉ text.toList := by
    decide +kernel
  obtain ⟨haccepted, hscans⟩ := entries_count_as_sets Language.twoMarkers Language.twoMarkersTurned
    Language.twoMarkers_sameSets hlines
  obtain ⟨v, hv, -⟩ := Language.satisfies_of_any Language.twoMarkers (p := fun _ => True)
    (by decide +kernel)
  obtain ⟨w, hw⟩ := haccepted.mp ⟨v, hv⟩
  exact ⟨Language.twoMarkers_sameSets, hlines, v, w, hv, hw, (hscans v w hv hw _).1⟩

end SourceCheck
