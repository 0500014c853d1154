import SourceCheck.Proofs.Scan.Locality

/-!
Lexemes at the end of a line. A newline stops every scanning rule as the end of the input does, its
lookahead included, as long as no marker holds a newline: comments to the end of the line and
strings that stay in it as well. Only a lexeme that was still open would have gone on.
-/

namespace SourceCheck

namespace Vocabulary

/-- No marker that scanning looks for reaches over the end of a line. The closing marker of a block
comment may. -/
structure MarkersInLine (v : Vocabulary) : Prop where
  operators : ∀ m ∈ v.operators, '\n' ∉ m.chars
  lineComments : ∀ m ∈ v.lineComments, '\n' ∉ m.chars
  blockComment : ∀ block ∈ v.blockComment, '\n' ∉ block.opening.chars

instance (v : Vocabulary) : Decidable v.MarkersInLine :=
  decidable_of_iff ((∀ m ∈ v.operators, '\n' ∉ m.chars) ∧ (∀ m ∈ v.lineComments, '\n' ∉ m.chars) ∧
      ∀ block ∈ v.blockComment, '\n' ∉ block.opening.chars)
    ⟨fun ⟨operators, lineComments, blockComment⟩ => ⟨operators, lineComments, blockComment⟩,
      fun h => ⟨h.operators, h.lineComments, h.blockComment⟩⟩

variable {v : Vocabulary}

theorem MarkersInLine.avoid (h : v.MarkersInLine) : v.MarkersAvoid (· == '\n') := by
  have hline : ∀ m : Marker, '\n' ∉ m.chars → ∀ c ∈ m.chars, (c == '\n') = false := by
    intro m hm c hc
    exact beq_eq_false_iff_ne.mpr fun heq => hm (heq ▸ hc)
  exact ⟨fun m hm => hline m (h.operators m hm), fun m hm => hline m (h.lineComments m hm),
    fun block hblock => hline block.opening (h.blockComment block hblock)⟩

end Vocabulary

namespace Scan

namespace StringBody

/-- A backslash before the newline takes nothing with it, as at the end of the input. -/
theorem read_single_before_newline {quote : Char} (hnewline : quote ≠ '\n')
    (input later : List Char) :
    read quote false (input ++ '\n' :: later) = read quote false input := by
  fun_induction read quote false input with
  | case1 => exact read_newline hnewline later
  | case2 input => exact read_quote quote false (input ++ '\n' :: later)
  | case3 c input hquote hline =>
    obtain ⟨rfl, -⟩ := hline
    exact read_newline hnewline (input ++ '\n' :: later)
  | case4 hquote hline =>
    rw [List.cons_append, List.nil_append, read, if_neg hquote, if_neg hline, if_pos rfl,
      if_pos ⟨rfl, Bool.false_ne_true⟩, read_newline hnewline]
    rfl
  | case5 d rest hd hquote hline ih =>
    rw [List.cons_append, List.cons_append, read, if_neg hquote, if_neg hline, if_pos rfl,
      if_pos hd, ← List.cons_append, ih]
  | case6 d rest hquote hline hd ih =>
    rw [List.cons_append, List.cons_append, read, if_neg hquote, if_neg hline, if_pos rfl,
      if_neg hd, ih]
  | case7 c input hquote hline hescape ih =>
    rw [List.cons_append, read_plain hquote hline hescape, ih]

theorem read_before_newline {quote : Char} {multiline : Bool} {input : List Char}
    (hnewline : quote ≠ '\n')
    (h : multiline = true → (read quote multiline input).closed = true) (later : List Char) :
    read quote multiline (input ++ '\n' :: later) = read quote multiline input := by
  cases multiline with
  | false => exact read_single_before_newline hnewline input later
  | true => exact read_append (h rfl) _

/-- An open string goes on to the end of its line, or of the input. -/
theorem drop_of_open {quote : Char} {multiline : Bool} {input : List Char}
    (h : (read quote multiline input).closed = false) :
    input.drop (read quote multiline input).length = [] ∨ (multiline = false ∧
      ∃ later, input.drop (read quote multiline input).length = '\n' :: later) := by
  fun_induction read quote multiline input with
  | case1 => exact .inl rfl
  | case2 => cases h
  | case3 c input hquote hline =>
    obtain ⟨rfl, hsingle⟩ := hline
    exact .inr ⟨Bool.eq_false_iff.mpr hsingle, input, rfl⟩
  | case4 => exact .inl rfl
  | case5 d rest hd hquote hline ih => exact ih h
  | case6 d rest hquote hline hd ih => exact ih h
  | case7 c input hquote hline hescape ih => exact ih h

end StringBody

def Fault.openEnded (v : Vocabulary) : Fault → Bool
  | .unrecognizedCharacter _ => false
  | .unterminatedString _ => v.multilineStrings
  | .unterminatedComment _ => true

variable {v : Vocabulary} {c : Char} {input : List Char}

theorem ne_newline_of_not_blank (hblank : ¬ Text.isBlank c = true) : c ≠ '\n' := by
  rintro rfl
  exact hblank (by decide)

theorem ignored?_before_newline (hmarkers : v.MarkersInLine) (hblank : ¬ Text.isBlank c = true)
    (h : ∀ reason, (spanAt v c input).1 = .fault reason → reason.openEnded v = false)
    (later : List Char) : ignored? v c (input ++ '\n' :: later) = ignored? v c input := by
  have hnewline := beq_self_eq_true '\n'
  have hmarker := Vocabulary.lineComment?_before hmarkers.avoid hnewline (c :: input) later
  rw [List.cons_append] at hmarker
  cases hfound : ignored? v c input with
  | none => exact ignored?_before hmarkers.avoid hnewline hfound later
  | some span =>
    obtain ⟨kind, length⟩ := span
    cases ignored_of_eq_some hfound with
    | blank hfirst => exact absurd hfirst hblank
    | @lineComment m _ hline =>
      have hm := Marker.rest_length_le (Vocabulary.lineComment?_begins hline)
      rw [ignored?, if_neg hblank, hmarker, hline]
      simp only [List.drop_append_of_le_length hm]
      rw [runLength_before (by simp)]
    | @blockComment block body _ hline hblock hbegins hend =>
      have hm := Marker.rest_length_le hbegins
      have hopening : block.opening.begins (c :: (input ++ '\n' :: later)) = true := by
        rw [← List.cons_append, Vocabulary.opening_before hmarkers.avoid hnewline hblock, hbegins]
      rw [ignored?_opening hblank (hmarker.trans hline) hblock hopening,
        List.drop_append_of_le_length hm, Marker.end?_append hend]
    | @unterminated block _ _ _ hbegins hend =>
      have hfault := h (.unterminatedComment block.opening) (by rw [spanAt_of_ignored hfound])
      cases hfault

theorem lexeme_before_newline (hmarkers : v.MarkersInLine) (hc : c ≠ '\n')
    (h : ∀ reason, (lexeme v c input).1 = .fault reason → reason.openEnded v = false)
    (later : List Char) : lexeme v c (input ++ '\n' :: later) = lexeme v c input := by
  refine lexeme_before (by decide) hmarkers.avoid (beq_self_eq_true '\n') fun hquote => ?_
  refine StringBody.read_before_newline hc (fun hmultiline => ?_) later
  by_cases hclosed : (StringBody.read c v.multilineStrings input).closed = true
  · exact hclosed
  · have hfault := h (.unterminatedString c) (by simp [lexeme, hquote, hclosed])
    exact absurd hmultiline (Bool.eq_false_iff.mp hfault)

theorem spanAt_before_newline (hmarkers : v.MarkersInLine) (hblank : ¬ Text.isBlank c = true)
    (h : ∀ reason, (spanAt v c input).1 = .fault reason → reason.openEnded v = false)
    (later : List Char) : spanAt v c (input ++ '\n' :: later) = spanAt v c input := by
  have hignored := ignored?_before_newline hmarkers hblank h later
  cases hfound : ignored? v c input with
  | some span => rw [spanAt_of_ignored hfound, spanAt_of_ignored (hignored.trans hfound)]
  | none =>
    rw [spanAt_of_not_ignored hfound] at h ⊢
    rw [spanAt_of_not_ignored (hignored.trans hfound)]
    exact lexeme_before_newline hmarkers (ne_newline_of_not_blank hblank) h later

theorem lexeme_of_open (hquote : v.isQuote c = true)
    (hopen : (StringBody.read c v.multilineStrings input).closed = false) :
    lexeme v c input =
      (.fault (.unterminatedString c), (StringBody.read c v.multilineStrings input).length) := by
  simp [lexeme, hquote, hopen]

theorem open_of_unterminated {quote : Char}
    (h : (lexeme v c input).1 = .fault (.unterminatedString quote)) :
    v.isQuote c = true ∧ (StringBody.read c v.multilineStrings input).closed = false := by
  by_cases hquote : v.isQuote c = true
  · simp only [lexeme, hquote, ↓reduceIte] at h
    split at h
    · cases h
    · next hopen => exact ⟨hquote, Bool.eq_false_iff.mpr hopen⟩
  · unfold lexeme at h
    rw [if_neg hquote] at h
    split at h
    · cases h
    split at h
    · cases h
    split at h
    · cases h
    split at h <;> cases h

theorem drop_of_unterminated {quote : Char}
    (h : (lexeme v c input).1 = .fault (.unterminatedString quote)) :
    input.drop (lexeme v c input).2 = [] ∨ (v.multilineStrings = false ∧
      ∃ later, input.drop (lexeme v c input).2 = '\n' :: later) := by
  obtain ⟨hquote, hopen⟩ := open_of_unterminated h
  rw [lexeme_of_open hquote hopen]
  exact StringBody.drop_of_open hopen

section Single

variable {p : Char → Bool} (hmarkers : v.MarkersAvoid p) (hnewline : p '\n' = true)
variable (hsingle : v.multilineStrings = false)

include hmarkers hnewline hsingle

/-- Where strings end with their line, a lexeme ends there as at the end of the input. -/
theorem lexeme_before_line (hc : c ≠ '\n') (input later : List Char) :
    lexeme v c (input ++ '\n' :: later) = lexeme v c input := by
  apply lexeme_before (by decide) hmarkers hnewline
  intro _
  rw [hsingle]
  exact StringBody.read_single_before_newline hc input later

theorem spanAt_next_line {later : List Char}
    (hlexeme : ignored? v c (input ++ '\n' :: later) = none) (other : List Char) :
    spanAt v c (input ++ '\n' :: other) = spanAt v c (input ++ '\n' :: later) := by
  have hshorter := ignored?_append hlexeme
  have hc := ne_newline_of_not_blank (ignored?_eq_none hlexeme).1
  rw [spanAt_of_not_ignored hlexeme,
    spanAt_of_not_ignored (ignored?_before hmarkers hnewline hshorter other),
    lexeme_before_line hmarkers hnewline hsingle hc,
    lexeme_before_line hmarkers hnewline hsingle hc]

theorem newline_not_mem_lexeme (hc : c ≠ '\n') (input : List Char) :
    '\n' ∉ input.take (lexeme v c input).2 := by
  obtain ⟨line, hline, rfl | ⟨later, rfl⟩⟩ := Text.exists_line input
  · intro hmem
    exact hline (List.mem_of_mem_take hmem)
  · rw [lexeme_before_line hmarkers hnewline hsingle hc,
      List.take_append_of_le_length (lexeme_le v c line)]
    intro hmem
    exact hline (List.mem_of_mem_take hmem)

end Single

end Scan

end SourceCheck
