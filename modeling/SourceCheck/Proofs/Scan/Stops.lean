import SourceCheck.Proofs.Scan.Division

/-!
Where lexemes stop. A blank stops every scanning rule as the end of the input does, its lookahead
included, as long as no marker holds that blank. What is scanned before it is the same then,
whatever comes after; only an open string or comment would have gone on.
-/

namespace SourceCheck

namespace Text

def Blank (text : List Char) : Prop := ∀ c ∈ text, isBlank c = true

instance (text : List Char) : Decidable (Blank text) := List.decidableBAll _ _

theorem ne_of_isBlank {b c : Char} (hb : isBlank b = true) (hc : isBlank c = false) : b ≠ c := by
  rintro rfl
  rw [hb] at hc
  cases hc

theorem continuesWord_of_isBlank {b : Char} (hb : isBlank b = true) : continuesWord b = false := by
  simp only [isBlank, List.mem_cons, List.not_mem_nil, or_false, decide_eq_true_eq] at hb
  rcases hb with rfl | rfl | rfl | rfl | rfl | rfl | rfl | rfl | rfl | rfl | rfl <;>
    decide +kernel

theorem isDigit_of_isBlank {b : Char} (hb : isBlank b = true) : b.isDigit = false := by
  simp only [isBlank, List.mem_cons, List.not_mem_nil, or_false, decide_eq_true_eq] at hb
  rcases hb with rfl | rfl | rfl | rfl | rfl | rfl | rfl | rfl | rfl | rfl | rfl <;> decide

end Text

namespace Marker

variable {m : Marker}

def Avoids (m : Marker) (p : Char → Bool) : Prop := ∀ c ∈ m.chars, p c = false

instance (m : Marker) (p : Char → Bool) : Decidable (m.Avoids p) := List.decidableBAll _ _

theorem Avoids.not_mem {p : Char → Bool} {b : Char} (hm : m.Avoids p) (hb : p b = true) :
    b ∉ m.chars := by
  intro hmem
  rw [hm b hmem] at hb
  cases hb

theorem Avoids.end?_cons {p : Char → Bool} {b : Char} (hm : m.Avoids p) (hb : p b = true)
    (input : List Char) : m.end? (b :: input) = (m.end? input).map (· + 1) := by
  rw [end?, if_neg]
  intro hbegins
  obtain ⟨later, hinput, -⟩ := begins_cons hbegins
  have hfirst : b = m.first := (List.cons.inj hinput).1
  exact hm.not_mem hb (hfirst ▸ List.mem_cons_self)

theorem isPrefixOf_before {b : Char} {marker : List Char} (hmarker : b ∉ marker)
    (input later : List Char) :
    marker.isPrefixOf (input ++ b :: later) = marker.isPrefixOf input := by
  induction marker generalizing input with
  | nil => rfl
  | cons c marker ih =>
    have hc : c ≠ b := by
      intro heq
      exact hmarker (heq ▸ List.mem_cons_self)
    cases input with
    | nil => simp [List.isPrefixOf_cons_cons, hc]
    | cons d input =>
      have hrest := ih (fun hmem => hmarker (List.mem_cons_of_mem c hmem)) input
      simp only [List.cons_append, List.isPrefixOf_cons_cons, hrest]

theorem begins_before {b : Char} (hm : b ∉ m.chars) (input later : List Char) :
    m.begins (input ++ b :: later) = m.begins input := isPrefixOf_before hm input later

theorem rest_length_le {c : Char} {input : List Char} (h : m.begins (c :: input) = true) :
    m.rest.length ≤ input.length := by
  obtain ⟨later, -, rfl⟩ := begins_cons h
  rw [List.length_append]
  exact Nat.le_add_right _ _

theorem end?_le {input : List Char} {length : Nat} (h : m.end? input = some length) :
    length ≤ input.length ∧ m.chars.length ≤ input.length := by
  obtain ⟨body, rest, rfl, rfl, -⟩ := end?_some h
  simp only [List.length_append]
  omega

theorem begins_append {input : List Char} (h : m.chars.length ≤ input.length) (later : List Char) :
    m.begins (input ++ later) = m.begins input := by
  rw [Bool.eq_iff_iff, begins, begins, List.isPrefixOf_iff_prefix, List.isPrefixOf_iff_prefix]
  constructor
  · intro hjoined
    exact List.prefix_of_prefix_length_le hjoined (List.prefix_append _ _) h
  · intro hinput
    exact hinput.trans (List.prefix_append _ _)

theorem end?_append {input : List Char} {length : Nat} (h : m.end? input = some length)
    (later : List Char) : m.end? (input ++ later) = some length := by
  have hlong := (end?_le h).2
  fun_induction m.end? input generalizing length with
  | case1 => cases h
  | case2 c input hbegins =>
    cases h
    rw [List.cons_append, end?, ← List.cons_append, begins_append hlong, if_pos hbegins]
  | case3 c input hbegins ih =>
    obtain ⟨shorter, hshorter, rfl⟩ := Option.map_eq_some_iff.mp h
    rw [List.cons_append, end?, ← List.cons_append, begins_append hlong, if_neg hbegins,
      ih hshorter (end?_le hshorter).2]
    rfl

end Marker

namespace Vocabulary

/-- No marker that scanning looks for at the start of a span holds one of the given characters. The
closing marker of a block comment may. -/
structure MarkersAvoid (v : Vocabulary) (p : Char → Bool) : Prop where
  operators : ∀ m ∈ v.operators, m.Avoids p
  lineComments : ∀ m ∈ v.lineComments, m.Avoids p
  blockComment : ∀ block ∈ v.blockComment, block.opening.Avoids p

instance (v : Vocabulary) (p : Char → Bool) : Decidable (v.MarkersAvoid p) :=
  decidable_of_iff ((∀ m ∈ v.operators, m.Avoids p) ∧ (∀ m ∈ v.lineComments, m.Avoids p) ∧
      ∀ block ∈ v.blockComment, block.opening.Avoids p)
    ⟨fun ⟨operators, lineComments, blockComment⟩ => ⟨operators, lineComments, blockComment⟩,
      fun h => ⟨h.operators, h.lineComments, h.blockComment⟩⟩

variable {v : Vocabulary} {p : Char → Bool} {b : Char}

theorem operator?_before (hmarkers : v.MarkersAvoid p) (hb : p b = true)
    (input later : List Char) : v.operator? (input ++ b :: later) = v.operator? input := by
  have h := hmarkers.operators
  unfold operator?
  generalize v.operators = operators at h
  induction operators with
  | nil => rfl
  | cons m operators ih =>
    obtain ⟨hm, hrest⟩ := List.forall_mem_cons.mp h
    have hbegins := Marker.begins_before (hm.not_mem hb) input later
    simp only [List.foldr_cons, hbegins, ih hrest]

theorem lineComment?_before (hmarkers : v.MarkersAvoid p) (hb : p b = true)
    (input later : List Char) : v.lineComment? (input ++ b :: later) = v.lineComment? input := by
  have h := hmarkers.lineComments
  unfold lineComment?
  generalize v.lineComments = lineComments at h
  induction lineComments with
  | nil => rfl
  | cons m lineComments ih =>
    obtain ⟨hm, hrest⟩ := List.forall_mem_cons.mp h
    have hbegins := Marker.begins_before (hm.not_mem hb) input later
    simp only [List.find?_cons, hbegins, ih hrest]

theorem opening_before (hmarkers : v.MarkersAvoid p) (hb : p b = true) {block : BlockComment}
    (hblock : v.blockComment = some block) (input later : List Char) :
    block.opening.begins (input ++ b :: later) = block.opening.begins input :=
  Marker.begins_before ((hmarkers.blockComment block hblock).not_mem hb) input later

end Vocabulary

namespace Scan

theorem runLength_le (p : Char → Bool) (input : List Char) : runLength p input ≤ input.length :=
  (List.takeWhile_sublist p).length_le

theorem runLength_before {p : Char → Bool} {b : Char} (hp : p b = false)
    (input later : List Char) : runLength p (input ++ b :: later) = runLength p input := by
  rw [runLength, runLength, Text.takeWhile_before hp]

namespace StringBody

theorem read_le (quote : Char) (multiline : Bool) (input : List Char) :
    (read quote multiline input).length ≤ input.length := by
  fun_induction read quote multiline input with
  | case1 => exact Nat.le_refl 0
  | case2 input => exact Nat.le_add_left 1 input.length
  | case3 => exact Nat.zero_le _
  | case4 => exact Nat.le_refl 1
  | case5 d rest hd hquote hline ih => exact Nat.succ_le_succ ih
  | case6 d rest hquote hline hd ih => exact Nat.add_le_add_right ih 2
  | case7 c input hquote hline hescape ih => exact Nat.succ_le_succ ih

theorem read_quote (quote : Char) (multiline : Bool) (input : List Char) :
    read quote multiline (quote :: input) = ⟨true, false, 1⟩ := by
  cases input <;> simp [read]

theorem read_newline {quote : Char} (hquote : quote ≠ '\n') (input : List Char) :
    read quote false ('\n' :: input) = ⟨false, false, 0⟩ := by
  cases input <;> simp [read, hquote.symm]

theorem read_plain {quote c : Char} {multiline : Bool} (hquote : c ≠ quote)
    (hline : ¬ (c = '\n' ∧ ¬ multiline)) (hescape : c ≠ '\\') (input : List Char) :
    read quote multiline (c :: input) = (read quote multiline input).extend 1 := by
  cases input <;> simp only [read, if_neg hquote, if_neg hline, if_neg hescape]

/-- Once the closing quote is found, nothing behind it is looked at. -/
theorem read_append {quote : Char} {multiline : Bool} {input : List Char}
    (h : (read quote multiline input).closed = true) (later : List Char) :
    read quote multiline (input ++ later) = read quote multiline input := by
  fun_induction read quote multiline input with
  | case1 => cases h
  | case2 input => exact read_quote quote multiline (input ++ later)
  | case3 => cases h
  | case4 => cases h
  | case5 d rest hd hquote hline ih =>
    rw [List.cons_append, List.cons_append, read, if_neg hquote, if_neg hline, if_pos rfl,
      if_pos hd, ← List.cons_append, ih h]
  | case6 d rest hquote hline hd ih =>
    rw [List.cons_append, List.cons_append, read, if_neg hquote, if_neg hline, if_pos rfl,
      if_neg hd, ih h]
  | case7 c input hquote hline hescape ih =>
    rw [List.cons_append, read_plain hquote hline hescape, ih h]

end StringBody

variable {b : Char} (hblank : Text.isBlank b = true)

theorem digitsLength_le (input : List Char) : digitsLength input ≤ input.length :=
  runLength_le Char.isDigit input

include hblank in
theorem digitsLength_before (input later : List Char) :
    digitsLength (input ++ b :: later) = digitsLength input :=
  runLength_before (Text.isDigit_of_isBlank hblank) input later

theorem fractionLength_le (input : List Char) : fractionLength input ≤ input.length := by
  unfold fractionLength
  split
  · next input =>
    have hdigits := digitsLength_le input
    rw [List.length_cons]
    split <;> omega
  · exact Nat.zero_le _

include hblank in
theorem fractionLength_before (input later : List Char) :
    fractionLength (input ++ b :: later) = fractionLength input := by
  cases input with
  | nil =>
    have hpoint : b ≠ '.' := Text.ne_of_isBlank hblank (by decide)
    exact Scanning.fractionLength_of_ne hpoint later
  | cons c input =>
    by_cases hc : c = '.'
    · subst hc
      simp only [List.cons_append, fractionLength, digitsLength_before hblank]
    · rw [List.cons_append, Scanning.fractionLength_of_ne hc, Scanning.fractionLength_of_ne hc]

theorem signLength_le (input : List Char) : signLength input ≤ input.length := by
  unfold signLength
  split <;> simp

include hblank in
theorem signLength_before (input later : List Char) :
    signLength (input ++ b :: later) = signLength input := by
  have hplus : b ≠ '+' := Text.ne_of_isBlank hblank (by decide)
  have hminus : b ≠ '-' := Text.ne_of_isBlank hblank (by decide)
  rw [Scanning.signLength_eq, Scanning.signLength_eq]
  cases input with
  | nil => simp [hplus, hminus]
  | cons c input => rfl

theorem exponentLength_le (input : List Char) : exponentLength input ≤ input.length := by
  cases input with
  | nil => exact Nat.le_refl 0
  | cons c input =>
    have hsign := signLength_le input
    have hdigits := digitsLength_le (input.drop (signLength input))
    rw [List.length_drop] at hdigits
    simp only [exponentLength, List.length_cons]
    split
    · split <;> omega
    · exact Nat.zero_le _

include hblank in
theorem exponentLength_before (input later : List Char) :
    exponentLength (input ++ b :: later) = exponentLength input := by
  cases input with
  | nil =>
    have hsmall : b ≠ 'e' := Text.ne_of_isBlank hblank (by decide)
    have hlarge : b ≠ 'E' := Text.ne_of_isBlank hblank (by decide)
    simp [exponentLength, hsmall, hlarge]
  | cons c input =>
    have hdrop : (input ++ b :: later).drop (signLength input) =
        input.drop (signLength input) ++ b :: later :=
      List.drop_append_of_le_length (signLength_le input)
    simp only [List.cons_append, exponentLength, signLength_before hblank, hdrop,
      digitsLength_before hblank]

theorem number_le (input : List Char) : (number input).2 ≤ input.length := by
  have hwhole := digitsLength_le input
  have hfraction := fractionLength_le (input.drop (digitsLength input))
  have hexponent := exponentLength_le
    (input.drop (digitsLength input + fractionLength (input.drop (digitsLength input))))
  rw [List.length_drop] at hfraction hexponent
  simp only [number]
  omega

include hblank in
theorem number_before (input later : List Char) :
    number (input ++ b :: later) = number input := by
  have hwhole := digitsLength_le input
  have hfraction := fractionLength_le (input.drop (digitsLength input))
  rw [List.length_drop] at hfraction
  have hboth : digitsLength input + fractionLength (input.drop (digitsLength input)) ≤
      input.length := by omega
  simp only [number, digitsLength_before hblank, List.drop_append_of_le_length hwhole,
    fractionLength_before hblank, List.drop_append_of_le_length hboth,
    exponentLength_before hblank]

variable {v : Vocabulary} {p : Char → Bool} {c : Char} {input : List Char}

theorem lexeme_le (v : Vocabulary) (c : Char) (input : List Char) :
    (lexeme v c input).2 ≤ input.length := by
  unfold lexeme
  split
  · exact StringBody.read_le _ _ _
  split
  · exact number_le input
  split
  · exact runLength_le _ _
  split
  · next m hoperator => exact Marker.rest_length_le (Vocabulary.operator?_begins hoperator)
  split <;> exact Nat.zero_le _

theorem ignored_le {kind : SpanKind} {length : Nat} (h : Ignored v c input kind length) :
    length ≤ input.length := by
  cases h with
  | blank => exact runLength_le _ _
  | @lineComment m hblank hline =>
    have hmarker := Marker.rest_length_le (Vocabulary.lineComment?_begins hline)
    have hline := runLength_le (· ≠ '\n') (input.drop m.rest.length)
    rw [List.length_drop] at hline
    omega
  | blockComment hblank hline hblock hbegins hbody =>
    have hmarker := Marker.rest_length_le hbegins
    have hbody := (Marker.end?_le hbody).1
    rw [List.length_drop] at hbody
    omega
  | unterminated => exact Nat.le_refl _

theorem spanAt_le (v : Vocabulary) (c : Char) (input : List Char) :
    (spanAt v c input).2 ≤ input.length := by
  cases h : ignored? v c input with
  | none => rw [spanAt_of_not_ignored h]; exact lexeme_le v c input
  | some span => rw [spanAt_of_ignored h]; exact ignored_le (ignored_of_eq_some h)

include hblank in
/-- Of the rules for lexemes only the one for strings goes over a blank. -/
theorem lexeme_before (hmarkers : v.MarkersAvoid p) (hb : p b = true) {later : List Char}
    (hstring : v.isQuote c = true → StringBody.read c v.multilineStrings (input ++ b :: later) =
      StringBody.read c v.multilineStrings input) :
    lexeme v c (input ++ b :: later) = lexeme v c input := by
  have hoperator := Vocabulary.operator?_before hmarkers hb (c :: input) later
  rw [List.cons_append] at hoperator
  have hword := Text.continuesWord_of_isBlank hblank
  unfold lexeme
  split
  · next hquote => rw [hstring hquote]
  · rw [number_before hblank, Text.takeWhile_before hword, runLength_before hword, hoperator]

theorem ignored?_none_iff : ignored? v c input = none ↔ ¬ Text.isBlank c = true ∧
    v.lineComment? (c :: input) = none ∧
      ∀ block, v.blockComment = some block → block.opening.begins (c :: input) = false := by
  constructor
  · intro h
    obtain ⟨hfirst, hline, hblock⟩ := ignored?_eq_none h
    refine ⟨hfirst, hline, ?_⟩
    intro block hfound
    rw [hfound, Option.filter_some] at hblock
    cases hbegins : block.opening.begins (c :: input) with
    | false => rfl
    | true => simp [hbegins] at hblock
  · rintro ⟨hfirst, hline, hblock⟩
    rw [ignored?, if_neg hfirst, hline]
    cases hfound : v.blockComment with
    | none => rfl
    | some block => simp [hblock block hfound]

/-- Where a block comment begins, its closing marker is all that is looked for. -/
theorem ignored?_opening {block : BlockComment} (hblank : ¬ Text.isBlank c = true)
    (hline : v.lineComment? (c :: input) = none) (hblock : v.blockComment = some block)
    (hbegins : block.opening.begins (c :: input) = true) :
    ignored? v c input =
      match block.closing.end? (input.drop block.opening.rest.length) with
      | some body => some (.comment, block.opening.rest.length + body)
      | none => some (.fault (.unterminatedComment block.opening), input.length) := by
  unfold ignored?
  rw [if_neg hblank, hline, hblock]
  exact if_pos hbegins

/-- Where a lexeme begins, a blank further behind does not make a comment of it. -/
theorem ignored?_before (hmarkers : v.MarkersAvoid p) (hb : p b = true)
    (h : ignored? v c input = none) (later : List Char) :
    ignored? v c (input ++ b :: later) = none := by
  obtain ⟨hfirst, hline, hblock⟩ := ignored?_none_iff.mp h
  refine ignored?_none_iff.mpr ⟨hfirst, ?_, ?_⟩
  · rw [← List.cons_append, Vocabulary.lineComment?_before hmarkers hb, hline]
  · intro block hfound
    rw [← List.cons_append, Vocabulary.opening_before hmarkers hb hfound, hblock block hfound]

theorem not_token_of_ignored {kind : SpanKind} {length : Nat}
    (h : ignored? v c input = some (kind, length)) : ∀ token, kind ≠ .token token := by
  rintro token rfl
  cases ignored_of_eq_some h

theorem not_ignored_of_token {kind : TokenKind} (h : (spanAt v c input).1 = .token kind) :
    ignored? v c input = none := by
  cases hfound : ignored? v c input with
  | none => rfl
  | some span =>
    obtain ⟨found, length⟩ := span
    rw [spanAt_of_ignored hfound] at h
    cases ignored_of_eq_some hfound <;> cases h

theorem closed_of_lexeme (hquote : v.isQuote c = true)
    (h : ∀ quote, (lexeme v c input).1 ≠ .fault (.unterminatedString quote)) :
    (StringBody.read c v.multilineStrings input).closed = true := by
  by_cases hclosed : (StringBody.read c v.multilineStrings input).closed = true
  · exact hclosed
  · exact absurd (by simp [lexeme, hquote, hclosed]) (h c)

include hblank in
theorem spanAt_before_blank (hmarkers : v.MarkersAvoid Text.isBlank)
    (hlexeme : ignored? v c input = none)
    (hstring : ∀ quote, (spanAt v c input).1 ≠ .fault (.unterminatedString quote))
    (later : List Char) : spanAt v c (input ++ b :: later) = spanAt v c input := by
  rw [spanAt_of_not_ignored hlexeme] at hstring ⊢
  rw [spanAt_of_not_ignored (ignored?_before hmarkers hblank hlexeme later)]
  apply lexeme_before hblank hmarkers hblank
  intro hquote
  exact StringBody.read_append (closed_of_lexeme hquote hstring) (b :: later)

theorem spanAt_of_blank (hblank : Text.isBlank c = true) :
    spanAt v c input = (.blank, runLength Text.isBlank input) :=
  spanAt_of_ignored (by rw [ignored?, if_pos hblank])

theorem blank_run (hblank : Text.isBlank c = true) (input : List Char) :
    Text.Blank (c :: input.takeWhile Text.isBlank) :=
  List.forall_mem_cons.mpr ⟨hblank, List.all_eq_true.mp List.all_takeWhile⟩

/-- Blanks are passed over one run at a time, and nothing is reported of them. -/
theorem eventsFrom_blank_run (v : Vocabulary) (position : Position) (input : List Char) :
    eventsFrom position (spans v input) =
      eventsFrom (position.after (input.takeWhile Text.isBlank))
        (spans v (input.dropWhile Text.isBlank)) := by
  cases input with
  | nil => rfl
  | cons c input =>
    by_cases hc : Text.isBlank c = true
    · rw [spans_cons, spanAt_of_blank hc, take_runLength, drop_runLength, eventsFrom_cons,
        List.takeWhile_cons_of_pos hc, List.dropWhile_cons_of_pos hc]
      rfl
    · rw [List.takeWhile_cons_of_neg hc, List.dropWhile_cons_of_neg hc]
      rfl

theorem eventsFrom_blanks {blanks : List Char} (h : Text.Blank blanks)
    (position : Position) (input : List Char) :
    eventsFrom position (spans v (blanks ++ input)) =
      eventsFrom (position.after blanks) (spans v input) := by
  rw [eventsFrom_blank_run v position (blanks ++ input),
    eventsFrom_blank_run v (position.after blanks) input,
    List.takeWhile_append_of_pos h, List.dropWhile_append_of_pos h, Position.after_append]

end Scan

end SourceCheck
