import SourceCheck.Proofs.Scan.Stops

/-!
Lexemes without the text behind them. A rule that stops within the input finds there what it finds
with more text behind the input: what decides where a lexeme ends is in the lexeme itself and in
what it refuses to take.
-/

namespace SourceCheck

namespace Vocabulary

variable {v : Vocabulary} {m : Marker} {input later : List Char}

theorem operator?_append (h : v.operator? (input ++ later) = some m)
    (hlength : m.chars.length ≤ input.length) : v.operator? input = some m := by
  obtain ⟨hmem, hbegins, hlongest⟩ := operator?_eq_some_iff.mp h
  rw [Marker.begins_append hlength] at hbegins
  refine operator?_eq_some_iff.mpr ⟨hmem, hbegins, ?_⟩
  intro n hn hnbegins
  exact hlongest n hn (Marker.begins_of_begins hnbegins (List.prefix_append _ _))

theorem operator?_none_of_shorter {shorter : List Char} (h : v.operator? input = none)
    (hshorter : shorter <+: input) : v.operator? shorter = none := by
  rw [operator?_none_iff] at h ⊢
  intro n hn
  cases hbegins : n.begins shorter with
  | false => rfl
  | true => rw [← h n hn, Marker.begins_of_begins hbegins hshorter]

end Vocabulary

namespace Scan

theorem runLength_append {p : Char → Bool} {input later : List Char}
    (h : runLength p (input ++ later) ≤ input.length) :
    runLength p (input ++ later) = runLength p input := by
  induction input with
  | nil => exact Nat.le_zero.mp h
  | cons c input ih =>
    by_cases hc : p c = true
    · rw [List.cons_append, runLength_cons hc, List.length_cons] at h
      rw [List.cons_append, runLength_cons hc, runLength_cons hc, ih (by omega)]
    · simp [runLength, hc]

theorem takeWhile_append_of_runLength_le {p : Char → Bool} {input later : List Char}
    (h : runLength p (input ++ later) ≤ input.length) :
    (input ++ later).takeWhile p = input.takeWhile p := by
  rw [← take_runLength, ← take_runLength, runLength_append h,
    List.take_append_of_le_length (runLength_le p input)]

namespace StringBody

theorem length_pos_of_closed {quote : Char} {multiline : Bool} {input : List Char}
    (h : (read quote multiline input).closed = true) : 1 ≤ (read quote multiline input).length := by
  fun_induction read quote multiline input with
  | case1 => cases h
  | case2 => exact Nat.le_refl 1
  | case3 => cases h
  | case4 => cases h
  | case5 => exact Nat.le_add_left 1 _
  | case6 => exact Nat.le_add_left 1 _
  | case7 => exact Nat.le_add_left 1 _

/-- Behind a single backslash, a closed string has not ended. -/
theorem two_le_of_closed {quote : Char} {multiline : Bool} {input : List Char}
    (hquote : '\\' ≠ quote) (h : (read quote multiline ('\\' :: input)).closed = true) :
    2 ≤ (read quote multiline ('\\' :: input)).length := by
  have hline : ¬ ('\\' = '\n' ∧ ¬ multiline) := by simp
  cases input with
  | nil =>
    rw [read, if_neg hquote, if_neg hline, if_pos rfl] at h
    cases h
  | cons d rest =>
    rw [read, if_neg hquote, if_neg hline, if_pos rfl] at h ⊢
    by_cases hd : d = '\n' ∧ ¬ multiline
    · rw [if_pos hd] at h ⊢
      exact Nat.succ_le_succ (length_pos_of_closed h)
    · rw [if_neg hd]
      exact Nat.le_add_left 2 _

theorem read_of_append {quote : Char} {multiline : Bool} {input later : List Char}
    (h : (read quote multiline (input ++ later)).closed = true)
    (hlength : (read quote multiline (input ++ later)).length ≤ input.length) :
    (read quote multiline input).closed = true := by
  fun_induction read quote multiline input with
  | case1 =>
    have hpos := length_pos_of_closed h
    exact absurd hlength (by simpa using Nat.not_le.mpr hpos)
  | case2 => rfl
  | case3 c input hquote hline =>
    obtain ⟨rfl, hsingle⟩ := hline
    rw [Bool.eq_false_iff.mpr hsingle, List.cons_append, read_newline (Ne.symm hquote)] at h
    cases h
  | case4 hquote hline =>
    have hpos := two_le_of_closed hquote h
    exact absurd hlength (Nat.not_le.mpr hpos)
  | case5 d rest hd hquote hline ih =>
    rw [List.cons_append, List.cons_append, read, if_neg hquote, if_neg hline, if_pos rfl,
      if_pos hd, ← List.cons_append] at h hlength
    exact ih h (Nat.le_of_succ_le_succ hlength)
  | case6 d rest hquote hline hd ih =>
    rw [List.cons_append, List.cons_append, read, if_neg hquote, if_neg hline, if_pos rfl,
      if_neg hd] at h hlength
    exact ih h (Nat.le_of_add_le_add_right (b := 2) hlength)
  | case7 c input hquote hline hescape ih =>
    rw [List.cons_append, read_plain hquote hline hescape] at h hlength
    exact ih h (Nat.le_of_succ_le_succ hlength)

end StringBody

theorem digitsLength_append {input later : List Char}
    (h : digitsLength (input ++ later) ≤ input.length) :
    digitsLength (input ++ later) = digitsLength input := runLength_append h

theorem fractionLength_append {input later : List Char}
    (h : fractionLength (input ++ later) ≤ input.length) :
    fractionLength (input ++ later) = fractionLength input := by
  cases input with
  | nil => exact Nat.le_zero.mp h
  | cons c input =>
    by_cases hc : c = '.'
    · subst hc
      simp only [List.cons_append, fractionLength, List.length_cons] at h ⊢
      have hdigits : digitsLength (input ++ later) = digitsLength input := by
        apply digitsLength_append
        split at h <;> omega
      rw [hdigits]
    · rw [List.cons_append, Scanning.fractionLength_of_ne hc, Scanning.fractionLength_of_ne hc]

theorem signLength_append {c : Char} (input later : List Char) :
    signLength (c :: input ++ later) = signLength (c :: input) := by
  rw [Scanning.signLength_eq, Scanning.signLength_eq]
  rfl

theorem exponentLength_append {input later : List Char}
    (h : exponentLength (input ++ later) ≤ input.length) :
    exponentLength (input ++ later) = exponentLength input := by
  cases input with
  | nil => exact Nat.le_zero.mp h
  | cons c input =>
    simp only [List.cons_append, exponentLength, List.length_cons] at h ⊢
    by_cases hc : c = 'e' ∨ c = 'E'
    · rw [if_pos hc] at h ⊢
      rw [if_pos hc]
      cases input with
      | nil =>
        have hnone : digitsLength (later.drop (signLength later)) = 0 := by
          simp only [List.nil_append, List.length_nil] at h
          split at h <;> omega
        rw [List.nil_append, if_pos hnone]
        rfl
      | cons d input =>
        have hsign := signLength_le (d :: input)
        rw [signLength_append, List.drop_append_of_le_length hsign] at h ⊢
        have hdigits : digitsLength ((d :: input).drop (signLength (d :: input)) ++ later) =
            digitsLength ((d :: input).drop (signLength (d :: input))) := by
          apply digitsLength_append
          rw [List.length_drop]
          split at h <;> omega
        rw [hdigits]
    · rw [if_neg hc, if_neg hc]

theorem number_append {input later : List Char} (h : (number (input ++ later)).2 ≤ input.length) :
    number (input ++ later) = number input := by
  simp only [number] at h ⊢
  have hwhole : digitsLength (input ++ later) = digitsLength input := by
    apply digitsLength_append
    omega
  have hwhole_le := digitsLength_le input
  rw [hwhole, List.drop_append_of_le_length hwhole_le] at h ⊢
  have hfraction : fractionLength (input.drop (digitsLength input) ++ later) =
      fractionLength (input.drop (digitsLength input)) := by
    apply fractionLength_append
    rw [List.length_drop]
    omega
  have hfraction_le := fractionLength_le (input.drop (digitsLength input))
  rw [List.length_drop] at hfraction_le
  have hboth : digitsLength input + fractionLength (input.drop (digitsLength input)) ≤
      input.length := by omega
  rw [hfraction, List.drop_append_of_le_length hboth] at h ⊢
  rw [exponentLength_append]
  rw [List.length_drop]
  omega

variable {v : Vocabulary} {c : Char} {input later : List Char}

/-- A lexeme that ends in the input is found there without the text behind, unless it is a string
that nothing closes. -/
theorem lexeme_append (h : (lexeme v c (input ++ later)).2 ≤ input.length)
    (hstring : ∀ quote, (lexeme v c (input ++ later)).1 ≠ .fault (.unterminatedString quote)) :
    lexeme v c (input ++ later) = lexeme v c input := by
  by_cases hquote : v.isQuote c = true
  · have hclosed := closed_of_lexeme hquote hstring
    rw [lexeme, if_pos hquote] at h
    have hinput := StringBody.read_of_append hclosed h
    rw [lexeme, lexeme, if_pos hquote, if_pos hquote, StringBody.read_append hinput]
  rw [lexeme, if_neg hquote] at h
  rw [lexeme, lexeme, if_neg hquote, if_neg hquote]
  by_cases hdigit : c.isDigit = true
  · rw [if_pos hdigit] at h
    rw [if_pos hdigit, if_pos hdigit, number_append h]
  rw [if_neg hdigit] at h
  rw [if_neg hdigit, if_neg hdigit]
  by_cases hword : Text.startsWord c = true
  · rw [if_pos hword] at h
    rw [if_pos hword, if_pos hword, takeWhile_append_of_runLength_le h, runLength_append h]
  rw [if_neg hword] at h
  rw [if_neg hword, if_neg hword]
  cases hoperator : v.operator? (c :: (input ++ later)) with
  | some m =>
    rw [hoperator] at h
    rw [← List.cons_append] at hoperator
    rw [Vocabulary.operator?_append hoperator (Nat.succ_le_succ h)]
  | none =>
    have hshorter : c :: input <+: c :: (input ++ later) := List.prefix_append (c :: input) later
    rw [Vocabulary.operator?_none_of_shorter hoperator hshorter]

theorem ignored?_append (h : ignored? v c (input ++ later) = none) :
    ignored? v c input = none := by
  have hshorter : c :: input <+: c :: (input ++ later) := List.prefix_append (c :: input) later
  obtain ⟨hblank, hline, hblock⟩ := ignored?_none_iff.mp h
  refine ignored?_none_iff.mpr ⟨hblank, ?_, ?_⟩
  · rw [Vocabulary.lineComment?, List.find?_eq_none] at hline ⊢
    intro m hm hbegins
    exact hline m hm (Marker.begins_of_begins hbegins hshorter)
  · intro block hfound
    cases hbegins : block.opening.begins (c :: input) with
    | false => rfl
    | true => rw [← hblock block hfound, Marker.begins_of_begins hbegins hshorter]

theorem spanAt_append (hlexeme : ignored? v c (input ++ later) = none)
    (h : (spanAt v c (input ++ later)).2 ≤ input.length)
    (hstring : ∀ quote, (spanAt v c (input ++ later)).1 ≠ .fault (.unterminatedString quote)) :
    spanAt v c (input ++ later) = spanAt v c input := by
  rw [spanAt_of_not_ignored hlexeme] at h hstring ⊢
  rw [spanAt_of_not_ignored (ignored?_append hlexeme), lexeme_append h hstring]

/-- A lexeme is the same before any text that shows, up to its first blank, nothing but what the
other one began with. -/
theorem spanAt_shown {text rest other : List Char} (hmarkers : v.MarkersAvoid Text.isBlank)
    (hlexeme : ignored? v c (text ++ rest) = none)
    (h : (spanAt v c (text ++ rest)).2 = text.length)
    (hstring : ∀ quote, (spanAt v c (text ++ rest)).1 ≠ .fault (.unterminatedString quote))
    (hshown : other.takeWhile (fun d => !Text.isBlank d) <+: rest) :
    spanAt v c (text ++ other) = spanAt v c (text ++ rest) := by
  obtain ⟨later, hlater⟩ := hshown
  have hother : other = other.takeWhile (fun d => !Text.isBlank d) ++
      other.dropWhile (fun d => !Text.isBlank d) := List.takeWhile_append_dropWhile.symm
  generalize other.takeWhile (fun d => !Text.isBlank d) = shown at hlater hother
  rw [← hlater, ← List.append_assoc] at hlexeme h hstring ⊢
  have hlength : (spanAt v c (text ++ shown ++ later)).2 ≤ (text ++ shown).length := by
    rw [h, List.length_append]
    exact Nat.le_add_right _ _
  have hshort := spanAt_append hlexeme hlength hstring
  rw [hshort] at hstring ⊢
  cases hrest : other.dropWhile (fun d => !Text.isBlank d) with
  | nil => rw [hother, hrest, List.append_nil]
  | cons b behind =>
    have hblank : Text.isBlank b = true := by
      have hhead := List.head_dropWhile_not (l := other) (fun d => !Text.isBlank d) (by simp [hrest])
      simpa [hrest] using hhead
    rw [hother, hrest, ← List.append_assoc]
    exact spanAt_before_blank hblank hmarkers (ignored?_append hlexeme) hstring behind

end Scan

end SourceCheck
