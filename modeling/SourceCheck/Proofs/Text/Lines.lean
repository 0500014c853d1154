import SourceCheck.Text.Position
import SourceCheck.Text.Slice

/-!
Positions and lines as functions of the text passed over. The line is told by the newlines in it,
the column by what follows the last of them, and the collected lines agree with a look-up of the
line in the text itself.
-/

namespace SourceCheck

namespace Text

def afterLastNewline (text : List Char) : List Char :=
  (text.reverse.takeWhile (· ≠ '\n')).reverse

theorem afterLastNewline_newline (text : List Char) : afterLastNewline (text ++ ['\n']) = [] := by
  simp [afterLastNewline]

theorem afterLastNewline_concat {c : Char} (text : List Char) (hc : c ≠ '\n') :
    afterLastNewline (text ++ [c]) = afterLastNewline text ++ [c] := by
  simp [afterLastNewline, hc]

theorem newline_not_mem_takeWhile (text : List Char) : '\n' ∉ text.takeWhile (· ≠ '\n') := by
  intro hm
  have hne := List.all_eq_true.mp List.all_takeWhile '\n' hm
  simp at hne

/-- The rest of a line is followed by its newline, if by anything. -/
theorem dropWhile_newline (text : List Char) :
    text.dropWhile (· ≠ '\n') = [] ∨ ∃ later, text.dropWhile (· ≠ '\n') = '\n' :: later := by
  induction text with
  | nil => exact .inl rfl
  | cons c text ih =>
    by_cases hc : c = '\n'
    · exact .inr ⟨text, by simp [hc]⟩
    · simpa [hc] using ih

theorem exists_line (text : List Char) :
    ∃ line, '\n' ∉ line ∧ (text = line ∨ ∃ later, text = line ++ '\n' :: later) := by
  refine ⟨text.takeWhile (· ≠ '\n'), newline_not_mem_takeWhile text, ?_⟩
  have htext := List.takeWhile_append_dropWhile (p := (· ≠ '\n')) (l := text)
  rcases dropWhile_newline text with hend | ⟨later, hend⟩
  · rw [hend, List.append_nil] at htext
    exact .inl htext.symm
  · rw [hend] at htext
    exact .inr ⟨later, htext.symm⟩

/-- A run of characters ends before a character that does not belong to it as at the end of the
text. -/
theorem takeWhile_before {p : Char → Bool} {b : Char} (hp : p b = false)
    (text later : List Char) : (text ++ b :: later).takeWhile p = text.takeWhile p := by
  induction text with
  | nil => simp [hp]
  | cons c text ih => simp only [List.cons_append, List.takeWhile_cons, ih]

theorem newline_not_mem_afterLastNewline (text : List Char) : '\n' ∉ afterLastNewline text :=
  fun hm => newline_not_mem_takeWhile text.reverse (List.mem_reverse.mp hm)

theorem length_afterLastNewline (text : List Char) :
    (afterLastNewline text).length ≤ text.length := by
  have h := (List.takeWhile_sublist (l := text.reverse) (· ≠ '\n')).length_le
  simpa [afterLastNewline] using h

/-- Texts are built up from the front: the last character is the one passed over last. -/
theorem concat_induction {motive : List Char → Prop} (nil : motive [])
    (concat : ∀ text c, motive text → motive (text ++ [c])) (text : List Char) : motive text := by
  have reversed : ∀ r : List Char, motive r.reverse := by
    intro r
    induction r with
    | nil => exact nil
    | cons c r ih => simpa using concat r.reverse c ih
  simpa using reversed text.reverse

end Text

namespace Position

def behind (text : List Char) : Position where
  line := 1 + text.count '\n'
  column := 1 + (Text.afterLastNewline text).length

theorem behind_concat (text : List Char) (c : Char) :
    behind (text ++ [c]) = (behind text).next c := by
  by_cases hc : c = '\n'
  · subst hc
    simp [behind, next, Text.afterLastNewline_newline]
    omega
  · simp [behind, next, hc, Text.afterLastNewline_concat]
    omega

theorem after_append (p : Position) (s t : List Char) : p.after (s ++ t) = (p.after s).after t :=
  List.foldl_append

theorem start_after (text : List Char) : start.after text = behind text := by
  induction text using Text.concat_induction with
  | nil => rfl
  | concat text c ih => rw [after_append, ih, behind_concat]; rfl

theorem behind_append (s t : List Char) : behind (s ++ t) = (behind s).after t := by
  rw [← start_after, after_append, start_after]

theorem behind_bounds (text : List Char) :
    1 ≤ (behind text).line ∧ (behind text).line ≤ text.length + 1 ∧
      1 ≤ (behind text).column ∧ (behind text).column ≤ text.length + 1 := by
  have hline := List.count_le_length (a := '\n') (l := text)
  have hcolumn := Text.length_afterLastNewline text
  simp only [behind]
  omega

def Before (p q : Position) : Prop := p.line < q.line ∨ (p.line = q.line ∧ p.column < q.column)

instance (p q : Position) : Decidable (Before p q) :=
  inferInstanceAs (Decidable (_ ∨ (_ ∧ _)))

theorem before_trans {p q r : Position} (h : Before p q) (k : Before q r) : Before p r := by
  unfold Before at *
  omega

theorem before_asymm {p q : Position} (h : Before p q) : ¬ Before q p := by
  unfold Before at *
  omega

theorem before_next (p : Position) (c : Char) : Before p (p.next c) := by
  by_cases hc : c = '\n'
  · rw [next, if_pos hc]
    exact .inl (Int.lt_succ p.line)
  · rw [next, if_neg hc]
    exact .inr ⟨rfl, Int.lt_succ p.column⟩

theorem before_after {text : List Char} (p : Position) (h : text ≠ []) :
    Before p (p.after text) := by
  induction text generalizing p with
  | nil => exact absurd rfl h
  | cons c text ih =>
    by_cases ht : text = []
    · subst ht; exact before_next p c
    · exact before_trans (before_next p c) (ih (p.next c) ht)

theorem behind_eq_iff {passed ahead : List Char} :
    behind passed = behind (passed ++ ahead) ↔ ahead = [] := by
  constructor
  · intro heq
    by_cases hahead : ahead = []
    · exact hahead
    · have hbefore := before_after (behind passed) hahead
      rw [← behind_append, ← heq] at hbefore
      exact absurd hbefore (before_asymm hbefore)
  · rintro rfl
    rw [List.append_nil]

end Position

namespace Text

theorem withoutNewline_concat (line : List Char) : withoutNewline (line ++ ['\n']) = line := by
  simp [withoutNewline]

theorem withoutNewline_eq {line : List Char} (h : '\n' ∉ line) : withoutNewline line = line := by
  unfold withoutNewline
  split
  · next hlast => exact absurd (List.mem_of_getLast? hlast) h
  · rfl

theorem withoutReturn_concat (line : List Char) : withoutReturn (line ++ ['\r']) = line := by
  simp [withoutReturn]

theorem length_withoutReturn (line : List Char) : (withoutReturn line).length =
    if line.getLast? = some '\r' then line.length - 1 else line.length := by
  unfold withoutReturn
  split
  · exact List.length_dropLast
  · rfl

namespace LineReader

def of (text : List Char) : LineReader := text.foldl push empty

theorem of_concat (text : List Char) (c : Char) : of (text ++ [c]) = (of text).push c := by
  simp [of]

theorem current_of (text : List Char) : (of text).current.reverse = afterLastNewline text := by
  induction text using concat_induction with
  | nil => rfl
  | concat text c ih =>
    rw [of_concat]
    by_cases hc : c = '\n'
    · subst hc; simp [push, afterLastNewline_newline]
    · simp [push, hc, ih, afterLastNewline_concat]

theorem length_finished_of (text : List Char) : (of text).finished.length = text.count '\n' := by
  induction text using concat_induction with
  | nil => rfl
  | concat text c ih =>
    rw [of_concat]
    by_cases hc : c = '\n'
    · subst hc; simp [push, ih]
    · simp [push, hc, ih]

theorem currentLine_eq (r : LineReader) :
    r.currentLine = String.ofList (withoutReturn r.current.reverse) := by
  unfold currentLine
  split
  · next before hr => rw [hr, List.reverse_cons, withoutReturn_concat]
  · next hr =>
    have hlast : r.current.reverse.getLast? ≠ some '\r' := by
      rw [List.getLast?_reverse]
      intro hhead
      obtain ⟨before, heq⟩ := List.head?_eq_some_iff.mp hhead
      exact hr before heq
    rw [withoutReturn, if_neg hlast]

theorem currentLine_of (text : List Char) :
    (of text).currentLine = String.ofList (withoutReturn (afterLastNewline text)) := by
  rw [currentLine_eq, current_of]

theorem lines_eq (r : LineReader) :
    r.lines = r.finished.reverse ++ if r.current = [] then [] else [r.currentLine] := by
  unfold lines
  split <;> simp_all

theorem lines_foldl_push (text : List Char) (r : LineReader) :
    ∃ later, (text.foldl push r).lines = r.finished.reverse ++ later := by
  induction text generalizing r with
  | nil => exact ⟨_, lines_eq r⟩
  | cons c text ih =>
    obtain ⟨later, hlater⟩ := ih (r.push c)
    rw [List.foldl_cons, hlater]
    unfold push
    split
    · exact ⟨r.currentLine :: later, by simp⟩
    · exact ⟨later, rfl⟩

end LineReader

theorem lineAfter_nil (skipped : Nat) : lineAfter skipped [] = [] := by
  induction skipped with
  | zero => rfl
  | succ skipped ih => simpa [lineAfter] using ih

theorem lineAfter_newline (skipped : Nat) (text : List Char) :
    lineAfter (skipped + 1) ('\n' :: text) = lineAfter skipped text := by
  simp [lineAfter]

theorem lineAfter_cons {c : Char} (hc : c ≠ '\n') (skipped : Nat) (text : List Char) :
    lineAfter (skipped + 1) (c :: text) = lineAfter (skipped + 1) text := by
  simp [lineAfter, hc]

/-- A text keeps its lines when a newline and more text are put behind it. -/
theorem lineAfter_before_newline {skipped : Nat} {text : List Char}
    (h : skipped ≤ text.count '\n') (later : List Char) :
    lineAfter skipped (text ++ '\n' :: later) = lineAfter skipped text := by
  cases skipped with
  | zero => rw [lineAfter, lineAfter, takeWhile_before (by simp)]
  | succ skipped =>
    induction text generalizing skipped with
    | nil => cases h
    | cons c text ih =>
      by_cases hc : c = '\n'
      · subst hc
        rw [List.count_cons_self] at h
        rw [List.cons_append, lineAfter_newline, lineAfter_newline]
        cases skipped with
        | zero => rw [lineAfter, lineAfter, takeWhile_before (by simp)]
        | succ skipped => exact ih skipped (by omega)
      · rw [List.count_cons_of_ne hc] at h
        rw [List.cons_append, lineAfter_cons hc, lineAfter_cons hc]
        exact ih skipped h

theorem lineAfter_behind_newline (skipped : Nat) (text later : List Char) :
    lineAfter (text.count '\n' + 1 + skipped) (text ++ '\n' :: later) = lineAfter skipped later := by
  induction text with
  | nil => rw [List.count_nil, Nat.zero_add, Nat.add_comm, List.nil_append, lineAfter_newline]
  | cons c text ih =>
    by_cases hc : c = '\n'
    · subst hc
      have hlines : ('\n' :: text).count '\n' + 1 + skipped =
          text.count '\n' + 1 + skipped + 1 := by
        rw [List.count_cons_self]
        omega
      rw [hlines, List.cons_append, lineAfter_newline, ih]
    · have hlines : (c :: text).count '\n' + 1 + skipped =
          text.count '\n' + skipped + 1 := by
        rw [List.count_cons_of_ne hc]
        omega
      rw [hlines, List.cons_append, lineAfter_cons hc, Nat.add_right_comm, ih]

/-- The line `ahead` lines behind the one being read, which goes on with `text`. -/
def lineAhead (current text : List Char) : Nat → List Char
  | 0 => withoutReturn (current ++ text.takeWhile (· ≠ '\n'))
  | ahead + 1 => lineAfter ahead ((text.dropWhile (· ≠ '\n')).drop 1)

theorem lineAhead_nil (text : List Char) (ahead : Nat) :
    lineAhead [] text ahead = lineAfter ahead text := by
  cases ahead <;> rfl

/-- The invariant of a reader under way: the lines that it will have are those of the text. -/
theorem lines_ahead (text : List Char) (r : LineReader) (ahead : Nat) :
    ((text.foldl LineReader.push r).lines[r.finished.length + ahead]?).getD "" =
      String.ofList (lineAhead r.current.reverse text ahead) := by
  induction text generalizing r ahead with
  | nil =>
    rw [List.foldl_nil, LineReader.lines_eq, List.getElem?_append_right (by simp)]
    cases ahead with
    | zero =>
      by_cases hr : r.current = []
      · simp [hr, lineAhead, withoutReturn]
      · simp [hr, lineAhead, LineReader.currentLine_eq]
    | succ ahead => split <;> simp [lineAhead, lineAfter_nil]
  | cons c text ih =>
    by_cases hc : c = '\n'
    · subst hc
      have hpush : r.push '\n' = ⟨r.currentLine :: r.finished, []⟩ := rfl
      rw [List.foldl_cons, hpush]
      cases ahead with
      | zero =>
        obtain ⟨later, hlater⟩ := LineReader.lines_foldl_push text ⟨r.currentLine :: r.finished, []⟩
        rw [hlater]
        simp [lineAhead, LineReader.currentLine_eq]
      | succ ahead =>
        have h := ih ⟨r.currentLine :: r.finished, []⟩ ahead
        rw [List.length_cons, List.reverse_nil, lineAhead_nil] at h
        rw [show r.finished.length + (ahead + 1) = r.finished.length + 1 + ahead by omega, h]
        simp [lineAhead]
    · have hpush : r.push c = ⟨r.finished, c :: r.current⟩ := by simp [LineReader.push, hc]
      rw [List.foldl_cons, hpush, ih]
      cases ahead <;> simp [lineAhead, hc]

/-- Looking a line up in the text gives what the collected lines hold, and the empty line where
they hold none. -/
theorem lineText_eq (text : List Char) (number : Int) :
    lineText text number = (line? (lineTable text) number).getD "" := by
  unfold lineText line?
  split
  · have h := lines_ahead text .empty (number - 1).toNat
    simp only [LineReader.empty, List.length_nil, Nat.zero_add, List.reverse_nil,
      lineAhead_nil] at h
    exact h.symm
  · rfl

theorem lineText_before_newline {number : Int} {text : List Char} (hfirst : 1 ≤ number)
    (hlast : number ≤ 1 + text.count '\n') (later : List Char) :
    lineText (text ++ '\n' :: later) number = lineText text number := by
  rw [lineText, lineText, if_pos hfirst, if_pos hfirst, lineAfter_before_newline (by omega)]

theorem lineText_behind_newline {number : Int} (hfirst : 1 ≤ number) (text later : List Char) :
    lineText (text ++ '\n' :: later) (number + (1 + text.count '\n' : Nat)) =
      lineText later number := by
  have hskipped : (number + (1 + text.count '\n' : Nat) - 1).toNat =
      text.count '\n' + 1 + (number - 1).toNat := by omega
  rw [lineText, lineText, if_pos (by omega), if_pos hfirst, hskipped, lineAfter_behind_newline]

theorem exists_last_line (text : List Char) :
    text = afterLastNewline text ∨ ∃ before, text = before ++ '\n' :: afterLastNewline text := by
  have hjoin : (text.reverse.dropWhile (· ≠ '\n')).reverse ++ afterLastNewline text = text := by
    rw [afterLastNewline, ← List.reverse_append, List.takeWhile_append_dropWhile,
      List.reverse_reverse]
  rcases dropWhile_newline text.reverse with hend | ⟨later, hend⟩
  · rw [hend] at hjoin
    exact .inl hjoin.symm
  · rw [hend, List.reverse_cons, List.append_assoc] at hjoin
    exact .inr ⟨later.reverse, hjoin.symm⟩

theorem getLast?_afterLastNewline {text : List Char} (h : afterLastNewline text ≠ []) :
    (afterLastNewline text).getLast? = text.getLast? := by
  rcases exists_last_line text with htext | ⟨before, htext⟩
  · rw [← htext]
  · have hlast : (before ++ '\n' :: afterLastNewline text).getLast? =
        (afterLastNewline text).getLast? := by
      rw [List.getLast?_append, List.getLast?_cons, List.getLast?_eq_some_getLast h]
      rfl
    rw [← hlast, ← htext]

/-- The line on which a position stands: what has been read of it and what is ahead. -/
theorem lineText_behind (passed ahead : List Char) :
    lineText (passed ++ ahead) (Position.behind passed).line =
      String.ofList (withoutReturn (afterLastNewline passed ++ ahead.takeWhile (· ≠ '\n'))) := by
  have hlast : (afterLastNewline passed ++ ahead).takeWhile (· ≠ '\n') =
      afterLastNewline passed ++ ahead.takeWhile (· ≠ '\n') := by
    apply List.takeWhile_append_of_pos
    intro c hc
    apply decide_eq_true
    rintro rfl
    exact newline_not_mem_afterLastNewline passed hc
  have hskipped : ((Position.behind passed).line - 1).toNat = passed.count '\n' := by
    simp only [Position.behind]
    omega
  have hlines : lineAfter (passed.count '\n') (passed ++ ahead) =
      withoutReturn (afterLastNewline passed ++ ahead.takeWhile (· ≠ '\n')) := by
    rw [← hlast]
    have hlastCount : (afterLastNewline passed).count '\n' = 0 :=
      List.count_eq_zero.mpr (newline_not_mem_afterLastNewline passed)
    rcases exists_last_line passed with hpassed | ⟨before, hpassed⟩
    · rw [← hpassed] at hlastCount ⊢
      rw [hlastCount, lineAfter]
    · have hcount : passed.count '\n' = before.count '\n' + 1 + 0 := by
        rw [hpassed, List.count_append, List.count_cons_self, hlastCount]
      have htext : passed ++ ahead = before ++ '\n' :: (afterLastNewline passed ++ ahead) := by
        rw [← List.cons_append, ← List.append_assoc, ← hpassed]
      rw [hcount, htext, lineAfter_behind_newline, lineAfter]
  rw [lineText, if_pos (Position.behind_bounds passed).1, hskipped, hlines]

theorem getElem?_withoutReturn {text : List Char} {n : Nat} {c : Char} (h : text[n]? = some c)
    (hc : c ≠ '\r') : (withoutReturn text)[n]? = some c := by
  unfold withoutReturn
  split
  · next hlast =>
    rw [List.getLast?_eq_getElem?] at hlast
    obtain ⟨hn, -⟩ := List.getElem?_eq_some_iff.mp h
    have hne : n ≠ text.length - 1 := by
      rintro rfl
      exact hc (Option.some.inj (h.symm.trans hlast))
    rw [List.getElem?_dropLast, if_pos (by omega), h]
  · exact h

end Text

end SourceCheck
