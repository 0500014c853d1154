import SourceCheck.Proofs.Text.Lines
import SourceCheck.Proofs.Text.Slices
import SourceCheck.Scan.Cursor

/-!
What the elementary actions of a cursor do. During a scan the cursor is determined by two places
in the text: where its lexeme starts and how far it has come. Every move leads from one such state
to another, so that no length falls below zero, no slice divides a character, the lines are as
many as the counter says, and the counters hold.
-/

namespace SourceCheck

namespace Scan

namespace Scanning

variable {σ α β : Type}

namespace Returns

variable {before between after : Cursor} {a : α} {b : β}

theorem pure (a : α) (c : Cursor) : Returns (Pure.pure a) c a c := rfl

theorem bind {x : Scanning α} {f : α → Scanning β} (hx : Returns x before a between)
    (hf : Returns (f a) between b after) : Returns (x >>= f) before b after := by
  unfold Returns at *
  rw [StateT.run_bind, ExceptT.run_bind, hx]
  exact hf

theorem read {f : Cursor → Scanning β} (hf : Returns (f before) before b after) :
    Returns (get >>= f) before b after := hf

theorem write {c : Cursor} (h : c = after) : Returns (set c) before ⟨⟩ after := by
  subst h
  rfl

section Loop

variable {r : σ → Scanning (Round σ α)} {state next : σ}

theorem again (h : Returns (r state) before (.again next) between)
    (hlater : Returns (loop (.again next) r) between a after) :
    Returns (loop (.again state) r) before a after := by
  rw [loop]
  exact .bind h hlater

theorem done (h : Returns (r state) before (.done a) after) :
    Returns (loop (.again state) r) before a after := by
  rw [loop]
  refine .bind h ?_
  rw [loop]
  exact .pure _ _

end Loop

theorem congr {x : Scanning α} {a' : α} {after' : Cursor} (h : Returns x before a after)
    (ha : a = a') (hafter : after = after') : Returns x before a' after' := by
  subst ha hafter
  exact h

theorem unique {x : Scanning α} {a' : α} {after' : Cursor} (h : Returns x before a after)
    (k : Returns x before a' after') : a = a' ∧ after = after' := by
  have heq := Except.ok.inj (Option.some.inj (h.symm.trans k))
  exact Prod.mk.inj heq

end Returns

theorem slicing_returns {a : α} {c : Cursor} : Returns (slicing (.ok a)) c a c := rfl

theorem increment_returns {c : Cursor} {n : Int}
    (h : ∀ limit, c.capacity = some limit → n < limit) : Returns (increment n) c (n + 1) c := by
  refine .read ?_
  have hany : ¬ c.capacity.any (· ≤ n) = true := by
    cases hc : c.capacity with
    | none => simp
    | some limit => have := h limit hc; simp; omega
  rw [if_neg hany]
  exact .pure _ _

end Scanning

def Fits (capacity : Option Int) (text : List Char) : Prop :=
  ∀ limit, capacity = some limit → (text.length : Int) < limit

theorem fits_unbounded (text : List Char) : Fits none text := fun _ h => by cases h

theorem fits_of_lt {text : List Char} {limit : Int} (h : (text.length : Int) < limit) :
    Fits (some limit) text := by
  intro _ hlimit
  cases hlimit
  exact h

/-- The cursor that has passed over `place` characters of the text and whose lexeme starts behind
the first `start` of them. -/
def Cursor.placed (capacity : Option Int) (text : List Char) (start place : Nat) : Cursor where
  capacity := capacity
  rest := text.drop place
  fromLexeme := text.drop start
  fromLine := Text.afterLastNewline (text.take place) ++ text.drop place
  position := .behind (text.take place)
  lines := (Text.LineReader.of (text.take place)).finished.reverse
  finished := false

theorem Cursor.start_eq_placed (capacity : Option Int) (text : List Char) :
    start capacity text = placed capacity text 0 0 := rfl

namespace Cursor

variable {capacity : Option Int} {text input : List Char} {start place : Nat}

theorem rest_placed (h : text.drop place = input) :
    (placed capacity text start place).rest = input := h

theorem atEnd_placed (h : text.drop place = input) :
    (placed capacity text start place).atEnd = input.isEmpty := by
  simp [atEnd, placed, h]

theorem atEnd_placed_nil (h : text.drop place = []) :
    (placed capacity text start place).atEnd = true := atEnd_placed h

theorem not_atEnd_placed {c : Char} (h : text.drop place = c :: input) :
    ¬ (placed capacity text start place).atEnd = true := by
  simp [atEnd_placed h]

theorem peek_placed (h : text.drop place = input) (n : Nat) :
    (placed capacity text start place).peek n = (input[n]?).getD '\x00' := by
  simp only [peek, placed, h]

theorem first_placed {c : Char} (h : text.drop place = c :: input) :
    (placed capacity text start place).peek 0 = c := peek_placed h 0

end Cursor

variable {text input : List Char} {start place : Nat} {c : Char}

theorem drop_next (h : text.drop place = c :: input) : text.drop (place + 1) = input := by
  rw [← List.drop_drop, h]
  rfl

theorem take_next (h : text.drop place = c :: input) :
    text.take (place + 1) = text.take place ++ [c] := by
  rw [List.take_add, h]
  rfl

theorem place_lt (h : text.drop place = c :: input) : place < text.length := by
  have hl := congrArg List.length h
  simp only [List.length_drop, List.length_cons] at hl
  omega

theorem drop_further (h : text.drop place = input) (n : Nat) :
    text.drop (place + n) = input.drop n := by
  rw [← List.drop_drop, h]

namespace Scanning

open Cursor

variable {capacity : Option Int} (fits : Fits capacity text)

theorem placed_next (h : text.drop place = c :: input) :
    placed capacity text start (place + 1) =
      { placed capacity text start place with
        rest := input
        fromLine := Text.afterLastNewline (text.take place ++ [c]) ++ input
        position := (Position.behind (text.take place)).next c
        lines := ((Text.LineReader.of (text.take place)).push c).finished.reverse } := by
  rw [placed, drop_next h, take_next h, Position.behind_concat, Text.LineReader.of_concat]
  rfl

include fits

theorem counted_placed (h : text.drop place = c :: input) {limit : Int}
    (hlimit : capacity = some limit) :
    (placed capacity text start place).position.line < limit ∧
      (placed capacity text start place).position.column < limit := by
  have hlt := place_lt h
  have hlength : (text.take place).length = place := by rw [List.length_take]; omega
  have hbounds := Position.behind_bounds (text.take place)
  have hfits := fits limit hlimit
  simp only [placed]
  omega

theorem endLine_returns (h : text.drop place = '\n' :: input) :
    Returns (endLine input) (placed capacity text start place) ⟨⟩
      (placed capacity text start (place + 1)) := by
  have hsplit : Text.splitBefore (placed capacity text start place).fromLine input =
      .ok (Text.afterLastNewline (text.take place) ++ ['\n'], input) := by
    rw [← Text.splitBefore_append]
    simp [placed, h]
  have hcount : ¬ (placed capacity text start place).position.line ≠
      (((placed capacity text start place).lines ++
        [Text.trimmedLine (Text.afterLastNewline (text.take place) ++ ['\n'])]).length : Int) := by
    simp [placed, Position.behind, Text.LineReader.length_finished_of]
    omega
  refine .read ?_
  rw [hsplit, placed_next h]
  refine .bind slicing_returns ?_
  simp only
  rw [if_neg hcount]
  refine .bind (increment_returns fun limit hlimit => (counted_placed fits h hlimit).1) ?_
  refine .write ?_
  simp [placed, Text.afterLastNewline_newline, Position.next, Text.LineReader.push,
    Text.LineReader.currentLine_of, Text.trimmedLine, Text.withoutNewline_concat]

theorem bump_returns (h : text.drop place = c :: input) :
    Returns bump (placed capacity text start place) ⟨⟩
      (placed capacity text start (place + 1)) := by
  refine .read ?_
  rw [rest_placed h]
  by_cases hc : c = '\n'
  · subst hc
    simp only [↓reduceIte]
    exact endLine_returns fits h
  · simp only [hc, ↓reduceIte]
    refine .bind (increment_returns fun limit hlimit => (counted_placed fits h hlimit).2) ?_
    refine .write ?_
    rw [placed_next h]
    simp [placed, Text.afterLastNewline_concat, hc, Position.next, Text.LineReader.push, h]

theorem bumpTo_returns {passed later : List Char} (h : text.drop place = passed ++ later) :
    Returns (bumpTo (Text.byteLength later)) (placed capacity text start place) ⟨⟩
      (placed capacity text start (place + passed.length)) := by
  induction passed generalizing place with
  | nil =>
    refine .done (.read ?_)
    rw [rest_placed h, List.nil_append, if_neg (Nat.lt_irrefl _)]
    exact .pure _ _
  | cons c passed ih =>
    have hlater := ih (drop_next h)
    rw [Nat.add_right_comm] at hlater
    refine .again (.read ?_) hlater
    have hless : Text.byteLength later < Text.byteLength (c :: (passed ++ later)) := by
      have := c.utf8Size_pos
      simp only [Text.byteLength, Text.byteLength_append]
      omega
    rw [rest_placed h, List.cons_append, if_pos hless]
    exact .bind (bump_returns fits h) (.pure _ _)

theorem bumpBytes_returns {passed later : List Char} (h : text.drop place = passed ++ later) :
    Returns (bumpBytes (Text.byteLength passed)) (placed capacity text start place) ⟨⟩
      (placed capacity text start (place + passed.length)) := by
  refine .read ?_
  have hleft : Text.lengthBut (Text.byteLength passed) (placed capacity text start place).rest =
      .ok (Text.byteLength later) := by
    rw [rest_placed h, Text.lengthBut, if_pos (by rw [Text.byteLength_append]; omega),
      Text.byteLength_append, Nat.add_sub_cancel_left]
  rw [hleft]
  exact .bind slicing_returns (bumpTo_returns fits h)

theorem eatWhile_returns (p : Char → Bool) (h : text.drop place = input) :
    Returns (eatWhile p) (placed capacity text start place) ⟨⟩
      (placed capacity text start (place + runLength p input)) := by
  induction input generalizing place with
  | nil =>
    refine .done (.read ?_)
    rw [atEnd_placed h, if_neg (by simp)]
    exact .pure _ _
  | cons c input ih =>
    by_cases hp : p c = true
    · have hlength : runLength p (c :: input) = 1 + runLength p input := by
        simp [runLength, hp]
        omega
      rw [hlength, ← Nat.add_assoc]
      refine .again (.read ?_) (ih (drop_next h))
      rw [atEnd_placed h, peek_placed h, if_pos (by simpa using hp)]
      exact .bind (bump_returns fits h) (.pure _ _)
    · have hlength : runLength p (c :: input) = 0 := by simp [runLength, hp]
      rw [hlength]
      refine .done (.read ?_)
      rw [atEnd_placed h, peek_placed h, if_neg (by simpa using hp)]
      exact .pure _ _

omit fits in
theorem extract_returns (h : start ≤ place) :
    Returns extract (placed capacity text start place) ((text.drop start).take (place - start))
      (placed capacity text place place) := by
  refine .read ?_
  have hsplit : Text.splitBefore (placed capacity text start place).fromLexeme
      (placed capacity text start place).rest =
        .ok ((text.drop start).take (place - start), text.drop place) := by
    rw [← Text.splitBefore_append]
    have hdrop : text.drop place = (text.drop start).drop (place - start) := by
      rw [List.drop_drop, Nat.add_sub_cancel' h]
    simp only [placed]
    rw [hdrop, List.take_append_drop]
  rw [hsplit]
  refine .bind slicing_returns ?_
  exact .bind (.write rfl) (.pure _ _)

end Scanning

def Cursor.ended (capacity : Option Int) (text : List Char) : Cursor :=
  { placed capacity text text.length text.length with
    fromLine := []
    lines := Text.lineTable text
    finished := true }

theorem lineTable_eq (text : List Char) :
    Text.lineTable text = (Text.LineReader.of text).finished.reverse ++
      if Text.afterLastNewline text = [] then []
      else [Text.trimmedLine (Text.afterLastNewline text)] := by
  have hcurrent : (Text.LineReader.of text).current = [] ↔ Text.afterLastNewline text = [] := by
    rw [← Text.LineReader.current_of, List.reverse_eq_nil_iff]
  rw [Text.lineTable, ← Text.LineReader.of, Text.LineReader.lines_eq,
    Text.LineReader.currentLine_of, Text.trimmedLine,
    Text.withoutNewline_eq (Text.newline_not_mem_afterLastNewline text)]
  simp only [hcurrent]

theorem Scanning.finishLine_returns {capacity : Option Int} (h : text.drop place = []) :
    Returns finishLine { Cursor.placed capacity text place place with finished := true } ⟨⟩
      (Cursor.ended capacity text) := by
  have htake : text.take place = text := List.take_of_length_le (List.drop_eq_nil_iff.mp h)
  have hstate : { Cursor.placed capacity text place place with finished := true } =
      { Cursor.ended capacity text with
        fromLine := Text.afterLastNewline text
        lines := (Text.LineReader.of text).finished.reverse } := by
    simp [Cursor.placed, Cursor.ended, h, htake]
  rw [hstate]
  refine .read ?_
  by_cases hline : Text.afterLastNewline text = []
  · have hend : { Cursor.ended capacity text with
        fromLine := Text.afterLastNewline text
        lines := (Text.LineReader.of text).finished.reverse } = Cursor.ended capacity text := by
      simp [Cursor.ended, lineTable_eq, hline]
    rw [if_neg (by simp [hline]), hend]
    exact .pure _ _
  · rw [if_pos (by simpa using hline)]
    refine .write ?_
    simp [Cursor.ended, lineTable_eq, hline]

end Scan

end SourceCheck
