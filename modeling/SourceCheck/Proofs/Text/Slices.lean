import SourceCheck.Text.Slice

/-!
Slices of a joined text. A text that is cut by the length of one of its parts divides into these
parts.
-/

namespace SourceCheck

namespace Text

theorem byteLength_append (s t : List Char) :
    byteLength (s ++ t) = byteLength s + byteLength t := by
  induction s with
  | nil => simp [byteLength]
  | cons c s ih => simp [byteLength, ih]; omega

theorem length_le_of_byteLength_le {s t : List Char} (h : s <+: t)
    (hbytes : byteLength t ≤ byteLength s) : t.length ≤ s.length := by
  obtain ⟨later, rfl⟩ := h
  cases later with
  | nil => simp
  | cons c later =>
    have hpos := c.utf8Size_pos
    simp only [byteLength_append, byteLength] at hbytes
    omega

theorem splitAt_append (s t : List Char) : splitAt (byteLength s) (s ++ t) = .ok (s, t) := by
  induction s with
  | nil => simp [byteLength, splitAt]
  | cons c s ih =>
    have hpos := c.utf8Size_pos
    obtain ⟨n, hn⟩ : ∃ n, byteLength (c :: s) = n + 1 :=
      ⟨c.utf8Size - 1 + byteLength s, by simp only [byteLength]; omega⟩
    have hrest : n + 1 - c.utf8Size = byteLength s := by simp only [byteLength] at hn; omega
    rw [hn, List.cons_append, splitAt, if_neg (by simp only [byteLength] at hn; omega), hrest, ih]
    rfl

theorem lengthBut_append (s t : List Char) :
    lengthBut (byteLength t) (s ++ t) = .ok (byteLength s) := by
  rw [lengthBut, if_pos (by rw [byteLength_append]; omega), byteLength_append, Nat.add_sub_cancel]

theorem splitBefore_append (s t : List Char) : splitBefore (s ++ t) t = .ok (s, t) := by
  rw [splitBefore, lengthBut_append]
  exact splitAt_append s t

end Text

end SourceCheck
