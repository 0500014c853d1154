import Mathlib.Data.List.Forall2
import SourceCheck.Proofs.Outcomes
import SourceCheck.Workspace.Wildcard

/-!
What wildcards stand for. A name is described when it can be cut into parts, one for each wildcard;
a pattern that cannot be read is refused at a place inside it, and two stars that can be read fill
a name alone.
-/

namespace SourceCheck.Workspace.Wildcard

inductive Covers : Wildcard → List Char → Prop where
  | char (c : Char) : Covers (.char c) [c]
  | anyChar (c : Char) : Covers .anyChar [c]
  | anyText (part : List Char) : Covers .anyText part
  | anyDepth (part : List Char) : Covers .anyDepth part
  | oneOf {inside : Bool} {ranges : List (Char × Char)} {c : Char}
      (h : inside = true ↔ ∃ range ∈ ranges, range.1 ≤ c ∧ c ≤ range.2) :
      Covers (.oneOf inside ranges) [c]

inductive Single : Wildcard → Prop where
  | char (c : Char) : Single (.char c)
  | anyChar : Single .anyChar
  | oneOf (inside : Bool) (ranges : List (Char × Char)) : Single (.oneOf inside ranges)

section Names

variable {w : Wildcard} {ws : List Wildcard} {name part : List Char}

theorem anyEnd_iff (p : List Char → Bool) (name : List Char) :
    anyEnd p name = true ↔ ∃ front back, front ++ back = name ∧ p back = true := by
  induction name with
  | nil => simp [anyEnd]
  | cons c name ih =>
    rw [anyEnd, Bool.or_eq_true, ih]
    constructor
    · rintro (hall | ⟨front, back, rfl, hback⟩)
      · exact ⟨[], c :: name, rfl, hall⟩
      · exact ⟨c :: front, back, rfl, hback⟩
    · rintro ⟨front, back, heq, hback⟩
      cases front with
      | nil =>
        obtain rfl : back = c :: name := heq
        exact .inl hback
      | cons d front => exact .inr ⟨front, back, (List.cons.inj heq).2, hback⟩

theorem admits_oneOf (inside : Bool) (ranges : List (Char × Char)) (c : Char) :
    (Wildcard.oneOf inside ranges).admits c = true ↔
      (inside = true ↔ ∃ range ∈ ranges, range.1 ≤ c ∧ c ≤ range.2) := by
  rw [admits, beq_iff_eq, Bool.eq_iff_iff, List.any_eq_true]
  simp only [Bool.and_eq_true, decide_eq_true_eq]
  exact iff_comm

theorem Single.covers_iff (h : Single w) :
    Covers w part ↔ ∃ c, part = [c] ∧ w.admits c = true := by
  cases h with
  | char own =>
    constructor
    · rintro ⟨⟩
      exact ⟨own, rfl, beq_self_eq_true own⟩
    · rintro ⟨c, rfl, hc⟩
      obtain rfl : own = c := eq_of_beq hc
      exact .char own
  | anyChar =>
    constructor
    · rintro ⟨⟩
      exact ⟨_, rfl, rfl⟩
    · rintro ⟨c, rfl, -⟩
      exact .anyChar c
  | oneOf inside ranges =>
    constructor
    · rintro (_ | _ | _ | _ | hc)
      exact ⟨_, rfl, (admits_oneOf inside ranges _).mpr hc⟩
    · rintro ⟨c, rfl, hc⟩
      exact .oneOf ((admits_oneOf inside ranges c).mp hc)

theorem Single.describes_iff (h : Single w) :
    describes (w :: ws) name = true ↔
      ∃ part rest, part ++ rest = name ∧ Covers w part ∧ describes ws rest = true := by
  have hcons (c : Char) (name : List Char) :
      describes (w :: ws) (c :: name) = (w.admits c && describes ws name) := by
    cases h <;> rfl
  have hnil : describes (w :: ws) [] = false := by
    cases h <;> rfl
  simp only [h.covers_iff]
  constructor
  · intro hname
    cases name with
    | nil => rw [hnil] at hname; cases hname
    | cons c name =>
      rw [hcons, Bool.and_eq_true] at hname
      exact ⟨[c], name, rfl, ⟨c, rfl, hname.1⟩, hname.2⟩
  · rintro ⟨-, rest, rfl, ⟨c, rfl, hc⟩, hrest⟩
    rw [List.singleton_append, hcons, hc, hrest]
    rfl

theorem describes_anyEnd_iff (h : ∀ part, Covers w part)
    (hw : ∀ name, describes (w :: ws) name = anyEnd (describes ws) name) :
    describes (w :: ws) name = true ↔
      ∃ part rest, part ++ rest = name ∧ Covers w part ∧ describes ws rest = true := by
  rw [hw, anyEnd_iff]
  constructor
  · rintro ⟨front, back, heq, hback⟩
    exact ⟨front, back, heq, h front, hback⟩
  · rintro ⟨front, back, heq, -, hback⟩
    exact ⟨front, back, heq, hback⟩

theorem describes_cons_iff (w : Wildcard) (ws : List Wildcard) (name : List Char) :
    describes (w :: ws) name = true ↔
      ∃ part rest, part ++ rest = name ∧ Covers w part ∧ describes ws rest = true := by
  cases w with
  | char c => exact (Single.char c).describes_iff
  | anyChar => exact Single.anyChar.describes_iff
  | anyText => exact describes_anyEnd_iff .anyText fun name => by cases name <;> rfl
  | anyDepth => exact describes_anyEnd_iff .anyDepth fun name => by cases name <;> rfl
  | oneOf inside ranges => exact (Single.oneOf inside ranges).describes_iff

/-- The wildcards describe the names that can be cut into parts for them, in their order. -/
theorem describes_iff (ws : List Wildcard) (name : List Char) :
    describes ws name = true ↔ ∃ parts, parts.flatten = name ∧ List.Forall₂ Covers ws parts := by
  induction ws generalizing name with
  | nil =>
    constructor
    · intro hname
      obtain rfl : name = [] := List.isEmpty_iff.mp hname
      exact ⟨[], rfl, .nil⟩
    · rintro ⟨parts, rfl, hparts⟩
      cases hparts
      rfl
  | cons w ws ih =>
    rw [describes_cons_iff]
    constructor
    · rintro ⟨part, rest, rfl, hpart, hrest⟩
      obtain ⟨parts, rfl, hparts⟩ := (ih rest).mp hrest
      exact ⟨part :: parts, rfl, .cons hpart hparts⟩
    · rintro ⟨parts, rfl, hparts⟩
      cases hparts with
      | @cons _ part _ parts hpart hparts =>
        exact ⟨part, parts.flatten, rfl, hpart, (ih _).mpr ⟨parts, rfl, hparts⟩⟩

theorem describes_chars (own : List Char) :
    describes (own.map .char ++ ws) name = true ↔
      ∃ rest, name = own ++ rest ∧ describes ws rest = true := by
  induction own generalizing name with
  | nil => simp
  | cons c own ih =>
    rw [List.map_cons, List.cons_append, describes_cons_iff]
    constructor
    · rintro ⟨part, back, rfl, hpart, hback⟩
      cases hpart
      obtain ⟨rest, rfl, hrest⟩ := ih.mp hback
      exact ⟨rest, rfl, hrest⟩
    · rintro ⟨rest, rfl, hrest⟩
      exact ⟨[c], own ++ rest, rfl, .char c, ih.mpr ⟨rest, rfl, hrest⟩⟩

end Names

section Reading

variable {position : Nat} {reader : Reader} {text : List Char} {e : PatternError}

/-- The first place at which a fault can lie that is found from here on. -/
def Reader.reach (position : Nat) : Reader → Nat
  | .nameStart => position
  | .name => position - 1
  | .charClass start _ _ => start

def Reader.Begun (position : Nat) : Reader → Prop
  | .charClass start _ _ => start < position
  | _ => True

theorem Reader.Begun.reach_le (h : reader.Begun position) : reader.reach position ≤ position := by
  cases reader with
  | nameStart => exact Nat.le_refl position
  | name => exact Nat.sub_le position 1
  | charClass start inside characters => exact Nat.le_of_lt h

theorem fault_in_rest (next : Reader) (k : Nat) {rest : List Char} (hbegun : reader.Begun position)
    (hlength : text.length = rest.length + k) (hreach : position ≤ next.reach (position + k))
    (h : next.reach (position + k) ≤ e.position ∧ e.position < position + k + rest.length) :
    reader.reach position ≤ e.position ∧ e.position < position + text.length := by
  have hback := hbegun.reach_le
  omega

theorem fault_behind_char {c : Char} {rest : List Char} (hbegun : reader.Begun position)
    (h : Reader.name.reach (position + 1) ≤ e.position ∧
      e.position < position + 1 + rest.length) :
    reader.reach position ≤ e.position ∧ e.position < position + (c :: rest).length :=
  fault_in_rest .name 1 hbegun rfl (Nat.le_refl position) h

/-- A fault lies in what is read, or in front of it where the name or the class begins. -/
theorem read_error (hbegun : reader.Begun position) (h : read position reader text = .error e) :
    reader.reach position ≤ e.position ∧ e.position < position + text.length := by
  fun_induction read position reader text with
  | case1 =>
    cases h
    exact ⟨Nat.le_refl _, hbegun⟩
  | case2 position start inside characters c rest _ ih =>
    exact fault_behind_char hbegun (ih trivial (map_eq_error_iff.mp h))
  | case3 position start inside characters c rest _ ih =>
    have hlater : start < position + 1 := Nat.lt_succ_of_lt hbegun
    obtain ⟨hlow, hhigh⟩ := ih hlater h
    exact ⟨hlow, by rw [List.length_cons]; omega⟩
  | case4 => cases h
  | case5 position x rest _ ih =>
    exact fault_behind_char hbegun (ih trivial (map_eq_error_iff.mp h))
  | case6 position x tail =>
    cases h
    have hback := hbegun.reach_le
    simp only [List.length_cons]
    omega
  | case7 position tail =>
    cases h
    simp only [Reader.reach, List.length_cons]
    omega
  | case8 => cases h
  | case9 position x rest _ _ ih =>
    exact fault_in_rest .nameStart 3 hbegun rfl (Nat.le_add_right position 3)
      (ih trivial (map_eq_error_iff.mp h))
  | case10 position x tail _ _ _ hsome =>
    cases h
    have hback := hbegun.reach_le
    obtain ⟨c, tail, rfl⟩ := List.exists_cons_of_ne_nil hsome
    simp only [List.length_cons]
    omega
  | case11 position x rest _ _ _ _ _ _ ih =>
    exact fault_behind_char hbegun (ih trivial (map_eq_error_iff.mp h))
  | case12 position x rest _ ih =>
    exact fault_in_rest (.charClass position false []) 2 hbegun rfl (Nat.le_refl position)
      (ih (Nat.lt_add_of_pos_right (by decide)) h)
  | case13 position x rest _ _ ih =>
    exact fault_in_rest (.charClass position true []) 1 hbegun rfl (Nat.le_refl position)
      (ih (Nat.lt_succ_self position) h)
  | case14 position x rest _ ih =>
    exact fault_in_rest .nameStart 1 hbegun rfl (Nat.le_add_right position 1)
      (ih trivial (map_eq_error_iff.mp h))
  | case15 position x c rest _ _ _ _ _ _ _ _ _ _ _ ih =>
    exact fault_behind_char hbegun (ih trivial (map_eq_error_iff.mp h))

theorem read_error_within (h : read position .nameStart text = .error e) :
    position ≤ e.position ∧ e.position < position + text.length :=
  read_error (show Reader.nameStart.Begun position from trivial) h

variable {ws : List Wildcard}

theorem anyDepth_later {w : Wildcard} {x : Except PatternError (List Wildcard)} {next : Reader}
    {rest : List Char} (hw : w ≠ .anyDepth) (hnext : next ≠ .nameStart)
    (h : x.map (w :: ·) = .ok ws) (hmem : .anyDepth ∈ ws)
    (ih : ∀ ws, x = .ok ws → .anyDepth ∈ ws → next = .nameStart ∧ rest = ['*', '*']) : False := by
  obtain ⟨later, hx, rfl⟩ := map_eq_ok_iff.mp h
  rcases List.mem_cons.mp hmem with heq | hlater
  · exact hw heq.symm
  · exact hnext (ih later hx hlater).1

/-- Two stars that stand for directories are all there is of their name. -/
theorem anyDepth_alone (hslash : '/' ∉ text) (h : read position reader text = .ok ws)
    (hmem : .anyDepth ∈ ws) : reader = .nameStart ∧ text = ['*', '*'] := by
  have hrest {c : Char} {rest : List Char} (hslash : '/' ∉ c :: rest) : '/' ∉ rest :=
    List.not_mem_of_not_mem_cons hslash
  fun_induction read position reader text generalizing ws with
  | case1 => cases h
  | case2 position start inside characters c rest _ ih =>
    exact (anyDepth_later (by simp) (by simp) h hmem fun ws => ih (hrest hslash)).elim
  | case3 position start inside characters c rest _ ih =>
    cases (ih (hrest hslash) h hmem).1
  | case4 =>
    cases h
    cases hmem
  | case5 position x rest _ ih =>
    exact (anyDepth_later (by simp) (by simp) h hmem fun ws => ih (hrest hslash)).elim
  | case6 => cases h
  | case7 => cases h
  | case8 position x hclass hname =>
    cases x with
    | nameStart => exact ⟨rfl, rfl⟩
    | name => exact (hname rfl).elim
    | charClass start inside characters => exact (hclass _ _ _ rfl).elim
  | case9 => simp at hslash
  | case10 => cases h
  | case11 position x rest _ _ _ _ _ _ ih =>
    exact (anyDepth_later (by simp) (by simp) h hmem fun ws => ih (hrest hslash)).elim
  | case12 position x rest _ ih =>
    cases (ih (hrest (hrest hslash)) h hmem).1
  | case13 position x rest _ _ ih =>
    cases (ih (hrest hslash) h hmem).1
  | case14 => simp at hslash
  | case15 position x c rest _ _ _ _ _ _ _ _ _ _ _ ih =>
    exact (anyDepth_later (by simp) (by simp) h hmem fun ws => ih (hrest hslash)).elim

def Plain (c : Char) : Prop := c ≠ '?' ∧ c ≠ '*' ∧ c ≠ '[' ∧ c ≠ '/'

theorem read_plain_cons {c : Char} {rest : List Char} (hc : Plain c)
    (hreader : reader = .nameStart ∨ reader = .name) :
    read position reader (c :: rest) =
      (read (position + 1) .name rest).map (.char c :: ·) := by
  obtain ⟨hquestion, hstar, hbracket, hslash⟩ := hc
  rcases hreader with rfl | rfl
  · rw [read] <;> simp_all
  · rw [read] <;> simp_all

theorem read_plain (h : ∀ c ∈ text, Plain c) (hreader : reader = .nameStart ∨ reader = .name) :
    read position reader text = .ok (text.map .char) := by
  induction text generalizing position reader with
  | nil => rcases hreader with rfl | rfl <;> rfl
  | cons c rest ih =>
    obtain ⟨hc, hrest⟩ := List.forall_mem_cons.mp h
    rw [read_plain_cons hc hreader, ih hrest (.inr rfl)]
    rfl

end Reading

end SourceCheck.Workspace.Wildcard
