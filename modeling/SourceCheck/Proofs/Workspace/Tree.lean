import Mathlib.Data.List.Lex
import Mathlib.Data.String.Basic
import Mathlib.Order.Defs.Unbundled
import SourceCheck.Proofs.Outcomes
import SourceCheck.Workspace.Tree

/-!
What the operations do to the files of a project. In a sound tree the entries are in order and each
stands in a directory; every operation that succeeds leaves a sound tree and changes no entry but
the one that it is about, with all that it holds.
-/

namespace SourceCheck.Workspace

def IsName (name : String) : Prop := name ≠ "" ∧ name ≠ "." ∧ name ≠ ".."

namespace Tree

structure Sound (t : Tree) : Prop where
  ordered : t.entries.Pairwise fun a b => a.1 < b.1
  named : ∀ place ∈ t.entries.map Prod.fst, place ≠ [] ∧ ∀ name ∈ place, IsName name
  closed : ∀ place name, t.entryAt? (place ++ [name]) ≠ none → t.entryAt? place = some .directory

def Spares (free : Path → Prop) (before after : Tree) : Prop :=
  ∀ place, ¬ free place → before.entryAt? place ≠ none →
    after.entryAt? place = before.entryAt? place

structure Keeps (free : Path → Prop) (before after : Tree) : Prop where
  sound : after.Sound
  spares : before.Spares free after

instance (free : Path → Prop) : IsPreorder Tree (Spares free) where
  refl _ _ _ _ := rfl
  trans a b c hab hbc place hplace hentry := by
    have hsame := hab place hplace hentry
    rw [hbc place hplace (by rwa [hsame]), hsame]

variable {t t' : Tree} {place other : Path} {name : String} {entry : Entry}

/-! ## Entries -/

section Entries

variable {entries : List (Path × Entry)}

theorem lookup_cons (other key : Path) (value : Entry) (rest : List (Path × Entry)) :
    ((key, value) :: rest).lookup other =
      if other = key then some value else rest.lookup other := by
  by_cases h : other = key
  · rw [if_pos h, h, List.lookup_cons_self]
  · rw [if_neg h, List.lookup_cons, beq_false_of_ne h]

theorem lookup_insertOrdered (place other : Path) (entry : Entry)
    (entries : List (Path × Entry)) :
    (insertOrdered place entry entries).lookup other =
      if other = place then some entry else entries.lookup other := by
  fun_induction insertOrdered place entry entries with
  | case1 => exact lookup_cons _ _ _ _
  | case2 =>
    rw [lookup_cons, lookup_cons]
    by_cases h : other = place
    · rw [if_pos h, if_pos h]
    · rw [if_neg h, if_neg h, if_neg h]
  | case3 => exact lookup_cons _ _ _ _
  | case4 head found rest hne hlt ih =>
    rw [lookup_cons, lookup_cons, ih]
    by_cases h : other = head
    · subst h
      rw [if_pos rfl, if_neg (Ne.symm hne), if_pos rfl]
    · rw [if_neg h, if_neg h]

theorem lookup_filter_outside (place other : Path) (entries : List (Path × Entry)) :
    (entries.filter fun (key, _) => !place.isPrefixOf key).lookup other =
      if place <+: other then none else entries.lookup other := by
  induction entries with
  | nil => simp
  | cons head rest ih =>
    obtain ⟨key, found⟩ := head
    rw [List.filter_cons, lookup_cons]
    by_cases hkey : place <+: key
    · rw [if_neg (by simpa using hkey), ih]
      by_cases hother : other = key
      · subst hother
        rw [if_pos hkey, if_pos hkey]
      · rw [if_neg hother]
    · rw [if_pos (by simpa [← List.isPrefixOf_iff_prefix] using hkey), lookup_cons]
      by_cases hother : other = key
      · subst hother
        rw [if_pos rfl, if_neg hkey, if_pos rfl]
      · rw [if_neg hother, if_neg hother, ih]

theorem mem_insertOrdered {found : Path × Entry}
    (h : found ∈ insertOrdered place entry entries) : found = (place, entry) ∨ found ∈ entries := by
  fun_induction insertOrdered place entry entries with
  | case1 => exact .inl (List.mem_singleton.mp h)
  | case2 =>
    rcases List.mem_cons.mp h with rfl | h
    · exact .inl rfl
    · exact .inr (List.mem_cons_of_mem _ h)
  | case3 => exact List.mem_cons.mp h
  | case4 head value rest hne hlt ih =>
    rcases List.mem_cons.mp h with rfl | h
    · exact .inr List.mem_cons_self
    · exact (ih h).imp_right (List.mem_cons_of_mem _)

theorem ordered_insertOrdered (h : entries.Pairwise fun a b => a.1 < b.1) :
    (insertOrdered place entry entries).Pairwise fun a b => a.1 < b.1 := by
  fun_induction insertOrdered place entry entries with
  | case1 => exact List.pairwise_singleton _ _
  | case2 =>
    obtain ⟨hfirst, hrest⟩ := List.pairwise_cons.mp h
    exact List.pairwise_cons.mpr ⟨hfirst, hrest⟩
  | case3 head value rest hne hlt =>
    refine List.pairwise_cons.mpr ⟨fun found hfound => ?_, h⟩
    rcases List.mem_cons.mp hfound with rfl | hfound
    · exact hlt
    · exact lt_trans hlt ((List.pairwise_cons.mp h).1 found hfound)
  | case4 head value rest hne hlt ih =>
    obtain ⟨hfirst, hrest⟩ := List.pairwise_cons.mp h
    refine List.pairwise_cons.mpr ⟨fun found hfound => ?_, ih hrest⟩
    rcases mem_insertOrdered hfound with rfl | hfound
    · exact lt_of_le_of_ne (le_of_not_gt hlt) (Ne.symm hne)
    · exact hfirst found hfound

end Entries

theorem entryAt?_root (t : Tree) : t.entryAt? [] = some .directory := rfl

theorem entryAt?_insert (hplace : place ≠ []) (other : Path) :
    (t.insert place entry).entryAt? other =
      if other = place then some entry else t.entryAt? other := by
  rw [entryAt?, entryAt?, insert, lookup_insertOrdered]
  by_cases hroot : other = []
  · subst hroot
    rw [if_pos rfl, if_pos rfl, if_neg (Ne.symm hplace)]
  · rw [if_neg hroot, if_neg hroot]

theorem entryAt?_erase (t : Tree) (place other : Path) :
    (t.erase place).entryAt? other =
      if other ≠ [] ∧ place <+: other then none else t.entryAt? other := by
  rw [entryAt?, entryAt?, erase, lookup_filter_outside]
  by_cases hroot : other = []
  · subst hroot
    simp
  · simp [hroot]

theorem mem_of_entryAt? (hplace : place ≠ []) (h : t.entryAt? place ≠ none) :
    place ∈ t.entries.map Prod.fst := by
  rw [entryAt?, if_neg hplace] at h
  obtain ⟨found, hfound⟩ := Option.ne_none_iff_exists'.mp h
  obtain ⟨front, behind, heq, -⟩ := List.lookup_eq_some_iff.mp hfound
  rw [heq]
  simp

theorem entryAt?_of_mem (h : place ∈ t.entries.map Prod.fst) : t.entryAt? place ≠ none := by
  obtain ⟨⟨key, found⟩, hmem, rfl⟩ := List.mem_map.mp h
  rw [entryAt?]
  split
  · simp
  · rw [Ne, List.lookup_eq_none_iff]
    intro hnone
    simpa using hnone _ hmem

theorem outer_of_names (hnames : ∀ name ∈ place, IsName name) :
    place.outer = (List.range (place.length - 1)).map fun n => place.take (n + 1) := by
  have hself : place.names = place := by
    rw [Path.names, List.filter_eq_self]
    intro name hname
    obtain ⟨hempty, hdot, -⟩ := hnames name hname
    exact decide_eq_true ⟨hempty, hdot⟩
  rw [Path.outer, hself]

namespace Sound

theorem named_of_entryAt? (h : t.Sound) (hentry : t.entryAt? place ≠ none) :
    ∀ name ∈ place, IsName name := by
  by_cases hplace : place = []
  · subst hplace
    simp
  · exact (h.named place (mem_of_entryAt? hplace hentry)).2

theorem directory_above (h : t.Sound) {behind : Path} (hbehind : behind ≠ [])
    (hentry : t.entryAt? (place ++ behind) ≠ none) : t.entryAt? place = some .directory := by
  induction behind generalizing place with
  | nil => exact absurd rfl hbehind
  | cons name rest ih =>
    rw [← List.singleton_append, ← List.append_assoc] at hentry
    by_cases hrest : rest = []
    · subst hrest
      rw [List.append_nil] at hentry
      exact h.closed place name hentry
    · exact h.closed place name (by rw [ih hrest hentry]; simp)

theorem entry_on_way (h : t.Sound) {behind : Path} (hentry : t.entryAt? (place ++ behind) ≠ none) :
    t.entryAt? place ≠ none := by
  by_cases hbehind : behind = []
  · rwa [hbehind, List.append_nil] at hentry
  · rw [h.directory_above hbehind hentry]
    simp

theorem empty : Tree.empty.Sound := by
  constructor
  · exact .nil
  · intro place hplace
    cases hplace
  · intro place name hentry
    rw [entryAt?, if_neg (by simp)] at hentry
    exact absurd rfl hentry

theorem insert (h : t.Sound) (hplace : t.entryAt? place = some .directory) (hname : IsName name)
    (hkind : t.entryAt? (place ++ [name]) = some .directory → entry = .directory) :
    (t.insert (place ++ [name]) entry).Sound := by
  have hsome : place ++ [name] ≠ [] := by simp
  constructor
  · exact ordered_insertOrdered h.ordered
  · intro other hother
    obtain ⟨found, hfound, rfl⟩ := List.mem_map.mp hother
    rcases mem_insertOrdered hfound with rfl | hfound
    · refine ⟨hsome, fun part hpart => ?_⟩
      rcases List.mem_append.mp hpart with hpart | hpart
      · exact h.named_of_entryAt? (by rw [hplace]; simp) part hpart
      · rw [List.mem_singleton.mp hpart]
        exact hname
    · exact h.named found.1 (List.mem_map_of_mem hfound)
  · intro outer last hentry
    rw [entryAt?_insert hsome] at hentry ⊢
    by_cases hlast : outer ++ [last] = place ++ [name]
    · obtain ⟨rfl, -⟩ := List.append_inj' hlast rfl
      rw [if_neg (by simp), hplace]
    · rw [if_neg hlast] at hentry
      have houter := h.closed outer last hentry
      by_cases hnew : outer = place ++ [name]
      · subst hnew
        rw [if_pos rfl, hkind houter]
      · rw [if_neg hnew, houter]

theorem erase (h : t.Sound) (place : Path) : (t.erase place).Sound := by
  constructor
  · exact h.ordered.filter _
  · intro other hother
    obtain ⟨found, hfound, rfl⟩ := List.mem_map.mp hother
    exact h.named found.1 (List.mem_map_of_mem (List.mem_filter.mp hfound).1)
  · intro outer last hentry
    rw [entryAt?_erase] at hentry ⊢
    by_cases hlast : outer ++ [last] ≠ [] ∧ place <+: outer ++ [last]
    · rw [if_pos hlast] at hentry
      exact absurd rfl hentry
    · rw [if_neg hlast] at hentry
      rw [if_neg, h.closed outer last hentry]
      rintro ⟨-, hplace⟩
      exact hlast ⟨by simp, hplace.trans (List.prefix_append outer [last])⟩

section Adding

variable {k : Nat}

/-- The missing directories are there, and nothing further inside has changed. -/
structure Built (t : Tree) (place : Path) (k : Nat) (built : Tree) : Prop where
  sound : built.Sound
  there : built.entryAt? (place.take k) = some .directory
  inside : ∀ other, k < other.length → built.entryAt? other = t.entryAt? other

theorem Built.next {built : Tree} (h : Built t place k built) (hk : k < place.length)
    (hnames : ∀ name ∈ place, IsName name)
    (hfile : ∀ content, t.entryAt? (place.take (k + 1)) ≠ some (.file content)) :
    Built t place (k + 1) (if built.entryAt? (place.take (k + 1)) = none then
      built.insert (place.take (k + 1)) .directory else built) := by
  have hlength : (place.take (k + 1)).length = k + 1 := List.length_take_of_le hk
  have hsome : place.take (k + 1) ≠ [] := by
    intro hnil
    rw [hnil] at hlength
    cases hlength
  by_cases hmissing : built.entryAt? (place.take (k + 1)) = none
  · rw [if_pos hmissing]
    constructor
    · rw [List.take_succ_eq_append_getElem hk]
      exact h.sound.insert h.there (hnames _ (List.getElem_mem hk)) fun _ => rfl
    · rw [entryAt?_insert hsome, if_pos rfl]
    · intro other hother
      rw [entryAt?_insert hsome, if_neg, h.inside other (by omega)]
      rintro rfl
      omega
  · rw [if_neg hmissing]
    refine ⟨h.sound, ?_, fun other hother => h.inside other (by omega)⟩
    have hsame := h.inside (place.take (k + 1)) (by omega)
    obtain ⟨entry, hentry⟩ := Option.ne_none_iff_exists'.mp hmissing
    cases entry with
    | directory => exact hentry
    | file content => exact absurd (hsame.symm.trans hentry) (hfile content)

end Adding

/-- What is added where no file is on the way, and in the place of no directory. -/
theorem add (h : t.Sound) (hsome : place ≠ []) (hnames : ∀ name ∈ place, IsName name)
    (houter : ∀ outer ∈ place.outer, ∀ content, t.entryAt? outer ≠ some (.file content))
    (hkind : t.entryAt? place = some .directory → entry = .directory) :
    (t.add place entry).Sound := by
  rw [outer_of_names hnames] at houter
  have hfile (n : Nat) (hn : n < place.length - 1) (content : List UInt8) :
      t.entryAt? (place.take (n + 1)) ≠ some (.file content) :=
    houter _ (List.mem_map_of_mem (List.mem_range.mpr hn)) content
  have hbuilt (k : Nat) (hk : k ≤ place.length - 1) : Built t place k
      (((List.range k).map fun n => place.take (n + 1)).foldl (fun t place =>
        if t.entryAt? place = none then t.insert place .directory else t) t) := by
    induction k with
    | zero => exact ⟨h, rfl, fun _ _ => rfl⟩
    | succ k ih =>
      rw [List.range_succ, List.map_append, List.foldl_append]
      exact (ih (by omega)).next (by omega) hnames (hfile k (by omega))
  obtain ⟨hsound, hthere, hinside⟩ := hbuilt (place.length - 1) (Nat.le_refl _)
  have hparts := List.dropLast_concat_getLast hsome
  have hname : IsName (place.getLast hsome) := hnames _ (List.getLast_mem hsome)
  have hlength := List.length_pos_iff.mpr hsome
  rw [← List.dropLast_eq_take] at hthere
  rw [Tree.add, outer_of_names hnames]
  rw [← hinside place (by omega)] at hkind
  generalize List.foldl _ t _ = built at hsound hthere hkind ⊢
  rw [← hparts] at hkind ⊢
  exact hsound.insert hthere hname hkind

end Sound

/-! ## Paths -/

section Paths

variable {path rest found : Path} {last : String}

/-- Following one name leads to where it was, upwards, or to an entry of that name. -/
theorem follow_cons (h : t.follow place (name :: rest) = .ok found) :
    t.entryAt? place = some .directory ∧
      ((name = "" ∨ name = ".") ∧ t.follow place rest = .ok found ∨
        name = ".." ∧ t.follow place.dropLast rest = .ok found ∨
        IsName name ∧ t.entryAt? (place ++ [name]) ≠ none ∧
          t.follow (place ++ [name]) rest = .ok found) := by
  rw [follow] at h
  by_cases hplace : t.entryAt? place = some .directory
  · refine ⟨hplace, ?_⟩
    rw [if_neg (not_not_intro hplace)] at h
    by_cases hstay : name = "" ∨ name = "."
    · rw [if_pos hstay] at h
      exact .inl ⟨hstay, h⟩
    · rw [if_neg hstay] at h
      by_cases hup : name = ".."
      · rw [if_pos hup] at h
        exact .inr (.inl ⟨hup, h⟩)
      · rw [if_neg hup] at h
        by_cases hnone : t.entryAt? (place ++ [name]) = none
        · rw [if_pos hnone] at h
          cases h
        · rw [if_neg hnone] at h
          obtain ⟨hempty, hdot⟩ := not_or.mp hstay
          exact .inr (.inr ⟨⟨hempty, hdot, hup⟩, hnone, h⟩)
  · rw [if_pos hplace] at h
    cases h

theorem Sound.directory_dropLast (h : t.Sound) (hplace : t.entryAt? place = some .directory) :
    t.entryAt? place.dropLast = some .directory := by
  rcases List.eq_nil_or_concat place with rfl | ⟨outer, last, rfl⟩
  · exact hplace
  · rw [List.concat_eq_append] at hplace ⊢
    rw [List.dropLast_concat]
    exact h.closed outer last (by rw [hplace]; simp)

theorem Sound.entry_of_follow (h : t.Sound) (hplace : t.entryAt? place ≠ none)
    (hfollow : t.follow place path = .ok found) : t.entryAt? found ≠ none := by
  induction path generalizing place with
  | nil =>
    obtain rfl : place = found := Except.ok.inj hfollow
    exact hplace
  | cons name rest ih =>
    obtain ⟨hdirectory, ⟨-, hrest⟩ | ⟨-, hrest⟩ | ⟨-, hentry, hrest⟩⟩ := follow_cons hfollow
    · exact ih hplace hrest
    · exact ih (by rw [h.directory_dropLast hdirectory]; simp) hrest
    · exact ih hentry hrest

/-- A path that ends with a name leads to an entry of that name. -/
theorem follow_last (hlast : path.getLast? = some last) (hname : IsName last)
    (h : t.follow place path = .ok found) : ∃ outer, found = outer ++ [last] := by
  induction path generalizing place with
  | nil => cases hlast
  | cons name rest ih =>
    cases rest with
    | nil =>
      obtain rfl : name = last := Option.some.inj hlast
      obtain ⟨hempty, hdot, hup⟩ := hname
      obtain ⟨-, ⟨hstay, -⟩ | ⟨hback, -⟩ | ⟨-, -, hfound⟩⟩ := follow_cons h
      · exact absurd hstay (not_or.mpr ⟨hempty, hdot⟩)
      · exact absurd hback hup
      · exact ⟨place, (Except.ok.inj hfound).symm⟩
    | cons next rest =>
      rw [List.getLast?_cons_cons] at hlast
      obtain ⟨-, ⟨-, hrest⟩ | ⟨-, hrest⟩ | ⟨-, -, hrest⟩⟩ := follow_cons h
      · exact ih hlast hrest
      · exact ih hlast hrest
      · exact ih hlast hrest

theorem follow_names (hnames : ∀ name ∈ path, IsName name)
    (h : t.follow place path = .ok found) : found = place ++ path := by
  induction path generalizing place with
  | nil =>
    obtain rfl : place = found := Except.ok.inj h
    exact (List.append_nil place).symm
  | cons name rest ih =>
    obtain ⟨⟨hempty, hdot, hup⟩, hrest⟩ := List.forall_mem_cons.mp hnames
    obtain ⟨-, ⟨hstay, -⟩ | ⟨hback, -⟩ | ⟨-, -, hfollow⟩⟩ := follow_cons h
    · exact absurd hstay (not_or.mpr ⟨hempty, hdot⟩)
    · exact absurd hback hup
    · rw [ih hrest hfollow, List.append_assoc, List.singleton_append]

theorem follow_of_entries (hnames : ∀ name ∈ path, IsName name) (h : t.Sound)
    (hentry : t.entryAt? (place ++ path) ≠ none) : t.follow place path = .ok (place ++ path) := by
  induction path generalizing place with
  | nil => rw [follow, List.append_nil]
  | cons name rest ih =>
    obtain ⟨⟨hempty, hdot, hup⟩, hrest⟩ := List.forall_mem_cons.mp hnames
    have hplace := h.directory_above (List.cons_ne_nil name rest) hentry
    rw [← List.singleton_append, ← List.append_assoc] at hentry ⊢
    have hnext := h.entry_on_way hentry
    rw [List.singleton_append, follow, if_neg (not_not_intro hplace),
      if_neg (not_or.mpr ⟨hempty, hdot⟩), if_neg hup, if_neg hnext, ih hrest hentry]

theorem directory?_eq_some_iff :
    t.directory? path = some place ↔
      t.follow [] path = .ok place ∧ t.entryAt? place = some .directory := by
  rw [directory?]
  split
  · next reached hreached =>
    rw [hreached, Except.ok.injEq]
    constructor
    · intro h
      obtain ⟨hentry, hsame⟩ := Option.ite_none_right_eq_some.mp h
      obtain rfl := Option.some.inj hsame
      exact ⟨rfl, hentry⟩
    · rintro ⟨rfl, hentry⟩
      exact if_pos hentry
  · next fault hfault => simp [hfault]

theorem of_dropWhile_reverse (h : path.reverse.dropWhile (· = "") = name :: rest) :
    name ≠ "" ∧ ∃ behind, path = rest.reverse ++ [name] ++ behind ∧
      ∀ other ∈ behind, other = "" := by
  constructor
  · have hname := List.head?_dropWhile_not (fun part => decide (part = "")) path.reverse
    rw [h] at hname
    simpa using hname
  · refine ⟨(path.reverse.takeWhile (· = "")).reverse, ?_, fun other hother => ?_⟩
    · calc path = (path.reverse.takeWhile (· = "") ++ path.reverse.dropWhile (· = "")).reverse := by
            rw [List.takeWhile_append_dropWhile, List.reverse_reverse]
        _ = rest.reverse ++ [name] ++ (path.reverse.takeWhile (· = "")).reverse := by
            rw [h, List.reverse_append, List.reverse_cons]
    · apply of_decide_eq_true
      exact List.all_eq_true.mp List.all_takeWhile other (List.mem_reverse.mp hother)

/-- The last name decides. No more than slashes follow it. -/
theorem parent_eq_ok (h : t.parent path = .ok (place, name)) :
    t.entryAt? place = some .directory ∧ name ≠ "" ∧ ∃ outer behind,
      path = outer ++ [name] ++ behind ∧ (∀ other ∈ behind, other = "") ∧
        t.follow [] outer = .ok place := by
  rw [parent] at h
  split at h
  · cases h
  · next last outer hdrop =>
    obtain ⟨hlast, behind, hpath, hbehind⟩ := of_dropWhile_reverse hdrop
    obtain ⟨reached, hfollow, hplace⟩ := bind_eq_ok_iff.mp h
    split at hplace
    · obtain ⟨rfl, rfl⟩ := Prod.mk.inj (Except.ok.inj hplace)
      exact ⟨‹_›, hlast, outer.reverse, behind, hpath, hbehind, hfollow⟩
    · cases hplace

theorem parent_of_last (hlast : path.getLast? = some last) (hname : IsName last)
    (h : t.parent path = .ok (place, name)) :
    name = last ∧ ∃ outer, path = outer ++ [name] ∧ t.follow [] outer = .ok place := by
  obtain ⟨-, -, outer, behind, rfl, hbehind, hfollow⟩ := parent_eq_ok h
  rcases List.eq_nil_or_concat behind with rfl | ⟨front, other, rfl⟩
  · rw [List.append_nil, List.getLast?_concat] at hlast
    exact ⟨Option.some.inj hlast, outer, List.append_nil _, hfollow⟩
  · rw [List.concat_eq_append, ← List.append_assoc, List.getLast?_concat] at hlast
    exact absurd ((Option.some.inj hlast).symm.trans (hbehind other (by simp))) hname.1

end Paths

/-! ## Changes -/

section Changes

variable {path : Path} {last : String} {content : List UInt8} {free : Path → Prop}

namespace Keeps

theorem refl (h : t.Sound) : t.Keeps free t := ⟨h, fun _ _ _ => rfl⟩

theorem of_insert (h : (t.insert place entry).Sound) (hplace : place ≠ [])
    (hfree : free place ∨ t.entryAt? place = none) : t.Keeps free (t.insert place entry) := by
  refine ⟨h, fun other hother hentry => ?_⟩
  rw [entryAt?_insert hplace, if_neg]
  rintro rfl
  exact hfree.elim hother hentry

theorem of_erase (h : t.Sound) (hfree : ∀ other, t.entryAt? other ≠ none → place <+: other →
    free other) : t.Keeps free (t.erase place) := by
  refine ⟨h.erase place, fun other hother hentry => ?_⟩
  rw [entryAt?_erase, if_neg]
  rintro ⟨-, hbelow⟩
  exact hother (hfree other hentry hbelow)

end Keeps

theorem makeDirectory_eq_ok (h : t.makeDirectory path = .ok t') :
    ∃ place name, t.parent path = .ok (place, name) ∧ IsName name ∧
      t.entryAt? (place ++ [name]) = none ∧ t' = t.insert (place ++ [name]) .directory := by
  obtain ⟨⟨place, name⟩, hparent, hmade⟩ := bind_eq_ok_iff.mp h
  by_cases htaken : name = "." ∨ name = ".." ∨ t.entryAt? (place ++ [name]) ≠ none
  · cases (if_pos htaken).symm.trans hmade
  · obtain ⟨hdot, hup, hnone⟩ : name ≠ "." ∧ name ≠ ".." ∧ _ := by simpa using htaken
    replace hmade := (if_neg htaken).symm.trans hmade
    exact ⟨place, name, hparent, ⟨(parent_eq_ok hparent).2.1, hdot, hup⟩, hnone,
      (Except.ok.inj hmade).symm⟩

theorem makeDirectory_keeps (ht : t.Sound) (h : t.makeDirectory path = .ok t') :
    t.Keeps free t' := by
  obtain ⟨place, name, hparent, hname, hnone, rfl⟩ := makeDirectory_eq_ok h
  have hsound : (t.insert (place ++ [name]) .directory).Sound :=
    ht.insert (parent_eq_ok hparent).1 hname fun _ => rfl
  exact .of_insert hsound (by simp) (.inr hnone)

theorem ensureDirectory_eq_ok (h : t.ensureDirectory path = .ok t') :
    t.makeDirectory path = .ok t' ∨ t.isDirectory path = true ∧ t' = t := by
  rw [ensureDirectory] at h
  split at h
  · next hmade => exact .inl (hmade.trans h)
  · split at h
    · exact .inr ⟨‹_›, (Except.ok.inj h).symm⟩
    · cases h

theorem ensureDirectory_keeps (ht : t.Sound) (h : t.ensureDirectory path = .ok t') :
    t.Keeps free t' := by
  rcases ensureDirectory_eq_ok h with hmade | ⟨-, rfl⟩
  · exact makeDirectory_keeps ht hmade
  · exact .refl ht

theorem writeFile_eq_ok (h : t.writeFile path content = .ok t') :
    ∃ place name, t.parent path = .ok (place, name) ∧
      t.entryAt? (place ++ [name]) ≠ some .directory ∧
      t' = t.insert (place ++ [name]) (.file content) := by
  obtain ⟨⟨place, name⟩, hparent, hwritten⟩ := bind_eq_ok_iff.mp h
  by_cases htaken : t.entryAt? (place ++ [name]) = some .directory
  · cases (if_pos htaken).symm.trans hwritten
  · replace hwritten := (if_neg htaken).symm.trans hwritten
    exact ⟨place, name, hparent, htaken, (Except.ok.inj hwritten).symm⟩

/-- A file that is written replaces none but a file of its name. -/
theorem writeFile_keeps (hlast : path.getLast? = some last) (hname : IsName last)
    (hfree : ∀ outer, free (outer ++ [last])) (ht : t.Sound)
    (h : t.writeFile path content = .ok t') : t.Keeps free t' := by
  obtain ⟨place, name, hparent, hfile, rfl⟩ := writeFile_eq_ok h
  obtain ⟨rfl, -⟩ := parent_of_last hlast hname hparent
  have hsound : (t.insert (place ++ [name]) (.file content)).Sound :=
    ht.insert (parent_eq_ok hparent).1 hname fun hdirectory => absurd hdirectory hfile
  exact .of_insert hsound (by simp) (.inl (hfree place))

theorem removeFile_eq_ok (ht : t.Sound) (h : t.removeFile path = .ok t') :
    ∃ place content, t.follow [] path = .ok place ∧ t.entryAt? place = some (.file content) ∧
      t' = t.erase place := by
  obtain ⟨place, hfollow, hgone⟩ := bind_eq_ok_iff.mp h
  split at hgone
  · cases hgone
  · next hfile =>
    have hentry := ht.entry_of_follow (by rw [entryAt?_root]; simp) hfollow
    obtain ⟨entry, hsome⟩ := Option.ne_none_iff_exists'.mp hentry
    cases entry with
    | directory => exact absurd hsome hfile
    | file content => exact ⟨place, content, hfollow, hsome, (Except.ok.inj hgone).symm⟩

/-- Nothing stands below a file, so that no more than the file is dropped with it. -/
theorem removeFile_keeps (hlast : path.getLast? = some last) (hname : IsName last)
    (hfree : ∀ outer, free (outer ++ [last])) (ht : t.Sound)
    (h : t.removeFile path = .ok t') : t.Keeps free t' := by
  obtain ⟨place, content, hfollow, hfile, rfl⟩ := removeFile_eq_ok ht h
  obtain ⟨outer, rfl⟩ := follow_last hlast hname hfollow
  apply Keeps.of_erase ht
  rintro other hentry ⟨behind, rfl⟩
  by_cases hbehind : behind = []
  · rw [hbehind, List.append_nil]
    exact hfree outer
  · rw [ht.directory_above hbehind hentry] at hfile
    cases hfile

theorem removeDirectory_eq_ok (h : t.removeDirectory path = .ok t') :
    ∃ place, t.follow [] path = .ok place ∧ t' = t.erase place := by
  obtain ⟨place, hfollow, hgone⟩ := bind_eq_ok_iff.mp h
  split at hgone
  · exact ⟨place, hfollow, (Except.ok.inj hgone).symm⟩
  · cases hgone

theorem removeDirectory_keeps (hnames : ∀ name ∈ path, IsName name)
    (hfree : ∀ other, path <+: other → free other) (ht : t.Sound)
    (h : t.removeDirectory path = .ok t') : t.Keeps free t' := by
  obtain ⟨place, hfollow, rfl⟩ := removeDirectory_eq_ok h
  obtain rfl : place = path := follow_names hnames hfollow
  exact .of_erase ht fun other _ => hfree other

end Changes

/-! ## What is found afterwards -/

section Found

variable {path rest new found : Path} {last : String} {content : List UInt8}

theorem follow_append (h : t.follow place path = .ok found) :
    t.follow place (path ++ rest) = t.follow found rest := by
  fun_induction follow t place path with
  | case1 =>
    obtain rfl := Except.ok.inj h
    rfl
  | case2 => cases h
  | case3 place name path hplace hstay ih =>
    rw [List.cons_append, follow, if_neg hplace, if_pos hstay, ih h]
  | case4 place path hplace hstay ih =>
    rw [List.cons_append, follow, if_neg hplace, if_neg hstay, if_pos rfl, ih h]
  | case5 => cases h
  | case6 place name path hplace hstay hup hentry ih =>
    rw [List.cons_append, follow, if_neg hplace, if_neg hstay, if_neg hup, if_neg hentry, ih h]

theorem follow_append_eq_ok (h : t.follow place (path ++ rest) = .ok found) :
    ∃ reached, t.follow place path = .ok reached ∧ t.follow reached rest = .ok found := by
  induction path generalizing place with
  | nil => exact ⟨place, rfl, h⟩
  | cons name path ih =>
    obtain ⟨hplace, hstep⟩ := follow_cons h
    rw [follow, if_neg (not_not_intro hplace)]
    obtain ⟨hstay, hrest⟩ | ⟨rfl, hrest⟩ | ⟨⟨hempty, hdot, hup⟩, hentry, hrest⟩ := hstep
    · rw [if_pos hstay]
      exact ih hrest
    · rw [if_neg (by decide), if_pos rfl]
      exact ih hrest
    · rw [if_neg (not_or.mpr ⟨hempty, hdot⟩), if_neg hup, if_neg hentry]
      exact ih hrest

/-- What leads somewhere leads there still when an entry is added, and no directory lost by it. -/
theorem follow_insert (hnew : new ≠ [])
    (hkind : t.entryAt? new = some .directory → entry = .directory)
    (h : t.follow place path = .ok found) : (t.insert new entry).follow place path = .ok found := by
  have hdirectory {p : Path} (hp : ¬ t.entryAt? p ≠ some .directory) :
      ¬ (t.insert new entry).entryAt? p ≠ some .directory := by
    rw [not_not] at hp ⊢
    rw [entryAt?_insert hnew]
    by_cases hsame : p = new
    · subst hsame
      rw [if_pos rfl, hkind hp]
    · rw [if_neg hsame, hp]
  fun_induction follow t place path with
  | case1 => exact h
  | case2 => cases h
  | case3 place name path hplace hstay ih =>
    rw [follow, if_neg (hdirectory hplace), if_pos hstay, ih h]
  | case4 place path hplace hstay ih =>
    rw [follow, if_neg (hdirectory hplace), if_neg hstay, if_pos rfl, ih h]
  | case5 => cases h
  | case6 place name path hplace hstay hup hentry ih =>
    have hthere : ¬ (t.insert new entry).entryAt? (place ++ [name]) = none := by
      rw [entryAt?_insert hnew]
      split
      · simp
      · exact hentry
    rw [follow, if_neg (hdirectory hplace), if_neg hstay, if_neg hup, if_neg hthere, ih h]

theorem follow_slashes (hrest : ∀ name ∈ rest, name = "")
    (hplace : t.entryAt? place = some .directory) : t.follow place rest = .ok place := by
  induction rest with
  | nil => rfl
  | cons name rest ih =>
    obtain ⟨hname, hbehind⟩ := List.forall_mem_cons.mp hrest
    rw [follow, if_neg (not_not_intro hplace), if_pos (.inl hname), ih hbehind]

theorem follow_new (hname : IsName name) (hplace : t.entryAt? place = some .directory)
    (hkind : t.entryAt? (place ++ [name]) = some .directory → entry = .directory)
    (h : t.follow [] path = .ok place) :
    (t.insert (place ++ [name]) entry).follow [] (path ++ [name]) = .ok (place ++ [name]) := by
  have hsome : place ++ [name] ≠ [] := by simp
  have hstill : (t.insert (place ++ [name]) entry).entryAt? place = some .directory := by
    rw [entryAt?_insert hsome, if_neg (by simp), hplace]
  obtain ⟨hempty, hdot, hup⟩ := hname
  rw [follow_append (follow_insert hsome hkind h), follow, if_neg (not_not_intro hstill),
    if_neg (not_or.mpr ⟨hempty, hdot⟩), if_neg hup, if_neg (by rw [entryAt?_insert hsome]; simp),
    follow]

theorem isDirectory_makeDirectory (h : t.makeDirectory path = .ok t') :
    t'.isDirectory path = true := by
  obtain ⟨place, name, hparent, hname, -, rfl⟩ := makeDirectory_eq_ok h
  obtain ⟨hplace, -, outer, behind, rfl, hbehind, hfollow⟩ := parent_eq_ok hparent
  have hnew : (t.insert (place ++ [name]) .directory).entryAt? (place ++ [name]) =
      some .directory := by
    rw [entryAt?_insert (by simp), if_pos rfl]
  rw [isDirectory, Option.isSome_iff_exists]
  refine ⟨place ++ [name], directory?_eq_some_iff.mpr ⟨?_, hnew⟩⟩
  rw [follow_append (follow_new hname hplace (fun _ => rfl) hfollow), follow_slashes hbehind hnew]

theorem isDirectory_ensureDirectory (h : t.ensureDirectory path = .ok t') :
    t'.isDirectory path = true := by
  rcases ensureDirectory_eq_ok h with hmade | ⟨hthere, rfl⟩
  · exact isDirectory_makeDirectory hmade
  · exact hthere

theorem find?_writeFile (hlast : path.getLast? = some last) (hname : IsName last)
    (h : t.writeFile path content = .ok t') : t'.find? path = some (.file content) := by
  obtain ⟨place, name, hparent, hfile, rfl⟩ := writeFile_eq_ok h
  obtain ⟨rfl, outer, rfl, hfollow⟩ := parent_of_last hlast hname hparent
  have hplace := (parent_eq_ok hparent).1
  rw [find?, follow_new hname hplace (fun h => absurd h hfile) hfollow]
  exact (entryAt?_insert (by simp) _).trans (if_pos rfl)

theorem directory_erase_file (ht : t.Sound) (hfile : t.entryAt? found = some (.file content))
    (hplace : t.entryAt? place = some .directory) :
    place ≠ found ∧ (t.erase found).entryAt? place = some .directory := by
  have hother : place ≠ found := by
    rintro rfl
    rw [hfile] at hplace
    cases hplace
  refine ⟨hother, ?_⟩
  rw [entryAt?_erase, if_neg, hplace]
  rintro ⟨-, behind, rfl⟩
  have hbehind : behind ≠ [] := by
    rintro rfl
    exact hother (List.append_nil found)
  rw [ht.directory_above hbehind (by rw [hplace]; simp)] at hfile
  cases hfile

theorem follow_erase_file (ht : t.Sound) (hfile : t.entryAt? found = some (.file content))
    (hother : place ≠ found) (h : t.follow place path = .ok found) :
    (t.erase found).follow place path = .error .notFound := by
  have hkept {p : Path} (hp : ¬ t.entryAt? p ≠ some .directory) :
      p ≠ found ∧ ¬ (t.erase found).entryAt? p ≠ some .directory :=
    (directory_erase_file ht hfile (not_not.mp hp)).imp_right not_not_intro
  fun_induction follow t place path with
  | case1 => exact absurd (Except.ok.inj h) hother
  | case2 => cases h
  | case3 place name path hplace hstay ih =>
    rw [follow, if_neg (hkept hplace).2, if_pos hstay, ih hother h]
  | case4 place path hplace hstay ih =>
    have hback : place.dropLast ≠ found := by
      refine (hkept ?_).1
      rw [not_not] at hplace ⊢
      exact ht.directory_dropLast hplace
    rw [follow, if_neg (hkept hplace).2, if_neg hstay, if_pos rfl, ih hback h]
  | case5 => cases h
  | case6 place name path hplace hstay hup hentry ih =>
    rw [follow, if_neg (hkept hplace).2, if_neg hstay, if_neg hup]
    by_cases hsame : place ++ [name] = found
    · rw [if_pos]
      rw [entryAt?_erase, hsame, if_pos]
      exact ⟨by rw [← hsame]; simp, List.prefix_rfl⟩
    · by_cases hgone : (t.erase found).entryAt? (place ++ [name]) = none
      · rw [if_pos hgone]
      · rw [if_neg hgone, ih hsame h]

theorem find?_removeFile (ht : t.Sound) (h : t.removeFile path = .ok t') :
    t'.find? path = none := by
  obtain ⟨place, content, hfollow, hfile, rfl⟩ := removeFile_eq_ok ht h
  have hroot : [] ≠ place := by
    rintro rfl
    cases hfile
  rw [find?, follow_erase_file ht hfile hroot hfollow]

end Found

/-! ## Empty directories -/

def Vacant (path : Path) (t : Tree) : Prop :=
  ∀ rest, rest ≠ [] → t.entryAt? (path ++ rest) = none

section Vacant

variable {path inner : Path}

theorem parent_of_names (hnames : ∀ name ∈ path, IsName name)
    (h : t.parent path = .ok (place, name)) : place ++ [name] = path := by
  obtain ⟨-, -, outer, behind, rfl, hbehind, hfollow⟩ := parent_eq_ok h
  obtain rfl : place = outer := follow_names
    (fun part hpart => hnames part (by simp [hpart])) hfollow
  cases behind with
  | nil => exact (List.append_nil _).symm
  | cons part rest =>
    exact absurd (hbehind part List.mem_cons_self) (hnames part (by simp)).1

theorem ensureDirectory_vacant (hnames : ∀ name ∈ path, IsName name) (hpath : path <+: inner)
    (h : t.ensureDirectory path = .ok t') (hvacant : t.Vacant inner) : t'.Vacant inner := by
  rcases ensureDirectory_eq_ok h with hmade | ⟨-, rfl⟩
  · obtain ⟨place, name, hparent, -, -, rfl⟩ := makeDirectory_eq_ok hmade
    intro rest hrest
    rw [entryAt?_insert (by simp), parent_of_names hnames hparent, if_neg, hvacant rest hrest]
    intro hsame
    have hlength := hpath.length_le
    rw [← hsame, List.length_append] at hlength
    have hsome := List.length_pos_iff.mpr hrest
    omega
  · exact hvacant

theorem removeDirectory_vacant (hnames : ∀ name ∈ path, IsName name)
    (h : t.removeDirectory path = .ok t') : t'.Vacant path := by
  obtain ⟨place, hfollow, rfl⟩ := removeDirectory_eq_ok h
  obtain rfl : place = path := follow_names hnames hfollow
  intro rest hrest
  rw [entryAt?_erase, if_pos ⟨by simp [hrest], List.prefix_append place rest⟩]

theorem Sound.vacant_of_missing (ht : t.Sound) (hnames : ∀ name ∈ path, IsName name)
    (h : t.exists? path = false) : t.Vacant path := by
  intro rest hrest
  by_contra hentry
  have hpath : t.entryAt? ([] ++ path) ≠ none := ht.entry_on_way hentry
  rw [exists?, find?, follow_of_entries hnames ht hpath] at h
  exact hpath (by simpa using h)

end Vacant

end Tree

end SourceCheck.Workspace
