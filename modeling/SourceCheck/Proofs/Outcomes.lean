/-!
Steps that succeed or fail, one after another. The whole succeeds when every step does, and fails as
the first step that fails.
-/

namespace SourceCheck

variable {ε α β : Type} {x : Except ε α} {f : α → Except ε β} {as : List α} {bs : List β}

theorem map_eq_ok_iff {g : α → β} {b : β} : x.map g = .ok b ↔ ∃ a, x = .ok a ∧ g a = b := by
  cases x with
  | error e => exact ⟨nofun, nofun⟩
  | ok a =>
    constructor
    · intro h
      exact ⟨a, rfl, Except.ok.inj h⟩
    · rintro ⟨_, ⟨⟩, rfl⟩
      rfl

theorem map_eq_error_iff {g : α → β} {e : ε} : x.map g = .error e ↔ x = .error e := by
  cases x with
  | error d => exact ⟨fun h => congrArg Except.error (Except.error.inj h), fun h => by rw [h]; rfl⟩
  | ok a => exact ⟨nofun, nofun⟩

theorem bind_eq_ok_iff {b : β} : x >>= f = .ok b ↔ ∃ a, x = .ok a ∧ f a = .ok b := by
  cases x with
  | error e => exact ⟨nofun, nofun⟩
  | ok a =>
    constructor
    · intro h
      exact ⟨a, rfl, h⟩
    · rintro ⟨_, ⟨⟩, h⟩
      exact h

theorem bind_eq_error {e : ε} (h : x >>= f = .error e) :
    x = .error e ∨ ∃ a, x = .ok a ∧ f a = .error e := by
  cases x with
  | error d => exact .inl (congrArg Except.error (Except.error.inj h))
  | ok a => exact .inr ⟨a, rfl, h⟩

theorem unless_eq_ok_iff {c : Prop} [Decidable c] {e : ε} {next : Unit → Except ε β} {b : β} :
    (if c then throw e >>= next else next ()) = .ok b ↔ ¬ c ∧ next () = .ok b := by
  by_cases hc : c
  · rw [if_pos hc]
    exact ⟨nofun, fun ⟨hnot, _⟩ => absurd hc hnot⟩
  · rw [if_neg hc]
    exact ⟨fun h => ⟨hc, h⟩, And.right⟩

theorem unless_eq_error {c : Prop} [Decidable c] {e d : ε} {next : Unit → Except ε β}
    (h : (if c then throw e >>= next else next ()) = .error d) :
    (c ∧ d = e) ∨ next () = .error d := by
  by_cases hc : c
  · rw [if_pos hc] at h
    exact .inl ⟨hc, (Except.error.inj h).symm⟩
  · rw [if_neg hc] at h
    exact .inr h

theorem mapM_eq_ok_iff {g : β → α} {p : β → Prop} (h : ∀ a b, f a = .ok b ↔ g b = a ∧ p b) :
    as.mapM f = .ok bs ↔ bs.map g = as ∧ ∀ b ∈ bs, p b := by
  induction as generalizing bs with
  | nil =>
    rw [List.mapM_nil, List.map_eq_nil_iff]
    constructor
    · rintro ⟨⟩
      exact ⟨rfl, nofun⟩
    · rintro ⟨rfl, -⟩
      rfl
  | cons a as ih =>
    rw [List.mapM_cons, bind_eq_ok_iff]
    constructor
    · rintro ⟨b, hb, hrest⟩
      obtain ⟨bs, hbs, ⟨⟩⟩ := bind_eq_ok_iff.mp hrest
      obtain ⟨rfl, hp⟩ := (h a b).mp hb
      obtain ⟨rfl, hall⟩ := ih.mp hbs
      exact ⟨rfl, List.forall_mem_cons.mpr ⟨hp, hall⟩⟩
    · rintro ⟨hmap, hall⟩
      obtain ⟨b, bs, rfl, hb, hbs⟩ := List.map_eq_cons_iff.mp hmap
      obtain ⟨hp, hall⟩ := List.forall_mem_cons.mp hall
      refine ⟨b, (h a b).mpr ⟨hb, hp⟩, ?_⟩
      rw [ih.mpr ⟨hbs, hall⟩]
      rfl

theorem mapM_eq_ok_iff_map {g : β → α} (h : ∀ a b, f a = .ok b ↔ g b = a) :
    as.mapM f = .ok bs ↔ bs.map g = as := by
  have hall : as.mapM f = .ok bs ↔ bs.map g = as ∧ ∀ b ∈ bs, True :=
    mapM_eq_ok_iff fun a b => (h a b).trans (and_true _).symm.to_iff
  simpa using hall

theorem exists_of_mapM_eq_ok {b : β} (h : as.mapM f = .ok bs) (hb : b ∈ bs) :
    ∃ a ∈ as, f a = .ok b := by
  induction as generalizing bs with
  | nil =>
    obtain rfl := Except.ok.inj h
    cases hb
  | cons a as ih =>
    rw [List.mapM_cons] at h
    obtain ⟨first, hfirst, hrest⟩ := bind_eq_ok_iff.mp h
    obtain ⟨others, hothers, hpure⟩ := bind_eq_ok_iff.mp hrest
    obtain rfl := Except.ok.inj hpure
    rcases List.mem_cons.mp hb with rfl | hb
    · exact ⟨a, List.mem_cons_self, hfirst⟩
    · obtain ⟨found, hfound, hstep⟩ := ih hothers hb
      exact ⟨found, List.mem_cons_of_mem a hfound, hstep⟩

theorem mapM_eq_error {e : ε} (h : as.mapM f = .error e) : ∃ a ∈ as, f a = .error e := by
  induction as with
  | nil => cases h
  | cons a as ih =>
    rw [List.mapM_cons] at h
    rcases bind_eq_error h with ha | ⟨b, -, hrest⟩
    · exact ⟨a, List.mem_cons_self, ha⟩
    · rcases bind_eq_error hrest with hrest | ⟨bs, -, hpure⟩
      · obtain ⟨d, hd, herror⟩ := ih hrest
        exact ⟨d, List.mem_cons_of_mem a hd, herror⟩
      · cases hpure

end SourceCheck
