import SourceCheck.Proofs.Workspace.Tree
import SourceCheck.Proofs.Workspace.Wildcard
import SourceCheck.Workspace.Pattern

/-!
What a pattern finds in a sound tree: paths that are there, each described name by name, and among
the entries all that are described.
-/

namespace SourceCheck.Workspace

inductive Pattern.Describes : Pattern → List String → Prop where
  | nil : Describes [] []
  | step {step : Step} {rest : Pattern} {name : String} {names : List String}
      (hstep : step ≠ .anyDepth) (hname : step.describes name = true)
      (hrest : Describes rest names) : Describes (step :: rest) (name :: names)
  | anyDepth {rest : Pattern} (outer : List String) {names : List String}
      (hrest : Describes rest names) : Describes (.anyDepth :: rest) (outer ++ names)

/-- Wherever the depth is free a name of another kind follows. -/
def Pattern.Anchored : Pattern → Prop
  | [] => True
  | [.anyDepth] => False
  | .anyDepth :: step :: rest => step ≠ .anyDepth ∧ Anchored rest
  | _ :: rest => Anchored rest

def Path.goOn (base : Path) (names : List String) : Path :=
  names.foldl (fun path name => path.join [name]) base

section Joining

variable {base path place : Path} {names : List String} {t : Tree}

theorem Path.getLast?_join (hpath : path ≠ []) : (base.join path).getLast? = path.getLast? := by
  rw [Path.join]
  split
  · exact List.getLast?_append_of_ne_nil _ hpath
  · exact List.getLast?_append_of_ne_nil _ hpath

theorem Path.goOn_append (base : Path) (names others : List String) :
    base.goOn (names ++ others) = (base.goOn names).goOn others := List.foldl_append

theorem Path.goOn_eq_append (hbase : base.getLast? ≠ some "") (hnames : "" ∉ names) :
    base.goOn names = base ++ names := by
  induction names generalizing base with
  | nil => exact (List.append_nil base).symm
  | cons name rest ih =>
    obtain ⟨hname, hrest⟩ := not_or.mp (List.mem_cons.not.mp hnames)
    have hnext : base.join [name] = base ++ [name] := if_neg hbase
    rw [Path.goOn, List.foldl_cons, hnext, ← Path.goOn, ih _ hrest, List.append_assoc,
      List.singleton_append]
    rw [List.getLast?_concat, Ne, Option.some.injEq]
    exact Ne.symm hname

theorem Path.goOn_eq_join (hsome : names ≠ []) (hnames : "" ∉ names) :
    base.goOn names = base.join names := by
  obtain ⟨name, rest, rfl⟩ := List.exists_cons_of_ne_nil hsome
  obtain ⟨hname, hrest⟩ := not_or.mp (List.mem_cons.not.mp hnames)
  have hlast : (base.join [name]).getLast? ≠ some "" := by
    rw [Path.getLast?_join (List.cons_ne_nil name []), List.getLast?_singleton, Ne,
      Option.some.injEq]
    exact Ne.symm hname
  rw [Path.goOn, List.foldl_cons, ← Path.goOn, Path.goOn_eq_append hlast hrest, Path.join,
    Path.join]
  split
  · rw [List.append_assoc, List.singleton_append]
  · rw [List.append_assoc, List.singleton_append]

theorem Path.getLast?_goOn (hsome : names ≠ []) : (base.goOn names).getLast? = names.getLast? := by
  obtain ⟨outer, last, rfl⟩ := List.eq_nil_or_concat names |>.resolve_left hsome
  rw [List.concat_eq_append, Path.goOn_append, List.getLast?_concat]
  exact Path.getLast?_join (List.cons_ne_nil last [])

namespace Tree

theorem follow_join (h : t.follow [] base = .ok place) :
    t.follow [] (base.join path) = t.follow place path := by
  rw [Path.join]
  split
  · next hlast =>
    obtain ⟨outer, rfl⟩ := List.getLast?_eq_some_iff.mp hlast
    obtain ⟨reached, houter, hstay⟩ := follow_append_eq_ok h
    rw [List.dropLast_concat, follow_append houter]
    obtain ⟨-, ⟨-, hsame⟩ | ⟨hback, -⟩ | ⟨hname, -⟩⟩ := follow_cons hstay
    · rw [Except.ok.inj hsame]
    · exact absurd hback (by decide)
    · exact absurd rfl hname.1
  · exact follow_append h

theorem mem_below_iff :
    path ∈ t.below place ↔ path ≠ [] ∧ t.entryAt? (place ++ path) ≠ none := by
  rw [below, List.mem_filterMap]
  constructor
  · rintro ⟨other, hother, hpath⟩
    obtain ⟨⟨hbelow, hne⟩, hsame⟩ := Option.ite_none_right_eq_some.mp hpath
    obtain ⟨behind, rfl⟩ := List.isPrefixOf_iff_prefix.mp hbelow
    obtain rfl : behind = path := by simpa using hsame
    refine ⟨?_, entryAt?_of_mem hother⟩
    rintro rfl
    exact hne (List.append_nil place).symm
  · rintro ⟨hpath, hentry⟩
    refine ⟨place ++ path, mem_of_entryAt? (by simp [hpath]) hentry, ?_⟩
    rw [if_pos]
    · rw [List.drop_left]
    · exact ⟨List.isPrefixOf_iff_prefix.mpr (List.prefix_append _ _), by simpa using hpath⟩

theorem mem_children_iff {name : String} :
    name ∈ t.children place ↔ t.entryAt? (place ++ [name]) ≠ none := by
  rw [children, List.mem_filterMap]
  constructor
  · rintro ⟨path, hpath, hname⟩
    split at hname
    · obtain rfl := Option.some.inj hname
      exact (mem_below_iff.mp hpath).2
    · cases hname
  · intro hentry
    exact ⟨[name], mem_below_iff.mpr ⟨List.cons_ne_nil name [], hentry⟩, rfl⟩

theorem exists?_iff (ht : t.Sound) :
    t.exists? path = true ↔ ∃ place, t.follow [] path = .ok place := by
  rw [exists?, find?]
  cases hfollow : t.follow [] path with
  | error fault => simp
  | ok place =>
    have hentry := ht.entry_of_follow (by rw [entryAt?_root]; simp) hfollow
    exact iff_of_true (Option.isSome_iff_ne_none.mpr hentry) ⟨place, rfl⟩

theorem follow_join_entry (ht : t.Sound) (hbase : t.follow [] base = .ok place)
    (hentry : t.entryAt? (place ++ path) ≠ none) :
    t.follow [] (base.join path) = .ok (place ++ path) := by
  have hnames {name : String} (hname : name ∈ path) : IsName name :=
    ht.named_of_entryAt? hentry name (List.mem_append_right place hname)
  rw [follow_join hbase, follow_of_entries (fun _ => hnames) ht hentry]

theorem empty_not_mem (ht : t.Sound) (hentry : t.entryAt? (place ++ path) ≠ none) :
    "" ∉ path := fun hempty =>
  (ht.named_of_entryAt? hentry "" (List.mem_append_right place hempty)).1 rfl

theorem way_on (ht : t.Sound) (hbase : t.follow [] base = .ok place) (hpath : path ≠ [])
    (hentry : t.entryAt? (place ++ path ++ names) ≠ none) :
    t.directory? base = some place ∧ t.entryAt? (place ++ path) ≠ none ∧
      t.follow [] (base.join path) = .ok (place ++ path) := by
  have hthere := ht.entry_on_way hentry
  exact ⟨directory?_eq_some_iff.mpr ⟨hbase, ht.directory_above hpath hthere⟩, hthere,
    follow_join_entry ht hbase hthere⟩

theorem exists?_join (ht : t.Sound) (hbase : t.directory? base = some place)
    (hentry : t.entryAt? (place ++ path) ≠ none) : t.exists? (base.join path) = true :=
  (exists?_iff ht).mpr ⟨_, follow_join_entry ht (directory?_eq_some_iff.mp hbase).1 hentry⟩

theorem exists?_dots (ht : t.Sound) (hbase : t.directory? base = some place) {name : String}
    (hname : name = ".." ∨ name = ".") : t.exists? (base.join [name]) = true := by
  obtain ⟨hfollow, hplace⟩ := directory?_eq_some_iff.mp hbase
  rw [exists?_iff ht, follow_join hfollow]
  rcases hname with rfl | rfl
  · refine ⟨place.dropLast, ?_⟩
    rw [follow, if_neg (not_not_intro hplace), if_neg (by decide), if_pos rfl, follow]
  · refine ⟨place, ?_⟩
    rw [follow, if_neg (not_not_intro hplace), if_pos (.inr rfl), follow]

end Tree

end Joining

namespace Pattern

variable {t : Tree} {pattern rest : Pattern} {step : Step} {base path : Path} {name : String}
  {names : List String}

theorem mem_dots (h : name ∈ step.dots) :
    (name = ".." ∨ name = ".") ∧ step.describes name = true := by
  unfold Step.dots at h
  split at h
  · obtain ⟨hname, hdescribed⟩ := List.mem_filter.mp h
    exact ⟨by simpa using hname, hdescribed⟩
  · cases h

theorem step_found (ht : t.Sound) {place : Path} (hbase : t.directory? base = some place)
    (h : name ∈ step.dots ++ (t.children place).filter step.describes) :
    step.describes name = true ∧ name ≠ "" ∧ t.exists? (base.join [name]) = true := by
  rcases List.mem_append.mp h with hdots | hchild
  · obtain ⟨hname, hdescribed⟩ := mem_dots hdots
    refine ⟨hdescribed, ?_, Tree.exists?_dots ht hbase hname⟩
    rcases hname with rfl | rfl <;> decide
  · obtain ⟨hname, hdescribed⟩ := List.mem_filter.mp hchild
    have hentry := Tree.mem_children_iff.mp hname
    exact ⟨hdescribed, (ht.named_of_entryAt? hentry name (by simp)).1,
      Tree.exists?_join ht hbase hentry⟩

theorem below_found (ht : t.Sound) {place : Path} (hbase : t.directory? base = some place)
    (h : path ∈ t.below place) :
    path ≠ [] ∧ "" ∉ path ∧ t.exists? (base.join path) = true := by
  obtain ⟨hsome, hentry⟩ := Tree.mem_below_iff.mp h
  exact ⟨hsome, Tree.empty_not_mem ht hentry, Tree.exists?_join ht hbase hentry⟩

structure Found (t : Tree) (pattern : Pattern) (base path : Path) (names : List String) :
    Prop where
  there : t.exists? base = true → t.exists? path = true
  path_eq : path = base.goOn names
  described : pattern.Describes names
  slashes : "" ∈ names → .name "" ∈ pattern

theorem Found.nil (t : Tree) (path : Path) : Found t [] path path [] :=
  ⟨id, rfl, .nil, fun hempty => absurd hempty List.not_mem_nil⟩

theorem Found.behind (h : Found t rest (base.join [name]) path names) (hstep : step ≠ .anyDepth)
    (hname : step.describes name = true) (hempty : name = "" → step = .name "")
    (hthere : t.exists? (base.join [name]) = true) :
    Found t (step :: rest) base path (name :: names) := by
  refine ⟨fun _ => h.there hthere, h.path_eq, .step hstep hname h.described, fun hmem => ?_⟩
  rcases List.mem_cons.mp hmem with heq | hmem
  · rw [hempty heq.symm]
    exact List.mem_cons_self
  · exact List.mem_cons_of_mem _ (h.slashes hmem)

theorem describes_below {front : Path} (hfront : front ≠ [])
    (hlast : front.getLast?.any step.describes = true) (h : rest.Describes names) :
    Describes (.anyDepth :: step :: rest) (front ++ names) := by
  obtain ⟨outer, last, rfl⟩ := List.eq_nil_or_concat front |>.resolve_left hfront
  rw [List.concat_eq_append] at hlast ⊢
  rw [List.getLast?_concat] at hlast
  by_cases hstep : step = .anyDepth
  · subst hstep
    exact .anyDepth (outer ++ [last]) (.anyDepth [] h)
  · rw [List.append_assoc]
    exact .anyDepth outer (.step hstep hlast h)

theorem Found.below {front : Path} (h : Found t rest (base.join front) path names)
    (hfront : front ≠ []) (hnames : "" ∉ front)
    (hlast : front.getLast?.any step.describes = true)
    (hthere : t.exists? (base.join front) = true) :
    Found t (.anyDepth :: step :: rest) base path (front ++ names) := by
  refine ⟨fun _ => h.there hthere, ?_, describes_below hfront hlast h.described, fun hmem => ?_⟩
  · rw [h.path_eq, Path.goOn_append, Path.goOn_eq_join hfront hnames]
  · rcases List.mem_append.mp hmem with hmem | hmem
    · exact absurd hmem hnames
    · exact List.mem_cons_of_mem _ (List.mem_cons_of_mem _ (h.slashes hmem))

/-- What is found is there, and its names are described. -/
theorem mem_findFrom (ht : t.Sound) (h : path ∈ findFrom t pattern base) :
    ∃ names, Found t pattern base path names := by
  fun_induction findFrom t pattern base with
  | case1 base =>
    obtain rfl := List.mem_singleton.mp h
    exact ⟨[], .nil t path⟩
  | case2 name rest base next hnext ih =>
    obtain ⟨names, hfound⟩ := ih h
    have hown : (Step.name name).describes name = true := by simp [Step.describes]
    exact ⟨name :: names, hfound.behind (by simp) hown (congrArg Step.name) hnext⟩
  | case3 => cases h
  | case4 => cases h
  | case5 wildcards rest base step place hplace ih =>
    obtain ⟨name, hname, hpath⟩ := List.mem_flatMap.mp h
    obtain ⟨hdescribed, hsome, hthere⟩ := step_found ht hplace hname
    obtain ⟨names, hfound⟩ := ih name hpath
    exact ⟨name :: names, hfound.behind (by simp) hdescribed (absurd · hsome) hthere⟩
  | case6 => cases h
  | case7 base place hplace =>
    obtain ⟨hjoined, -⟩ := List.mem_filter.mp h
    obtain ⟨names, hbelow, rfl⟩ := List.mem_map.mp hjoined
    obtain ⟨hsome, hnames, hthere⟩ := below_found ht hplace hbelow
    have hall := Describes.anyDepth names .nil
    rw [List.append_nil] at hall
    exact ⟨names, fun _ => hthere, (Path.goOn_eq_join hsome hnames).symm, hall,
      fun hempty => absurd hempty hnames⟩
  | case8 => cases h
  | case9 step rest base place hplace ih =>
    obtain ⟨front, hfront, hpath⟩ := List.mem_flatMap.mp h
    obtain ⟨hbelow, hlast⟩ := List.mem_filter.mp hfront
    obtain ⟨hsome, hnames, hthere⟩ := below_found ht hplace hbelow
    obtain ⟨names, hfound⟩ := ih front hpath
    exact ⟨front ++ names, hfound.below hsome hnames hlast hthere⟩

theorem Describes.last_step (h : pattern.Describes names) (hlast : pattern.getLast? = some step)
    (hstep : step ≠ .anyDepth) :
    ∃ name, names.getLast? = some name ∧ step.describes name = true := by
  induction h with
  | nil => cases hlast
  | @step first rest name names hfirst hname hrest ih =>
    cases rest with
    | nil =>
      obtain rfl := Option.some.inj hlast
      cases hrest
      exact ⟨name, rfl, hname⟩
    | cons next rest =>
      obtain ⟨last, hnames, hdescribed⟩ := ih hlast
      exact ⟨last, by rw [List.getLast?_cons, hnames, Option.getD_some], hdescribed⟩
  | @anyDepth rest outer names hrest ih =>
    cases rest with
    | nil => exact absurd (Option.some.inj hlast).symm hstep
    | cons next rest =>
      obtain ⟨last, hnames, hdescribed⟩ := ih hlast
      refine ⟨last, ?_, hdescribed⟩
      rw [List.getLast?_append, hnames, Option.some_or]

theorem last_found (ht : t.Sound) (hlast : pattern.getLast? = some step)
    (hstep : step ≠ .anyDepth) (h : path ∈ findFrom t pattern base) :
    ∃ name, path.getLast? = some name ∧ step.describes name = true := by
  obtain ⟨names, hfound⟩ := mem_findFrom ht h
  obtain ⟨name, hname, hdescribed⟩ := hfound.described.last_step hlast hstep
  refine ⟨name, ?_, hdescribed⟩
  rw [hfound.path_eq, Path.getLast?_goOn, hname]
  rintro rfl
  cases hname

theorem Describes.anyDepth_step (h : Describes (.anyDepth :: step :: rest) names)
    (hstep : step ≠ .anyDepth) :
    ∃ outer name others, names = outer ++ [name] ++ others ∧ step.describes name = true ∧
      Describes rest others := by
  cases h with
  | step habsurd => exact absurd rfl habsurd
  | anyDepth outer hrest =>
    cases hrest with
    | @step _ _ name others _ hname hothers =>
      exact ⟨outer, name, others, by simp, hname, hothers⟩
    | anyDepth => exact absurd rfl hstep

theorem findFrom_complete (ht : t.Sound) (hanchored : pattern.Anchored) :
    ∀ {place : Path} {names : List String}, t.follow [] base = .ok place →
      t.entryAt? (place ++ names) ≠ none → pattern.Describes names →
      base.goOn names ∈ findFrom t pattern base := by
  fun_induction findFrom t pattern base with
  | case1 base =>
    intro place names hbase hentry h
    cases h
    exact List.mem_singleton_self base
  | case2 name rest base next hnext ih =>
    intro place names hbase hentry h
    cases h with
    | @step _ _ other names _ hname hrest =>
      obtain rfl : name = other := by simpa [Step.describes] using hname
      rw [List.append_cons] at hentry
      obtain ⟨-, -, hfollow⟩ := Tree.way_on ht hbase (List.cons_ne_nil name []) hentry
      exact ih hanchored hfollow hentry hrest
  | case3 name rest base next hnext =>
    intro place names hbase hentry h
    cases h with
    | @step _ _ other names _ hname hrest =>
      obtain rfl : name = other := by simpa [Step.describes] using hname
      rw [List.append_cons] at hentry
      obtain ⟨hdirectory, hthere, -⟩ := Tree.way_on ht hbase (List.cons_ne_nil name []) hentry
      exact absurd (Tree.exists?_join ht hdirectory hthere) hnext
  | case4 wildcards rest base hnone =>
    intro place names hbase hentry h
    cases h with
    | @step _ _ name names _ hname hrest =>
      rw [List.append_cons] at hentry
      obtain ⟨hdirectory, -, -⟩ := Tree.way_on ht hbase (List.cons_ne_nil name []) hentry
      rw [hdirectory] at hnone
      cases hnone
  | case5 wildcards rest base step found hplace ih =>
    intro place names hbase hentry h
    cases h with
    | @step _ _ name names _ hname hrest =>
      rw [List.append_cons] at hentry
      obtain ⟨hdirectory, hthere, hfollow⟩ :=
        Tree.way_on ht hbase (List.cons_ne_nil name []) hentry
      obtain rfl : place = found := Option.some.inj (hdirectory.symm.trans hplace)
      have hfound := Tree.mem_children_iff.mpr hthere
      apply List.mem_flatMap.mpr
      refine ⟨name, List.mem_append_right _ (List.mem_filter.mpr ⟨hfound, hname⟩), ?_⟩
      exact ih name hanchored hfollow hentry hrest
  | case6 => exact hanchored.elim
  | case7 => exact hanchored.elim
  | case8 step rest base hnone =>
    intro place names hbase hentry h
    obtain ⟨outer, name, others, rfl, -, -⟩ := h.anyDepth_step hanchored.1
    rw [← List.append_assoc] at hentry
    obtain ⟨hdirectory, -, -⟩ := Tree.way_on ht hbase (by simp) hentry
    rw [hdirectory] at hnone
    cases hnone
  | case9 step rest base found hplace ih =>
    intro place names hbase hentry h
    obtain ⟨outer, name, others, rfl, hname, hothers⟩ := h.anyDepth_step hanchored.1
    rw [← List.append_assoc] at hentry
    have hsome : outer ++ [name] ≠ [] := by simp
    obtain ⟨hdirectory, hthere, hfollow⟩ := Tree.way_on ht hbase hsome hentry
    obtain rfl : place = found := Option.some.inj (hdirectory.symm.trans hplace)
    have hbelow := Tree.mem_below_iff.mpr ⟨hsome, hthere⟩
    apply List.mem_flatMap.mpr
    refine ⟨outer ++ [name], List.mem_filter.mpr ⟨hbelow, by simpa using hname⟩, ?_⟩
    rw [Path.goOn_append, Path.goOn_eq_join hsome (Tree.empty_not_mem ht hthere)]
    exact ih _ hanchored.2 hfollow hentry hothers

/-- An entry is found from the root just when the pattern describes it. -/
theorem mem_findFrom_iff (ht : t.Sound) (hanchored : pattern.Anchored)
    (hslashes : Step.name "" ∉ pattern) (hentry : t.entryAt? names ≠ none) :
    names ∈ findFrom t pattern [] ↔ pattern.Describes names := by
  constructor
  · intro h
    obtain ⟨found, hfound⟩ := mem_findFrom ht h
    rw [hfound.path_eq, Path.goOn_eq_append (by simp) fun hmem => hslashes (hfound.slashes hmem),
      List.nil_append]
    exact hfound.described
  · intro h
    have hnames : "" ∉ names := fun hempty => (ht.named_of_entryAt? hentry "" hempty).1 rfl
    have hfound := findFrom_complete ht hanchored (Tree.follow.eq_1 t []) hentry h
    rwa [Path.goOn_eq_append (by simp) hnames] at hfound

/-! ## Patterns that are read -/

theorem getLast?_ofSteps (steps : List Step) : (ofSteps steps).getLast? = steps.getLast? := by
  fun_induction ofSteps steps with
  | case1 rest others heq ih =>
    rw [heq, List.getLast?_cons] at ih
    rw [List.getLast?_cons, List.getLast?_cons, ← ih, Option.getD_some]
  | case2 rest _ ih => rw [List.getLast?_cons, List.getLast?_cons, ih]
  | case3 step rest _ ih => rw [List.getLast?_cons, List.getLast?_cons, ih]
  | case4 => rfl

theorem mem_of_mem_ofSteps {steps : List Step} (h : step ∈ ofSteps steps) : step ∈ steps := by
  fun_induction ofSteps steps with
  | case1 rest others heq ih =>
    rw [← heq] at h
    exact List.mem_cons_of_mem _ (ih h)
  | case2 rest _ ih =>
    rcases List.mem_cons.mp h with rfl | h
    · exact List.mem_cons_self
    · exact List.mem_cons_of_mem _ (ih h)
  | case3 first rest _ ih =>
    rcases List.mem_cons.mp h with rfl | h
    · exact List.mem_cons_self
    · exact List.mem_cons_of_mem _ (ih h)
  | case4 => cases h

theorem anchored_cons (hstep : step ≠ .anyDepth) : Anchored (step :: rest) ↔ rest.Anchored := by
  cases step with
  | anyDepth => exact absurd rfl hstep
  | name => exact Iff.rfl
  | wildcards => exact Iff.rfl

theorem anchored_ofSteps {steps : List Step} (h : steps.getLast? ≠ some .anyDepth) :
    (ofSteps steps).Anchored := by
  have hbehind {step : Step} {rest : List Step} (h : (step :: rest).getLast? ≠ some .anyDepth) :
      rest.getLast? ≠ some .anyDepth := by
    intro hrest
    rw [List.getLast?_cons, hrest] at h
    exact h rfl
  fun_induction ofSteps steps with
  | case1 rest others heq ih =>
    rw [← heq]
    exact ih (hbehind h)
  | case2 rest hnext ih =>
    have hrest := ih (hbehind h)
    cases heq : ofSteps rest with
    | nil =>
      have hnil := getLast?_ofSteps rest
      rw [heq] at hnil
      rw [List.getLast?_cons, ← hnil] at h
      exact h rfl
    | cons step others =>
      have hstep : step ≠ .anyDepth := by
        rintro rfl
        exact hnext others heq
      rw [heq, anchored_cons hstep] at hrest
      exact ⟨hstep, hrest⟩
  | case3 step rest hstep ih => exact (anchored_cons hstep).mpr (ih (hbehind h))
  | case4 => trivial

end Pattern

/-! ## Texts of patterns -/

theorem splitSlashes_ne_nil (text : List Char) : splitSlashes text ≠ [] := by
  fun_cases splitSlashes text <;> simp

theorem slash_not_mem_of_mem_splitSlashes {text name : List Char} (h : name ∈ splitSlashes text) :
    '/' ∉ name := by
  induction text generalizing name with
  | nil =>
    obtain rfl := List.mem_singleton.mp h
    exact List.not_mem_nil
  | cons c text ih =>
    rw [splitSlashes] at h
    by_cases hc : c = '/'
    · rw [if_pos hc] at h
      rcases List.mem_cons.mp h with rfl | h
      · exact List.not_mem_nil
      · exact ih h
    · rw [if_neg hc] at h
      obtain ⟨part, others, heq⟩ := List.exists_cons_of_ne_nil (splitSlashes_ne_nil text)
      rw [heq] at h ih
      rcases List.mem_cons.mp h with rfl | h
      · exact List.not_mem_cons_of_ne_of_not_mem (Ne.symm hc) (ih List.mem_cons_self)
      · exact ih (List.mem_cons_of_mem part h)

theorem splitSlashes_append (front back : List Char) :
    splitSlashes (front ++ '/' :: back) = splitSlashes front ++ splitSlashes back := by
  induction front with
  | nil => rfl
  | cons c front ih =>
    rw [List.cons_append, splitSlashes, splitSlashes]
    by_cases hc : c = '/'
    · rw [if_pos hc, if_pos hc, ih, List.cons_append]
    · rw [if_neg hc, if_neg hc, ih]
      obtain ⟨part, others, heq⟩ := List.exists_cons_of_ne_nil (splitSlashes_ne_nil front)
      rw [heq]
      rfl

theorem splitSlashes_of_not_mem {name : List Char} (h : '/' ∉ name) :
    splitSlashes name = [name] := by
  induction name with
  | nil => rfl
  | cons c name ih =>
    obtain ⟨hc, hname⟩ := not_or.mp (List.mem_cons.not.mp h)
    rw [splitSlashes, if_neg (Ne.symm hc), ih hname]

namespace Step

variable {name : List Char}

/-- Two stars alone stand for directories. -/
theorem ofName_eq_anyDepth_iff (hslash : '/' ∉ name) :
    ofName name = .ok .anyDepth ↔ name = ['*', '*'] := by
  constructor
  · intro h
    obtain ⟨ws, hread, hstep⟩ := map_eq_ok_iff.mp h
    rw [ofWildcards] at hstep
    split at hstep
    · next hmem => exact (Wildcard.anyDepth_alone hslash hread (List.contains_iff_mem.mp hmem)).2
    · split at hstep <;> cases hstep
  · rintro rfl
    rfl

theorem eq_nil_of_ofName (h : ofName name = .ok (.name "")) : name = [] := by
  obtain ⟨ws, -, hstep⟩ := map_eq_ok_iff.mp h
  rw [ofWildcards] at hstep
  split at hstep
  · cases hstep
  · split at hstep
    · exact String.ofList_eq_empty_iff.mp (Step.name.inj hstep)
    · cases hstep

theorem ofName_of_plain (h : ∀ c ∈ name, Wildcard.Plain c) :
    ofName name = .ok (.name (String.ofList name)) := by
  rw [ofName, Wildcard.read_plain h (.inl rfl)]
  apply congrArg Except.ok
  rw [ofWildcards, if_neg (by simp), if_pos (by simp)]

end Step

namespace Pattern

variable {position : Nat} {text : String} {pattern : Pattern} {e : PatternError}

/-- A fault lies in the text, or in the part of it that a name is read from. -/
theorem ofText_error_within (h : ofText position text = .error e) :
    position ≤ e.position ∧ e.position < position + text.length ∨
      ∃ name ∈ splitSlashes text.toList, e.position < name.length := by
  rcases bind_eq_error h with hread | ⟨-, -, hsteps⟩
  · exact .inl (Wildcard.read_error_within hread)
  · rcases bind_eq_error hsteps with hname | ⟨_, -, hpure⟩
    · obtain ⟨name, hmem, hread⟩ := mapM_eq_error hname
      have hwithin := Wildcard.read_error_within (map_eq_error_iff.mp hread)
      rw [Nat.zero_add] at hwithin
      exact .inr ⟨name, hmem, hwithin.2⟩
    · cases hpure

theorem ofText_eq_ok (h : ofText position text = .ok pattern) :
    ∃ steps, (splitSlashes text.toList).mapM Step.ofName = .ok steps ∧
      pattern = ofSteps steps := by
  obtain ⟨-, -, hsteps⟩ := bind_eq_ok_iff.mp h
  obtain ⟨steps, hnames, hpure⟩ := bind_eq_ok_iff.mp hsteps
  exact ⟨steps, hnames, (Except.ok.inj hpure).symm⟩

theorem mapM_concat_eq_ok {α β ε : Type} {f : α → Except ε β} {front : List α} {last : α}
    {found : List β} (h : (front ++ [last]).mapM f = .ok found) :
    ∃ before b, f last = .ok b ∧ found = before ++ [b] := by
  rw [List.mapM_append] at h
  obtain ⟨before, -, hlast⟩ := bind_eq_ok_iff.mp h
  obtain ⟨behind, hbehind, hpure⟩ := bind_eq_ok_iff.mp hlast
  obtain ⟨b, hb, hnil⟩ := bind_eq_ok_iff.mp hbehind
  obtain rfl : [b] = behind := Except.ok.inj hnil
  exact ⟨before, b, hb, (Except.ok.inj hpure).symm⟩

/-- What comes behind the last slash is what the last step was read from. -/
theorem last_of_ofText {front name : List Char} (htext : text.toList = front ++ '/' :: name)
    (hname : '/' ∉ name) (h : ofText position text = .ok pattern) :
    ∃ step, Step.ofName name = .ok step ∧ pattern.getLast? = some step := by
  obtain ⟨steps, hsteps, rfl⟩ := ofText_eq_ok h
  rw [htext, splitSlashes_append, splitSlashes_of_not_mem hname] at hsteps
  obtain ⟨before, step, hstep, rfl⟩ := mapM_concat_eq_ok hsteps
  exact ⟨step, hstep, by rw [getLast?_ofSteps, List.getLast?_concat]⟩

/-- What is found by a text that ends with more than stars, and has no slash too many, is just what
the text describes. -/
theorem mem_findFrom_iff_of_ofText {t : Tree} {names : List String} (ht : t.Sound)
    (h : ofText position text = .ok pattern)
    (hlast : (splitSlashes text.toList).getLast? ≠ some ['*', '*'])
    (hslashes : [] ∉ splitSlashes text.toList) (hentry : t.entryAt? names ≠ none) :
    names ∈ findFrom t pattern [] ↔ pattern.Describes names := by
  obtain ⟨steps, hsteps, rfl⟩ := ofText_eq_ok h
  refine mem_findFrom_iff ht (anchored_ofSteps fun hdepth => ?_) (fun hmem => ?_) hentry
  · obtain ⟨front, name, hparts⟩ :=
      (List.eq_nil_or_concat (splitSlashes text.toList)).resolve_left (splitSlashes_ne_nil _)
    rw [List.concat_eq_append] at hparts
    have hname : '/' ∉ name := slash_not_mem_of_mem_splitSlashes (by rw [hparts]; simp)
    rw [hparts] at hsteps hlast
    obtain ⟨before, step, hstep, rfl⟩ := mapM_concat_eq_ok hsteps
    rw [List.getLast?_concat] at hdepth hlast
    obtain rfl := Option.some.inj hdepth
    exact hlast (congrArg some ((Step.ofName_eq_anyDepth_iff hname).mp hstep))
  · obtain ⟨name, hname, hstep⟩ := exists_of_mapM_eq_ok hsteps (mem_of_mem_ofSteps hmem)
    obtain rfl := Step.eq_nil_of_ofName hstep
    exact hslashes hname

end Pattern

end SourceCheck.Workspace
