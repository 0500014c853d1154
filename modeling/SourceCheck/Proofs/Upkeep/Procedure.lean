import SourceCheck.Proofs.Workspace.Pattern
import SourceCheck.Upkeep.Procedure

/-!
What a procedure leaves, however it ends. What holds for every step, and holds for two in a row when
it holds for each, holds for the whole; a step that fails is the last.
-/

namespace SourceCheck.Upkeep.Procedure

open Workspace

variable {α β : Type}

/-- The tree that is left is sound and related to the first, the output grown, and an answer as it
should be. -/
structure Ends (R : Tree → Tree → Prop) (Q : α → Prop) (before : Progress)
    (result : Except JobError α × Progress) : Prop where
  sound : result.2.tree.Sound
  related : R before.tree result.2.tree
  output : ∃ more, result.2.output = before.output ++ more
  answer : ∀ a, result.1 = .ok a → Q a

def Leads (s : Surroundings) (R : Tree → Tree → Prop) (p : Procedure α) (Q : α → Prop) : Prop :=
  ∀ before, before.tree.Sound → Ends R Q before ((p s).run before)

section Runs

variable {s : Surroundings} {p : Procedure α} {f : α → Procedure β} {before mid after : Progress}

theorem run_bind (s : Surroundings) (p : Procedure α) (f : α → Procedure β) (before : Progress) :
    ((p >>= f) s).run before =
      ExceptT.bindCont (fun a => f a s) ((p s).run before).1 ((p s).run before).2 := rfl

theorem run_bind_ok {a : α} (h : (p s).run before = (.ok a, mid)) :
    ((p >>= f) s).run before = (f a s).run mid := by
  rw [run_bind, h]
  rfl

theorem run_bind_error {e : JobError} (h : (p s).run before = (.error e, mid)) :
    ((p >>= f) s).run before = (.error e, mid) := by
  rw [run_bind, h]
  rfl

theorem run_bind_eq_ok {b : β} (h : ((p >>= f) s).run before = (.ok b, after)) :
    ∃ a mid, (p s).run before = (.ok a, mid) ∧ (f a s).run mid = (.ok b, after) := by
  obtain ⟨⟨result, mid⟩, hrun⟩ : ∃ found, (p s).run before = found := ⟨_, rfl⟩
  cases result with
  | error e =>
    rw [run_bind_error hrun] at h
    cases h
  | ok a =>
    rw [run_bind_ok hrun] at h
    exact ⟨a, mid, hrun, h⟩

theorem run_tree (s : Surroundings) (before : Progress) :
    (tree s).run before = (.ok before.tree, before) := rfl

theorem run_read (s : Surroundings) (before : Progress) :
    ((read : Procedure Surroundings) s).run before = (.ok s, before) := rfl

theorem run_edit_ok {change : Tree → Except Fault Tree} {t : Tree}
    (h : change before.tree = .ok t) :
    (edit change s).run before = (.ok (), { before with tree := t }) := by
  rw [edit, run_bind_ok (run_tree s before)]
  simp only [h]
  rfl

theorem run_edit_error {change : Tree → Except Fault Tree} {fault : Fault}
    (h : change before.tree = .error fault) :
    (edit change s).run before = (.error (.files fault), before) := by
  rw [edit, run_bind_ok (run_tree s before)]
  simp only [h]
  rfl

theorem run_edit_eq_ok {change : Tree → Except Fault Tree}
    (h : (edit change s).run before = (.ok (), after)) : change before.tree = .ok after.tree := by
  cases hchange : change before.tree with
  | error fault =>
    rw [run_edit_error hchange] at h
    cases h
  | ok t =>
    rw [run_edit_ok hchange] at h
    cases h
    rfl

end Runs

section Calls

variable {s : Surroundings} {before : Progress} {directory : Path} {program : String}
  {arguments : List String} {environment : List (String × String)} {status : Nat}

theorem run_callIn_none
    (h : s.tools.status? ⟨program, arguments, directory.text s.root, environment⟩ = none) :
    ((callIn directory program arguments environment) s).run before =
      (.error .toolMissing, before) := by
  rw [callIn, run_bind_ok (show (pathText directory s).run before = (.ok _, before) from rfl),
    run_bind_ok (run_read s before)]
  simp only [h]
  rfl

/-- A call is reported before its status is looked at. -/
theorem run_callIn_some
    (h : s.tools.status? ⟨program, arguments, directory.text s.root, environment⟩ = some status) :
    let call : Call := ⟨program, arguments, directory.text s.root, environment⟩
    ((callIn directory program arguments environment) s).run before =
      (if status = 0 then .ok () else .error (.toolFailed call status),
        { before with output := before.output ++ call.report }) := by
  rw [callIn, run_bind_ok (show (pathText directory s).run before = (.ok _, before) from rfl),
    run_bind_ok (run_read s before)]
  simp only [h]
  by_cases hzero : status = 0
  · subst hzero
    rfl
  · rw [if_neg hzero, if_pos hzero]
    rfl

end Calls

namespace Leads

variable {s : Surroundings} {R : Tree → Tree → Prop} {Q : α → Prop} {p : Procedure α}

theorem ite {c : Prop} [Decidable c] {q : Procedure α} (hp : c → Leads s R p Q)
    (hq : ¬ c → Leads s R q Q) : Leads s R (if c then p else q) Q := by
  by_cases h : c
  · rw [if_pos h]
    exact hp h
  · rw [if_neg h]
    exact hq h

variable [IsPreorder Tree R]

theorem pure {a : α} (h : Q a) : Leads s R (pure a) Q := by
  intro before hsound
  exact ⟨hsound, refl_of R _, ⟨"", (String.append_empty).symm⟩, fun b hb => by cases hb; exact h⟩

theorem throw (e : JobError) : Leads s R (throw e : Procedure α) Q := by
  intro before hsound
  exact ⟨hsound, refl_of R _, ⟨"", (String.append_empty).symm⟩, nofun⟩

theorem bind {f : α → Procedure β} {Q' : β → Prop} (hp : Leads s R p Q)
    (hf : ∀ a, Q a → Leads s R (f a) Q') : Leads s R (p >>= f) Q' := by
  intro before hsound
  have hfirst := hp before hsound
  obtain ⟨⟨result, mid⟩, hrun⟩ : ∃ found, (p s).run before = found := ⟨_, rfl⟩
  rw [hrun] at hfirst
  obtain ⟨hmid, hrelated, ⟨more, hmore⟩, hanswer⟩ := hfirst
  cases result with
  | error e =>
    rw [run_bind_error hrun]
    exact ⟨hmid, hrelated, ⟨more, hmore⟩, nofun⟩
  | ok a =>
    rw [run_bind_ok hrun]
    obtain ⟨hafter, hrelated', ⟨more', hmore'⟩, hanswer'⟩ := hf a (hanswer a rfl) mid hmid
    refine ⟨hafter, trans_of R hrelated hrelated', ⟨more ++ more', ?_⟩, hanswer'⟩
    rw [hmore', hmore, String.append_assoc]

theorem andThen {Q' : β → Prop} {f : α → Procedure β} (hp : Leads s R p Q)
    (hf : ∀ a, Leads s R (f a) Q') : Leads s R (p >>= f) Q' := hp.bind fun a _ => hf a

theorem forM {as : List α} {f : α → Procedure Unit}
    (h : ∀ a ∈ as, Leads s R (f a) fun _ => True) : Leads s R (as.forM f) fun _ => True := by
  induction as with
  | nil => exact pure trivial
  | cons a as ih =>
    obtain ⟨ha, has⟩ := List.forall_mem_cons.mp h
    exact ha.andThen fun _ => ih has

theorem tree : Leads s R tree fun _ => True := by
  intro before hsound
  exact ⟨hsound, refl_of R _, ⟨"", (String.append_empty).symm⟩, fun _ _ => trivial⟩

theorem read : Leads s R (read : Procedure Surroundings) (· = s) := by
  intro before hsound
  refine ⟨hsound, refl_of R _, ⟨"", (String.append_empty).symm⟩, fun found hfound => ?_⟩
  exact (Except.ok.inj hfound).symm

theorem pathText (path : Path) : Leads s R (pathText path) fun _ => True :=
  read.bind fun _ _ => pure trivial

theorem write (text : String) : Leads s R (write text) fun _ => True := by
  intro before hsound
  exact ⟨hsound, refl_of R _, ⟨text, rfl⟩, fun _ _ => trivial⟩

theorem say (line : String) : Leads s R (say line) fun _ => True := write (line ++ "\n")

theorem edit {change : Tree → Except Fault Tree}
    (h : ∀ t t', t.Sound → change t = .ok t' → t'.Sound ∧ R t t') :
    Leads s R (edit change) fun _ => True := by
  intro before hsound
  cases hchange : change before.tree with
  | error fault =>
    rw [run_edit_error hchange]
    exact ⟨hsound, refl_of R _, ⟨"", (String.append_empty).symm⟩, nofun⟩
  | ok t =>
    rw [run_edit_ok hchange]
    obtain ⟨ht, hrelated⟩ := h before.tree t hsound hchange
    exact ⟨ht, hrelated, ⟨"", (String.append_empty).symm⟩, fun _ _ => trivial⟩

theorem callIn (directory : Path) (program : String) (arguments : List String)
    (environment : List (String × String)) :
    Leads s R (callIn directory program arguments environment) fun _ => True := by
  apply (pathText directory).andThen
  intro text
  apply read.bind
  intro found hfound
  split
  · exact throw _
  · apply (write _).andThen
    intro _
    exact ite (fun _ => throw _) fun _ => pure trivial

theorem call (program : String) (arguments : List String)
    (environment : List (String × String)) :
    Leads s R (call program arguments environment) fun _ => True :=
  read.bind fun _ _ => callIn _ program arguments environment

theorem find {base : Path} {position : Nat} {text : String} {Q : Path → Prop}
    (h : ∀ t pattern, t.Sound → Pattern.ofText position text = .ok pattern →
      ∀ path ∈ pattern.findFrom t base, Q path) :
    Leads s R (find base position text) fun paths => ∀ path ∈ paths, Q path := by
  intro before hsound
  rw [Procedure.find]
  cases hpattern : Pattern.ofText position text with
  | error e => exact throw (.pattern e) before hsound
  | ok pattern =>
    simp only [run_bind_ok (run_tree s before)]
    exact pure (h before.tree pattern hsound hpattern) before hsound

theorem edit_keeps {free : Path → Prop} {change : Tree → Except Fault Tree}
    (h : ∀ t t', t.Sound → change t = .ok t' → t.Keeps free t') :
    Leads s (Tree.Spares free) (Procedure.edit change) fun _ => True :=
  edit fun t t' ht hchange => ⟨(h t t' ht hchange).sound, (h t t' ht hchange).spares⟩

section Directories

variable {free : Path → Prop}

theorem makeDirectories (path : Path) :
    Leads s (Tree.Spares free) (makeDirectories path) fun _ => True := by
  have hensure (path : Path) :
      Leads s (Tree.Spares free) (Procedure.edit (·.ensureDirectory path)) fun _ => True :=
    edit_keeps fun _ _ ht hmade => Tree.ensureDirectory_keeps ht hmade
  apply tree.andThen
  intro t
  split
  · exact forM fun p _ => hensure p
  · exact hensure path

theorem clearDirectory {path : Path} (hnames : ∀ name ∈ path, IsName name)
    (hfree : ∀ place, path <+: place → free place) :
    Leads s (Tree.Spares free) (clearDirectory path) fun _ => True := by
  apply tree.andThen
  intro t
  refine ite (fun _ => ?_) fun _ => ?_
  · apply (edit_keeps fun _ _ ht hgone => Tree.removeDirectory_keeps hnames hfree ht hgone).andThen
    exact fun _ => makeDirectories path
  · exact makeDirectories path

theorem copyFile {path target : Path} {last : String} (hlast : target.getLast? = some last)
    (hname : IsName last) (hfree : ∀ outer, free (outer ++ [last])) :
    Leads s (Tree.Spares free) (copyFile path target) fun _ => True := by
  apply tree.andThen
  intro t
  split
  · exact edit_keeps fun _ _ ht hwritten => Tree.writeFile_keeps hlast hname hfree ht hwritten
  · exact (pathText path).andThen fun _ => throw _

end Directories

end Leads

/-- A file that is copied can be found where it was copied to. -/
theorem copyFile_copies {s : Surroundings} {path target : Path} {last : String}
    {before after : Progress} (hlast : target.getLast? = some last) (hname : IsName last)
    (h : (copyFile path target s).run before = (.ok (), after)) :
    ∃ content, before.tree.find? path = some (.file content) ∧
      after.tree.find? target = some (.file content) := by
  rw [copyFile, run_bind_ok (run_tree s before)] at h
  cases hfile : before.tree.find? path with
  | none =>
    simp only [hfile] at h
    cases h
  | some entry =>
    cases entry with
    | directory =>
      simp only [hfile] at h
      cases h
    | file content =>
      simp only [hfile] at h
      exact ⟨content, rfl, Tree.find?_writeFile hlast hname (run_edit_eq_ok h)⟩

/-! ## Empty directories -/

section Clearing

variable {s : Surroundings} {path outer : Path} {before after : Progress}

instance (path : Path) : IsPreorder Tree fun t t' => t.Vacant path → t'.Vacant path where
  refl _ := id
  trans _ _ _ hab hbc := hbc ∘ hab

theorem prefix_of_mem_outer (hnames : ∀ name ∈ path, IsName name) (h : outer ∈ path.outer) :
    outer <+: path := by
  rw [Tree.outer_of_names hnames] at h
  obtain ⟨n, -, rfl⟩ := List.mem_map.mp h
  exact List.take_prefix (n + 1) path

theorem makeDirectories_vacant (hnames : ∀ name ∈ path, IsName name) :
    Leads s (fun t t' => t.Vacant path → t'.Vacant path) (makeDirectories path)
      fun _ => True := by
  have hensure {outer : Path} (houter : outer <+: path) :
      Leads s (fun t t' => t.Vacant path → t'.Vacant path) (edit (·.ensureDirectory outer))
        fun _ => True := by
    refine Leads.edit fun t t' ht hmade => ?_
    have hkeeps : t.Keeps (fun _ => False) t' := Tree.ensureDirectory_keeps ht hmade
    refine ⟨hkeeps.sound, ?_⟩
    exact Tree.ensureDirectory_vacant (fun name hname => hnames name (houter.subset hname)) houter
      hmade
  refine Leads.tree.andThen fun t => ?_
  split
  · refine Leads.forM fun outer houter => ?_
    rcases List.mem_append.mp houter with houter | hself
    · exact hensure (prefix_of_mem_outer hnames houter)
    · rw [List.mem_singleton.mp hself]
      exact hensure List.prefix_rfl
  · exact hensure List.prefix_rfl

theorem run_forM_concat {as : List α} {a : α} {f : α → Procedure Unit}
    (h : ((as ++ [a]).forM f s).run before = (.ok (), after)) :
    ∃ mid, (f a s).run mid = (.ok (), after) := by
  induction as generalizing before with
  | nil =>
    obtain ⟨_, mid, hrun, hnil⟩ := run_bind_eq_ok h
    cases hnil
    exact ⟨before, hrun⟩
  | cons first as ih =>
    obtain ⟨_, mid, -, hrest⟩ := run_bind_eq_ok h
    exact ih hrest

theorem makeDirectories_makes (h : (makeDirectories path s).run before = (.ok (), after)) :
    after.tree.isDirectory path = true := by
  rw [makeDirectories, run_bind_ok (run_tree s before)] at h
  by_cases hmissing : before.tree.makeDirectory path = .error .notFound
  · simp only [hmissing] at h
    obtain ⟨mid, hlast⟩ := run_forM_concat h
    exact Tree.isDirectory_ensureDirectory (run_edit_eq_ok hlast)
  · simp only at h
    exact Tree.isDirectory_ensureDirectory (run_edit_eq_ok h)

/-- What is cleared is a directory that holds nothing, whatever stood there. -/
theorem clearDirectory_clears (hsound : before.tree.Sound) (hnames : ∀ name ∈ path, IsName name)
    (h : (clearDirectory path s).run before = (.ok (), after)) :
    after.tree.isDirectory path = true ∧ after.tree.Vacant path := by
  rw [clearDirectory, run_bind_ok (run_tree s before)] at h
  by_cases hthere : before.tree.exists? path = true
  · rw [if_pos hthere] at h
    obtain ⟨_, mid, hremoved, hmade⟩ := run_bind_eq_ok h
    have hgone := run_edit_eq_ok hremoved
    have hkeeps : before.tree.Keeps (path <+: ·) mid.tree :=
      Tree.removeDirectory_keeps hnames (fun _ => id) hsound hgone
    have hends := makeDirectories_vacant (s := s) hnames mid hkeeps.sound
    rw [hmade] at hends
    exact ⟨makeDirectories_makes hmade, hends.related (Tree.removeDirectory_vacant hnames hgone)⟩
  · rw [if_neg hthere] at h
    have hends := makeDirectories_vacant (s := s) hnames before hsound
    rw [h] at hends
    have hvacant := hsound.vacant_of_missing hnames (by simpa using hthere)
    exact ⟨makeDirectories_makes h, hends.related hvacant⟩

end Clearing

/-! ## Success -/

/-- The procedure succeeds just when `c` holds, wherever it starts. -/
def Decides (s : Surroundings) (p : Procedure α) (c : Prop) : Prop :=
  ∀ before, (∃ a, ((p s).run before).1 = .ok a) ↔ c

namespace Decides

variable {s : Surroundings} {p : Procedure α} {c : Prop}

theorem say (line : String) : Decides s (say line) True :=
  fun _ => iff_of_true ⟨(), rfl⟩ trivial

theorem read_bind {f : Surroundings → Procedure β} (h : Decides s (f s) c) :
    Decides s (read >>= f) c := by
  intro before
  rw [run_bind_ok (run_read s before)]
  exact h before

theorem bind {f : α → Procedure β} {c' : Prop} (hp : Decides s p c)
    (hf : ∀ a, Decides s (f a) c') : Decides s (p >>= f) (c ∧ c') := by
  intro before
  have hfirst := hp before
  obtain ⟨⟨result, mid⟩, hrun⟩ : ∃ found, (p s).run before = found := ⟨_, rfl⟩
  rw [hrun] at hfirst
  cases result with
  | error e =>
    rw [run_bind_error hrun, ← hfirst]
    simp
  | ok a =>
    rw [run_bind_ok hrun, hf a mid, and_iff_right (hfirst.mp ⟨a, rfl⟩)]

theorem callIn (directory : Path) (program : String) (arguments : List String)
    (environment : List (String × String)) :
    Decides s (callIn directory program arguments environment)
      (s.tools.status? ⟨program, arguments, directory.text s.root, environment⟩ = some 0) := by
  intro before
  cases hstatus : s.tools.status? ⟨program, arguments, directory.text s.root, environment⟩ with
  | none => simp [run_callIn_none hstatus]
  | some status =>
    rw [run_callIn_some hstatus]
    by_cases hzero : status = 0
    · simp [hzero]
    · simp [hzero]

theorem call (program : String) (arguments : List String)
    (environment : List (String × String)) :
    Decides s (call program arguments environment)
      (s.tools.status? ⟨program, arguments, s.directory.text s.root, environment⟩ = some 0) :=
  callIn s.directory program arguments environment

theorem announced {line program : String} {arguments : List String}
    {environment : List (String × String)} (hp : Decides s p c) :
    Decides s (do Procedure.say line; Procedure.call program arguments environment; p)
      (s.tools.status? ⟨program, arguments, s.directory.text s.root, environment⟩ = some 0 ∧
        c) := by
  intro before
  have hsteps := (say line).bind fun _ => (call program arguments environment).bind fun _ => hp
  exact (hsteps before).trans (and_iff_right trivial)

theorem of_iff {c' : Prop} (h : Decides s p c) (hc : c ↔ c') : Decides s p c' :=
  fun before => (h before).trans hc

end Decides

end SourceCheck.Upkeep.Procedure
