import SourceCheck.Proofs.Upkeep.Arguments
import SourceCheck.Proofs.Upkeep.Procedure
import SourceCheck.Upkeep.Run

/-!
What the jobs do to a project. Each leaves a sound tree, however it ends, and spares all that is not
its own: checking changes nothing, collecting coverage drops reports and profiles, and fuzzing
writes over crashes alone.
-/

namespace SourceCheck.Upkeep

open Workspace Procedure

section Names

variable {name : String} {path : Path}

theorem isName_of_length (h : 2 < name.toList.length) : IsName name := by
  refine ⟨?_, ?_, ?_⟩
  · rintro rfl
    exact absurd h (by decide)
  · rintro rfl
    exact absurd h (by decide)
  · rintro rfl
    exact absurd h (by decide)

def IsProfile (path : Path) : Prop :=
  ∃ outer last, path = outer ++ [last] ∧ ".profraw".toList <:+ last.toList

def IsCrash (path : Path) : Prop :=
  ∃ outer last, path = outer ++ [last] ∧ "crash-".toList <+: last.toList

end Names

def Job.Free : Job → Path → Prop
  | .coverage _, place => coverageDirectory <+: place ∨ IsProfile place
  | .checks _, _ => False
  | .fuzz _ _, place => IsCrash place

section Jobs

variable {s : Surroundings} {name : String} {path : Path} {t : Tree}

def profileStep : Workspace.Step := .wildcards (.anyText :: ".profraw".toList.map .char)

def crashStep : Workspace.Step := .wildcards ("crash-".toList.map .char ++ [.anyText])

theorem profileStep_describes (h : profileStep.describes name = true) :
    ".profraw".toList <:+ name.toList := by
  obtain ⟨part, rest, hname, -, hrest⟩ := (Wildcard.describes_cons_iff _ _ _).mp h
  rw [← List.append_nil (List.map _ _), Wildcard.describes_chars] at hrest
  obtain ⟨behind, rfl, hbehind⟩ := hrest
  obtain rfl : behind = [] := List.isEmpty_iff.mp hbehind
  exact ⟨part, by rw [← hname, List.append_nil]⟩

theorem crashStep_describes (h : crashStep.describes name = true) :
    "crash-".toList <+: name.toList := by
  obtain ⟨rest, hname, -⟩ := (Wildcard.describes_chars _).mp h
  exact ⟨rest, hname.symm⟩

theorem findProfiles (base : Path) {R : Tree → Tree → Prop} [IsPreorder Tree R] :
    Leads s R (find base 0 "**/*.profraw") fun paths => ∀ path ∈ paths,
      ∃ last, path.getLast? = some last ∧ ".profraw".toList <:+ last.toList := by
  apply Leads.find
  intro t pattern ht hpattern path hpath
  have htext : "**/*.profraw".toList = "**".toList ++ '/' :: "*.profraw".toList := by decide
  obtain ⟨step, hstep, hlast⟩ := Pattern.last_of_ofText htext (by decide) hpattern
  obtain rfl : profileStep = step := Except.ok.inj (by rw [← hstep]; rfl)
  obtain ⟨name, hname, hdescribed⟩ := Pattern.last_found ht hlast (by decide) hpath
  exact ⟨name, hname, profileStep_describes hdescribed⟩

theorem findCrashes_leads (target : String) {R : Tree → Tree → Prop} [IsPreorder Tree R] :
    Leads s R (findCrashes target) fun paths => ∀ path ∈ paths,
      ∃ last, path.getLast? = some last ∧ "crash-".toList <+: last.toList := by
  apply Leads.read.bind
  rintro - rfl
  apply Leads.find
  intro t pattern ht hpattern path hpath
  have htext : ("fuzz/artifacts/" ++ target ++ "/crash-*").toList =
      ("fuzz/artifacts/" ++ target).toList ++ '/' :: "crash-*".toList := by
    rw [String.toList_append]
    rfl
  obtain ⟨step, hstep, hlast⟩ := Pattern.last_of_ofText htext (by decide) hpattern
  obtain rfl : crashStep = step := Except.ok.inj (by rw [← hstep]; rfl)
  obtain ⟨name, hname, hdescribed⟩ := Pattern.last_found ht hlast (by decide) hpath
  exact ⟨name, hname, crashStep_describes hdescribed⟩

theorem dropProfiles_leads {report : Bool} {profiles : List Path}
    (h : ∀ profile ∈ profiles, ∃ last, profile.getLast? = some last ∧
      ".profraw".toList <:+ last.toList) :
    Leads s (Tree.Spares (Job.coverage report).Free)
      (profiles.forM fun profile => edit (·.removeFile profile)) fun _ => True := by
  refine Leads.forM fun profile hprofile => ?_
  obtain ⟨last, hlast, hsuffix⟩ := h profile hprofile
  have hname : IsName last := isName_of_length
    (Nat.lt_of_lt_of_le (by decide) hsuffix.length_le)
  exact Leads.edit_keeps fun _ _ => Tree.removeFile_keeps hlast hname
    fun outer => .inr ⟨outer, last, rfl, hsuffix⟩

theorem collectCoverage_leads (report : Bool) :
    Leads s (Tree.Spares (Job.coverage report).Free) (collectCoverage report) fun _ => True := by
  have hnames : ∀ name ∈ coverageDirectory, IsName name := by
    intro name hname
    apply isName_of_length
    revert name
    decide
  refine (Leads.clearDirectory hnames fun place => .inl).andThen fun _ => ?_
  refine (Leads.say _).andThen fun _ => ?_
  refine Leads.read.andThen fun _ => ?_
  refine (Leads.call _ _ _).andThen fun _ => ?_
  refine (Leads.say _).andThen fun _ => ?_
  generalize (if report = true then ("html", "html") else ("lcov", "tests.lcov")) = choice
  obtain ⟨format, file⟩ := choice
  refine (Leads.pathText _).andThen fun _ => ?_
  refine (Leads.pathText _).andThen fun _ => ?_
  refine (Leads.call _ _ _).andThen fun _ => ?_
  refine (Leads.say _).andThen fun _ => ?_
  refine Leads.read.andThen fun found => ?_
  refine (findProfiles found.directory).bind fun profiles hprofiles => ?_
  exact (dropProfiles_leads hprofiles).andThen fun _ => Leads.say _

theorem checkCode_leads (fix : Bool) {R : Tree → Tree → Prop} [IsPreorder Tree R] :
    Leads s R (checkCode fix) fun _ => True := by
  refine Leads.read.bind fun found _ => ?_
  have htest : Leads s R (do
      say "** building and testing code with `RUSTFLAGS=\"-D warnings\" cargo test`"
      call found.builder ["test"] [("RUSTFLAGS", "-D warnings")]
      say "** all checks passed!") fun _ => True :=
    (Leads.say _).andThen fun _ => (Leads.call _ _ _).andThen fun _ => Leads.say _
  refine Leads.ite (fun _ => ?_) fun _ => ?_
  · refine (Leads.say _).andThen fun _ => (Leads.call _ _ _).andThen fun _ => ?_
    exact (Leads.say _).andThen fun _ => (Leads.call _ _ _).andThen fun _ => htest
  · refine (Leads.say _).andThen fun _ => (Leads.call _ _ _).andThen fun _ => ?_
    exact (Leads.say _).andThen fun _ => (Leads.call _ _ _).andThen fun _ => htest

theorem keepCrashes_leads {crashes : List Path} {directory : Path}
    (h : ∀ crash ∈ crashes, ∃ last, crash.getLast? = some last ∧
      "crash-".toList <+: last.toList) :
    Leads s (Tree.Spares IsCrash) (keepCrashes crashes directory) fun _ => True := by
  refine (Leads.makeDirectories _).andThen fun _ => ?_
  refine (Leads.forM fun crash hcrash => ?_).andThen fun _ => ?_
  · obtain ⟨last, hlast, hprefix⟩ := h crash hcrash
    have htarget : (directory.join crash.getLast?.toList).getLast? = some last := by
      rw [Path.getLast?_join (by simp [hlast]), hlast]
      rfl
    have hname : IsName last := isName_of_length
      (Nat.lt_of_lt_of_le (by decide) hprefix.length_le)
    exact Leads.copyFile htarget hname fun outer => ⟨outer, last, rfl, hprefix⟩
  · exact (Leads.pathText _).andThen fun _ => Leads.say _

theorem fuzzTarget_leads (target : String) (seconds : Nat) :
    Leads s (Tree.Spares (Job.fuzz target seconds).Free) (fuzzTarget target seconds)
      fun _ => True := by
  refine (Leads.makeDirectories _).andThen fun _ => ?_
  refine (Leads.say _).andThen fun _ => ?_
  refine Leads.read.bind fun found _ => ?_
  refine (Leads.pathText _).andThen fun _ => ?_
  refine (Leads.callIn _ _ _ _).andThen fun _ => ?_
  refine Leads.tree.andThen fun t => ?_
  refine Leads.ite (fun _ => ?_) fun _ => ?_
  · refine (findCrashes_leads target).bind fun crashes hcrashes => ?_
    refine Leads.ite (fun _ => ?_) fun _ => Leads.say _
    exact (keepCrashes_leads hcrashes).andThen fun _ => Leads.say _
  · exact Leads.say _

theorem Job.leads (job : Job) : Leads s (Tree.Spares job.Free) job.procedure fun _ => True := by
  cases job with
  | coverage report => exact collectCoverage_leads report
  | checks fix => exact checkCode_leads fix
  | fuzz target seconds => exact fuzzTarget_leads target seconds

end Jobs

/-! ## Whole runs -/

section Runs

variable {s : Surroundings} {t : Tree}

theorem Job.tree_run (job : Job) (s : Surroundings) (t : Tree) :
    (job.run s t).tree = ((job.procedure s).run ⟨t, ""⟩).2.tree := by
  rw [Job.run]
  split
  · next hrun => rw [hrun]
  · next hrun => rw [hrun]

theorem Job.exitCode_eq_zero_iff (job : Job) (s : Surroundings) (t : Tree) :
    (job.run s t).exitCode = 0 ↔ ∃ a, ((job.procedure s).run ⟨t, ""⟩).1 = .ok a := by
  rw [Job.run]
  split
  · next hrun => simp [hrun]
  · next hrun => simp [hrun]

theorem Job.run_keeps (ht : t.Sound) (job : Job) : t.Keeps job.Free (job.run s t).tree := by
  have hends := job.leads (s := s) ⟨t, ""⟩ ht
  rw [Job.tree_run]
  exact ⟨hends.sound, hends.related⟩

theorem run_sound (ht : t.Sound) (arguments : List String) : (run s t arguments).tree.Sound := by
  rw [run]
  split
  · exact ht
  · exact ht
  · exact (Job.run_keeps ht _).sound

theorem checks_change_nothing (ht : t.Sound) (fix : Bool) :
    ((Job.checks fix).run s t).tree = t := by
  rw [Job.tree_run]
  exact (checkCode_leads fix (R := Eq) ⟨t, ""⟩ ht).related.symm

def checkCalls (s : Surroundings) (fix : Bool) : List Call :=
  let called (arguments : List String) (environment : List (String × String)) : Call :=
    ⟨s.builder, arguments, s.directory.text s.root, environment⟩
  (if fix then [called ["fmt", "--all"] [], called ["clippy", "--fix"] []]
    else [called ["fmt", "--all", "--", "--check"] [],
      called ["clippy", "--", "--deny", "clippy::all"] []]) ++
    [called ["test"] [("RUSTFLAGS", "-D warnings")]]

theorem checkCode_decides (fix : Bool) :
    Decides s (checkCode fix) (∀ call ∈ checkCalls s fix, s.tools.status? call = some 0) := by
  apply Decides.read_bind
  cases fix with
  | true =>
    apply (Decides.announced (Decides.announced (Decides.announced (Decides.say _)))).of_iff
    simp [checkCalls]
  | false =>
    apply (Decides.announced (Decides.announced (Decides.announced (Decides.say _)))).of_iff
    simp [checkCalls]

/-- A check passes just when each of its calls succeeds. -/
theorem checks_pass_iff (fix : Bool) :
    ((Job.checks fix).run s t).exitCode = 0 ↔
      ∀ call ∈ checkCalls s fix, s.tools.status? call = some 0 := by
  rw [Job.exitCode_eq_zero_iff]
  exact checkCode_decides fix ⟨t, ""⟩

theorem errors_eq_empty_iff (arguments : List String) :
    (run s t arguments).errors = "" ↔ (run s t arguments).exitCode = 0 := by
  rw [run]
  split
  · refine iff_of_false (fun hempty => ?_) Nat.one_ne_zero
    have hlines := congrArg String.toList hempty
    simp [UsageError.report] at hlines
  · exact iff_of_true rfl rfl
  · rw [Job.run]
    split
    · exact iff_of_true rfl rfl
    · refine iff_of_false (fun hempty => ?_) Nat.one_ne_zero
      have hlines := congrArg String.toList hempty
      simp at hlines

end Runs

end SourceCheck.Upkeep
