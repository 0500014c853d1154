import Mathlib.Data.List.Basic
import SourceCheck.Proofs.Outcomes
import SourceCheck.Text.Decimal
import SourceCheck.Upkeep.Arguments

/-!
What the arguments of a job are read as. A job can be asked for just when its number of seconds is
one that can be read; once help is asked for no job is run, and a complaint is about an argument
that was given.
-/

namespace SourceCheck.Upkeep

/-! ## Numbers -/

section Numbers

variable {n m : Nat} {digits text : List Char}

theorem le_ofDigitChars (digits : List Char) (n : Nat) : n ≤ Nat.ofDigitChars 10 digits n := by
  induction digits generalizing n with
  | nil => exact Nat.le_refl n
  | cons c digits ih =>
    rw [Nat.ofDigitChars_cons]
    have hrest := ih (10 * n + (c.toNat - '0'.toNat))
    omega

theorem readDigits_eq_ok_iff (hn : n ≤ largestNumber) :
    readDigits n digits = .ok m ↔
      (∀ c ∈ digits, c.isDigit = true) ∧ Nat.ofDigitChars 10 digits n = m ∧ m ≤ largestNumber := by
  induction digits generalizing n with
  | nil =>
    constructor
    · rintro ⟨⟩
      exact ⟨nofun, rfl, hn⟩
    · rintro ⟨-, rfl, -⟩
      rfl
  | cons c digits ih =>
    rw [readDigits, List.forall_mem_cons, Nat.ofDigitChars_cons]
    by_cases hc : c.isDigit = true
    · rw [if_pos hc]
      by_cases hlarge : largestNumber < 10 * n + (c.toNat - '0'.toNat)
      · rw [if_pos hlarge]
        have hgrows := le_ofDigitChars digits (10 * n + (c.toNat - '0'.toNat))
        constructor
        · rintro ⟨⟩
        · rintro ⟨-, rfl, hm⟩
          omega
      · rw [if_neg hlarge, ih (Nat.le_of_not_lt hlarge), and_iff_right hc]
    · rw [if_neg hc]
      constructor
      · rintro ⟨⟩
      · rintro ⟨⟨hdigit, -⟩, -⟩
        exact absurd hdigit hc

/-- A number is read from digits, behind a plus sign or not, when it is not too large. -/
theorem readNumber_eq_ok_iff :
    readNumber text = .ok m ↔ ∃ digits, (text = digits ∨ text = '+' :: digits) ∧ digits ≠ [] ∧
      (∀ c ∈ digits, c.isDigit = true) ∧ Nat.ofDigitChars 10 digits 0 = m ∧ m ≤ largestNumber := by
  have hzero : 0 ≤ largestNumber := Nat.zero_le _
  fun_cases readNumber text with
  | case1 =>
    constructor
    · rintro ⟨⟩
    · rintro ⟨digits, rfl | h, hsome, -⟩
      · exact absurd rfl hsome
      · cases h
  | case2 =>
    constructor
    · rintro ⟨⟩
    · rintro ⟨digits, rfl | h, hsome, hdigits, -⟩
      · exact absurd (hdigits '+' List.mem_cons_self) (by decide)
      · exact absurd (List.cons.inj h).2.symm hsome
  | case3 digits hsome =>
    rw [readDigits_eq_ok_iff hzero]
    constructor
    · intro h
      exact ⟨digits, .inr rfl, fun hnil => hsome hnil, h⟩
    · rintro ⟨others, rfl | h, -, hdigits⟩
      · exact absurd (hdigits.1 '+' List.mem_cons_self) (by decide)
      · obtain rfl := (List.cons.inj h).2
        exact hdigits
  | case4 text hsome hplus hsign =>
    rw [readDigits_eq_ok_iff hzero]
    constructor
    · intro h
      exact ⟨_, .inl rfl, fun hnil => hsome hnil, h⟩
    · rintro ⟨digits, rfl | rfl, -, hdigits⟩
      · exact hdigits
      · exact absurd rfl (hsign digits)

theorem readNumber_toDigits (hn : n ≤ largestNumber) :
    readNumber (Nat.toDigits 10 n) = .ok n :=
  readNumber_eq_ok_iff.mpr ⟨Nat.toDigits 10 n, .inl rfl, Nat.toDigits_ne_nil,
    fun _ hc => Nat.isDigit_of_mem_toDigits (by decide) (by decide) hc,
    Nat.ofDigitChars_ten_toDigits, hn⟩

end Numbers

/-! ## Forms -/

def NamesOption (argument : String) : Prop :=
  asksForHelp argument = false ∧ isOption argument = true ∧ argument ≠ "--"

def IsPlain (argument : String) : Prop := asksForHelp argument = false ∧ isOption argument = false

namespace Form

/-- How arguments are taken, one after another, until none is left. -/
inductive Reads {σ : Type} (form : Form σ) (asked : Bool) (chosen : σ) :
    Bool → Bool → σ → List String → Prop where
  | done {ended : Bool} : Reads form asked chosen asked ended chosen []
  | help {help : Bool} {choices : σ} {argument : String} {rest : List String}
      (hask : asksForHelp argument = true)
      (hrest : Reads form asked chosen true false choices rest) :
      Reads form asked chosen help false choices (argument :: rest)
  | dashes {help : Bool} {choices : σ} {rest : List String}
      (hrest : Reads form asked chosen help true choices rest) :
      Reads form asked chosen help false choices ("--" :: rest)
  | switch {choices : σ} {argument : String} {rest : List String} {choose : σ → σ}
      (hname : NamesOption argument) (hswitch : form.switch? argument = some choose)
      (hrest : Reads form asked chosen false false (choose choices) rest) :
      Reads form asked chosen false false choices (argument :: rest)
  | option {choices next : σ} {argument value : String} {rest : List String}
      {choose : String → σ → Except ValueFault σ} (hname : NamesOption argument)
      (hswitch : form.switch? argument = none) (hoption : form.option? argument = some choose)
      (hchoose : choose value choices = .ok next)
      (hrest : Reads form asked chosen false false next rest) :
      Reads form asked chosen false false choices (argument :: value :: rest)
  | place {help ended : Bool} {choices : σ} {argument : String} {rest : List String}
      {choose : String → σ} (hplain : ended = false → IsPlain argument)
      (hplace : form.place? choices = some choose)
      (hrest : Reads form asked chosen help ended (choose argument) rest) :
      Reads form asked chosen help ended choices (argument :: rest)

variable {σ : Type} {form : Form σ} {P : σ → Prop} {help ended asked : Bool}
  {choices chosen : σ} {argument : String} {arguments : List String}

theorem reads_of_read (h : form.read help ended choices arguments = .ok (asked, chosen)) :
    form.Reads asked chosen help ended choices arguments := by
  fun_induction Form.read form help ended choices arguments with
  | case1 =>
    obtain ⟨rfl, rfl⟩ := Prod.mk.inj (Except.ok.inj h)
    exact .done
  | case2 help ended choices argument rest hask ih =>
    obtain ⟨hended, hask⟩ := Bool.and_eq_true_iff.mp hask
    obtain rfl : ended = false := by simpa using hended
    exact .help hask (ih h)
  | case3 help ended choices rest hask hoption ih =>
    obtain rfl : ended = false := by simpa using (Bool.and_eq_true_iff.mp hoption).1
    exact .dashes (ih h)
  | case4 => cases h
  | case5 help ended choices argument rest hask hoption hdashes hhelp choose hswitch ih =>
    obtain ⟨hended, hoption⟩ := Bool.and_eq_true_iff.mp hoption
    obtain rfl : ended = false := by simpa using hended
    obtain rfl : help = false := by simpa using hhelp
    exact .switch ⟨by simpa using hask, hoption, hdashes⟩ hswitch (ih h)
  | case6 => cases h
  | case7 => cases h
  | case8 help ended choices argument hask hoption hdashes hhelp hswitch choose hchoose value rest
      next hnext ih =>
    obtain ⟨hended, hoption⟩ := Bool.and_eq_true_iff.mp hoption
    obtain rfl : ended = false := by simpa using hended
    obtain rfl : help = false := by simpa using hhelp
    exact .option ⟨by simpa using hask, hoption, hdashes⟩ hswitch hchoose hnext (ih h)
  | case9 => cases h
  | case10 help ended choices argument rest hask hoption choose hplace ih =>
    refine .place (fun hended => ?_) hplace (ih h)
    subst hended
    exact ⟨by simpa using hask, by simpa using hoption⟩
  | case11 => cases h

theorem Reads.read (h : form.Reads asked chosen help ended choices arguments) :
    form.read help ended choices arguments = .ok (asked, chosen) := by
  induction h with
  | done => rfl
  | help hask hrest ih => simp [Form.read, hask, ih]
  | dashes hrest ih =>
    have hask : asksForHelp "--" = false := by decide
    have hoption : isOption "--" = true := by decide
    simp [Form.read, hask, hoption, ih]
  | switch hname hswitch hrest ih =>
    obtain ⟨hask, hoption, hdashes⟩ := hname
    simp [Form.read, hask, hoption, hdashes, hswitch, ih]
  | option hname hswitch hoption hchoose hrest ih =>
    obtain ⟨hask, hisOption, hdashes⟩ := hname
    simp [Form.read, hask, hisOption, hdashes, hswitch, hoption, hchoose, ih]
  | @place help ended choices argument rest choose hplain hplace hrest ih =>
    cases ended with
    | true => simp [Form.read, hplace, ih]
    | false =>
      obtain ⟨hask, hoption⟩ := hplain rfl
      simp [Form.read, hask, hoption, hplace, ih]

theorem read_eq_ok_iff :
    form.read help ended choices arguments = .ok (asked, chosen) ↔
      form.Reads asked chosen help ended choices arguments := ⟨reads_of_read, Reads.read⟩

structure Preserves (form : Form σ) (P : σ → Prop) : Prop where
  switch : ∀ argument choose choices, form.switch? argument = some choose → P choices →
    P (choose choices)
  option : ∀ argument choose value choices next, form.option? argument = some choose →
    choose value choices = .ok next → P choices → P next
  place : ∀ argument choose choices, form.place? choices = some choose → P choices →
    P (choose argument)

theorem Preserves.reads (h : form.Preserves P)
    (hread : form.Reads asked chosen help ended choices arguments) (hchoices : P choices) :
    P chosen := by
  induction hread with
  | done => exact hchoices
  | help hask hrest ih => exact ih hchoices
  | dashes hrest ih => exact ih hchoices
  | switch hname hswitch hrest ih => exact ih (h.switch _ _ _ hswitch hchoices)
  | option hname hswitch hoption hchoose hrest ih =>
    exact ih (h.option _ _ _ _ _ hoption hchoose hchoices)
  | place hplain hplace hrest ih => exact ih (h.place _ _ _ hplace hchoices)

theorem Reads.asked_of_help (h : form.Reads asked chosen help ended choices arguments) :
    help = true → asked = true := by
  induction h with
  | done => exact id
  | help hask hrest ih => exact fun _ => ih rfl
  | dashes hrest ih => exact ih
  | switch => exact nofun
  | option => exact nofun
  | place hplain hplace hrest ih => exact ih

/-- No option takes a request for help as its value. -/
def SparesHelp (form : Form σ) : Prop :=
  ∀ argument choose value choices next, form.option? argument = some choose →
    choose value choices = .ok next → asksForHelp value = false

theorem mem_takeWhile_tail {first : String} {rest : List String}
    (hmem : argument ∈ (first :: rest).takeWhile (· ≠ "--")) (hask : asksForHelp argument = true)
    (hfirst : asksForHelp first = false) : argument ∈ rest.takeWhile (· ≠ "--") := by
  rw [List.takeWhile_cons] at hmem
  split at hmem
  · rcases List.mem_cons.mp hmem with rfl | hmem
    · rw [hask] at hfirst
      cases hfirst
    · exact hmem
  · cases hmem

/-- A request for help in front of two dashes is heard. -/
theorem Reads.asked_of_mem (h : form.Reads asked chosen help false choices arguments)
    (hspares : form.SparesHelp) (hmem : argument ∈ arguments.takeWhile (· ≠ "--"))
    (hask : asksForHelp argument = true) : asked = true := by
  generalize hended : false = ended at h
  induction h with
  | done => cases hmem
  | help _ hrest => exact hrest.asked_of_help rfl
  | dashes => cases hmem
  | switch hname hswitch hrest ih => exact ih (mem_takeWhile_tail hmem hask hname.1) rfl
  | option hname hswitch hoption hchoose hrest ih =>
    have hvalue := hspares _ _ _ _ _ hoption hchoose
    exact ih (mem_takeWhile_tail (mem_takeWhile_tail hmem hask hname.1) hask hvalue) rfl
  | place hplain hplace hrest ih =>
    exact ih (mem_takeWhile_tail hmem hask (hplain hended.symm).1) hended

end Form

/-! ## Complaints -/

def UsageError.About (help : Bool) (arguments : List String) : UsageError → Prop
  | .noJob => False
  | .unrecognized argument => argument ∈ arguments
  | .missingValue option => arguments.getLast? = some option
  | .badValue option value _ => [option, value] <:+: arguments
  | .afterHelp => help = true ∨ ∃ argument ∈ arguments, asksForHelp argument = true

section Complaints

variable {help later ended : Bool} {argument : String} {arguments rest : List String}
  {e : UsageError}

theorem UsageError.About.cons (h : e.About later rest)
    (hlater : later = true → help = true ∨ asksForHelp argument = true) :
    e.About help (argument :: rest) := by
  cases e with
  | noJob => exact h
  | unrecognized other => exact List.mem_cons_of_mem argument h
  | missingValue option =>
    rw [About] at h ⊢
    rw [List.getLast?_cons, h, Option.getD_some]
  | badValue option value fault => exact h.trans (List.suffix_cons argument rest).isInfix
  | afterHelp =>
    rcases h with h | ⟨other, hother, hask⟩
    · exact (hlater h).imp_right fun hask => ⟨argument, List.mem_cons_self, hask⟩
    · exact .inr ⟨other, List.mem_cons_of_mem argument hother, hask⟩

theorem Form.about_of_read {σ : Type} {form : Form σ} {choices : σ}
    (h : form.read help ended choices arguments = .error e) : e.About help arguments := by
  fun_induction Form.read form help ended choices arguments with
  | case1 => cases h
  | case2 help ended choices argument rest hask ih =>
    exact (ih h).cons fun _ => .inr (Bool.and_eq_true_iff.mp hask).2
  | case3 help ended choices rest hask hoption ih => exact (ih h).cons .inl
  | case4 =>
    obtain rfl := Except.error.inj h
    exact .inl rfl
  | case5 help ended choices argument rest hask hoption hdashes hhelp choose hswitch ih =>
    exact (ih h).cons .inl
  | case6 =>
    obtain rfl := Except.error.inj h
    exact List.mem_cons_self
  | case7 =>
    obtain rfl := Except.error.inj h
    rfl
  | case8 help ended choices argument hask hoption hdashes hhelp hswitch choose hchoose value rest
      next hnext ih =>
    exact ((ih h).cons .inl).cons .inl
  | case9 help ended choices argument hask hoption hdashes hhelp hswitch choose hchoose value rest
      fault hfault =>
    obtain rfl := Except.error.inj h
    exact ⟨[], rest, rfl⟩
  | case10 help ended choices argument rest hask hoption choose hplace ih =>
    exact (ih h).cons .inl
  | case11 =>
    obtain rfl := Except.error.inj h
    exact List.mem_cons_self

theorem JobKind.about_of_invocation {kind : JobKind}
    (h : kind.invocation help arguments = .error e) : e.About help arguments := by
  cases kind with
  | coverage => exact Form.about_of_read (map_eq_error_iff.mp h)
  | checks => exact Form.about_of_read (map_eq_error_iff.mp h)
  | fuzz => exact Form.about_of_read (map_eq_error_iff.mp h)

theorem about_of_ofArgumentsFrom
    (h : Invocation.ofArgumentsFrom help ended arguments = .error e) :
    e.About help arguments ∨
      e = .noJob ∧ help = false ∧ (arguments = [] ∨ ended = false ∧ arguments = ["--"]) := by
  fun_induction Invocation.ofArgumentsFrom help ended arguments with
  | case1 => cases h
  | case2 help ended hhelp =>
    exact .inr ⟨(Except.error.inj h).symm, by simpa using hhelp, .inl rfl⟩
  | case3 help ended argument rest hask ih =>
    rcases ih h with habout | ⟨-, hhelp, -⟩
    · exact .inl (habout.cons fun _ => .inr (Bool.and_eq_true_iff.mp hask).2)
    · cases hhelp
  | case4 help ended rest hask hoption ih =>
    have hended : ended = false := by simpa using (Bool.and_eq_true_iff.mp hoption).1
    rcases ih h with habout | ⟨rfl, hhelp, rfl | ⟨hafter, -⟩⟩
    · exact .inl (habout.cons .inl)
    · exact .inr ⟨rfl, hhelp, .inr ⟨hended, rfl⟩⟩
    · cases hafter
  | case5 =>
    obtain rfl := Except.error.inj h
    exact .inl (.inl rfl)
  | case6 =>
    obtain rfl := Except.error.inj h
    exact .inl List.mem_cons_self
  | case7 help ended argument rest hask hoption kind hkind =>
    exact .inl ((JobKind.about_of_invocation h).cons .inl)
  | case8 =>
    obtain rfl := Except.error.inj h
    exact .inl List.mem_cons_self

/-- A complaint is about what was given, or there was nothing that could name a job. -/
theorem about_of_ofArguments (h : Invocation.ofArguments arguments = .error e) :
    e.About false arguments ∨ e = .noJob ∧ (arguments = [] ∨ arguments = ["--"]) := by
  rcases about_of_ofArgumentsFrom h with habout | ⟨hjob, -, hnone | ⟨-, hdashes⟩⟩
  · exact .inl habout
  · exact .inr ⟨hjob, .inl hnone⟩
  · exact .inr ⟨hjob, .inr hdashes⟩

end Complaints

/-! ## Jobs -/

/-- The job is one that arguments can ask for. -/
def Job.Allowed : Job → Prop
  | .fuzz _ seconds => seconds ≤ largestNumber
  | _ => True

def HelpFree (arguments : List String) : Prop :=
  ∀ argument ∈ arguments.takeWhile (· ≠ "--"), asksForHelp argument = false

def Job.arguments : Job → List String
  | .coverage report => "cov" :: if report then ["--report"] else []
  | .checks fix => "ci" :: if fix then ["--fix"] else []
  | .fuzz target seconds => ["fuzz", "--seconds", Text.showNat seconds, "--", target]

section Jobs

variable {help ended : Bool} {arguments : List String} {job : Job} {kind : JobKind}

theorem Form.run_invocation {σ : Type} {form : Form σ} {standard : σ} {toJob : σ → Job}
    (hspares : form.SparesHelp)
    (h : form.invocation kind help standard toJob arguments = .ok (.run job)) :
    help = false ∧ HelpFree arguments ∧
      ∃ chosen, form.Reads false chosen help false standard arguments ∧ toJob chosen = job := by
  obtain ⟨⟨asked, chosen⟩, hread, hjob⟩ := map_eq_ok_iff.mp h
  have hreads := reads_of_read hread
  cases asked with
  | true => cases hjob
  | false =>
    refine ⟨?_, fun argument hmem => ?_, chosen, ?_, Invocation.run.inj hjob⟩
    · by_contra hhelp
      cases hreads.asked_of_help (by simpa using hhelp)
    · by_contra hask
      cases hreads.asked_of_mem hspares hmem (by simpa using hask)
    · exact hreads

theorem switchForm_sparesHelp (name : String) : (switchForm name).SparesHelp :=
  fun _ _ _ _ _ hoption => nomatch hoption

theorem chooseSeconds_eq_ok {value : String} {choices next : FuzzChoices}
    (h : chooseSeconds value choices = .ok next) :
    ∃ seconds, readNumber value.toList = .ok seconds ∧
      next = { choices with seconds := seconds } := by
  rw [chooseSeconds] at h
  split at h
  · cases h
  · obtain ⟨seconds, hread, rfl⟩ := map_eq_ok_iff.mp h
    exact ⟨seconds, hread, rfl⟩

theorem fuzzForm_option? {argument : String}
    {choose : String → FuzzChoices → Except ValueFault FuzzChoices}
    (h : fuzzForm.option? argument = some choose) : choose = chooseSeconds :=
  (Option.some.inj (Option.ite_none_right_eq_some.mp h).2).symm

theorem fuzzForm_sparesHelp : fuzzForm.SparesHelp := by
  intro argument choose value choices next hoption hchoose
  obtain rfl := fuzzForm_option? hoption
  obtain ⟨seconds, hread, -⟩ := chooseSeconds_eq_ok hchoose
  by_contra hask
  have hhelp : value = "--help" ∨ value = "help" :=
    or_iff_not_imp_left.mpr (by simpa [asksForHelp] using hask)
  rcases hhelp with rfl | rfl
  · cases hread
  · cases hread

theorem fuzzForm_preserves :
    fuzzForm.Preserves fun choices => ∀ seconds ∈ choices.seconds, seconds ≤ largestNumber := by
  constructor
  · intro argument choose choices hswitch
    cases hswitch
  · intro argument choose value choices next hoption hchoose hchoices
    obtain rfl := fuzzForm_option? hoption
    obtain ⟨seconds, hread, rfl⟩ := chooseSeconds_eq_ok hchoose
    obtain ⟨digits, -, -, -, -, hsmall⟩ := readNumber_eq_ok_iff.mp hread
    intro other hother
    obtain rfl := Option.some.inj hother
    exact hsmall
  · intro argument choose choices hplace hchoices
    obtain ⟨-, hchoose⟩ := Option.ite_none_left_eq_some.mp hplace
    obtain rfl := Option.some.inj hchoose
    exact hchoices

theorem JobKind.run_invocation (h : kind.invocation help arguments = .ok (.run job)) :
    help = false ∧ HelpFree arguments ∧ job.Allowed := by
  cases kind with
  | coverage =>
    obtain ⟨hhelp, hfree, _, -, rfl⟩ := Form.run_invocation (switchForm_sparesHelp "--report") h
    exact ⟨hhelp, hfree, trivial⟩
  | checks =>
    obtain ⟨hhelp, hfree, _, -, rfl⟩ := Form.run_invocation (switchForm_sparesHelp "--fix") h
    exact ⟨hhelp, hfree, trivial⟩
  | fuzz =>
    obtain ⟨hhelp, hfree, chosen, hreads, rfl⟩ := Form.run_invocation fuzzForm_sparesHelp h
    refine ⟨hhelp, hfree, ?_⟩
    have hseconds := fuzzForm_preserves.reads hreads nofun
    cases hchosen : chosen.seconds with
    | none =>
      rw [FuzzChoices.job, hchosen]
      exact (by decide : 60 ≤ largestNumber)
    | some seconds =>
      rw [FuzzChoices.job, hchosen]
      exact hseconds seconds hchosen

theorem run_of_ofArgumentsFrom
    (h : Invocation.ofArgumentsFrom help ended arguments = .ok (.run job)) :
    help = false ∧ (ended = false → HelpFree arguments) ∧ job.Allowed := by
  fun_induction Invocation.ofArgumentsFrom help ended arguments with
  | case1 => cases h
  | case2 => cases h
  | case3 help ended argument rest hask ih => cases (ih h).1
  | case4 help ended rest hask hoption ih =>
    obtain ⟨hhelp, -, hjob⟩ := ih h
    exact ⟨hhelp, fun _ => nofun, hjob⟩
  | case5 => cases h
  | case6 => cases h
  | case7 help ended argument rest hask hoption kind hkind =>
    obtain ⟨hhelp, hfree, hjob⟩ := JobKind.run_invocation h
    refine ⟨hhelp, fun hended other hother => ?_, hjob⟩
    subst hended
    by_contra hasks
    have hrest := Form.mem_takeWhile_tail hother (by simpa using hasks) (by simpa using hask)
    exact hasks (hfree other hrest)
  | case8 => cases h

/-- A job is run only where help is not asked for. -/
theorem helpFree_of_run (h : Invocation.ofArguments arguments = .ok (.run job)) :
    HelpFree arguments := (run_of_ofArgumentsFrom h).2.1 rfl

theorem ofArguments_arguments (h : job.Allowed) :
    Invocation.ofArguments job.arguments = .ok (.run job) := by
  cases job with
  | coverage report => cases report <;> rfl
  | checks fix => cases fix <;> rfl
  | fuzz target seconds =>
    have hnumber : chooseSeconds (Text.showNat seconds) ⟨none, none⟩ =
        .ok ⟨none, some seconds⟩ := by
      rw [chooseSeconds, Text.showNat, String.toList_ofList, readNumber_toDigits h]
      rfl
    have hreads : fuzzForm.Reads false ⟨some target, some seconds⟩ false false ⟨none, none⟩
        ["--seconds", Text.showNat seconds, "--", target] := by
      refine .option ⟨by decide, by decide, by decide⟩ rfl rfl hnumber (.dashes ?_)
      exact .place nofun rfl .done
    have hkind : JobKind.fuzz.invocation false
        ["--seconds", Text.showNat seconds, "--", target] = .ok (.run (.fuzz target seconds)) := by
      rw [JobKind.invocation, Form.invocation, hreads.read]
      rfl
    exact hkind

theorem exists_arguments_iff :
    (∃ arguments, Invocation.ofArguments arguments = .ok (.run job)) ↔ job.Allowed := by
  constructor
  · rintro ⟨arguments, h⟩
    exact (run_of_ofArgumentsFrom h).2.2
  · intro h
    exact ⟨job.arguments, ofArguments_arguments h⟩

end Jobs

end SourceCheck.Upkeep
