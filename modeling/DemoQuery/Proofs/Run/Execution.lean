import DemoQuery.Proofs.Config.Loading
import DemoQuery.Run

/-!
# How a command is carried out

What a program leaves alone, whether it succeeds or fails, follows from its parts. Every command
prints last, so one that fails has printed nothing, and only the command that makes a setting
changes the disk. A command that needs settings is carried out under those that load, and fails if
none do. Any other command is carried out in any case.
-/

namespace DemoQuery

variable {α β γ ε : Type} {view : World → γ} {world world' : World}
variable {env : Environment} {disk : Disk} {c : Config} {e : ConfigError}
variable {o : OutputOptions} {command : Command} {arguments : List String}

/-! ### Parts of a program -/

namespace Program

variable {p : Program α} {f : α → Program β} {failure : ε → CommandError}

lemma run_bind_of_ok {a : α} (h : p.run world = .ok a world') :
    (p >>= f).run world = (f a).run world' := by
  rw [EStateM.run_bind, h]

lemma run_bind_of_error {error : CommandError} (h : p.run world = .error error world') :
    (p >>= f).run world = .error error world' := by
  rw [EStateM.run_bind, h]

lemma run_disk : Program.disk.run world = .ok world.disk world := rfl

lemma run_print (text : String) : (print text).run world =
    .ok () { world with printed := world.printed ++ text } := rfl

lemma run_changeDisk (change : Disk → Disk × α) : (changeDisk change).run world =
    .ok (change world.disk).2 { world with disk := (change world.disk).1 } := rfl

lemma run_expect_ok (a : α) : (expect failure (.ok a)).run world = .ok a world := rfl

lemma run_expect_error (e : ε) :
    (expect failure (.error e) : Program α).run world = .error (failure e) world := rfl

/-! ### What a program leaves alone -/

/-- A program that fails has left a part of the world alone. -/
def FailsKeeping (view : World → γ) (p : Program α) : Prop :=
  ∀ ⦃world error world'⦄, p.run world = .error error world' → view world' = view world

/-- A program leaves a part of the world alone, whether it fails or not. -/
structure Keeps (view : World → γ) (p : Program α) : Prop where
  ok ⦃world : World⦄ ⦃a : α⦄ ⦃world' : World⦄ (h : p.run world = .ok a world') :
    view world' = view world
  failsKeeping : FailsKeeping view p

/-- A program that leaves the world alone leaves every part of it alone. -/
lemma Keeps.part (h : Keeps id p) (view : World → γ) : Keeps view p where
  ok _ _ _ hrun := congrArg view (h.ok hrun)
  failsKeeping _ _ _ hrun := congrArg view (h.failsKeeping hrun)

lemma failsKeeping_of_ok {result : World → α} {next : World → World}
    (hrun : ∀ world, p.run world = .ok (result world) (next world)) : FailsKeeping view p := by
  intro world error world' h
  cases (hrun world).symm.trans h

lemma keeps_of_ok {result : World → α} {next : World → World}
    (hrun : ∀ world, p.run world = .ok (result world) (next world))
    (hnext : ∀ world, view (next world) = view world) : Keeps view p where
  ok world _ _ h := by
    cases (hrun world).symm.trans h
    exact hnext world
  failsKeeping := failsKeeping_of_ok hrun

lemma keeps_disk : Keeps id Program.disk :=
  keeps_of_ok (fun _ => run_disk) fun _ => rfl

lemma keeps_throw (error : CommandError) : Keeps id (throw error : Program α) where
  ok _ _ _ h := by cases h
  failsKeeping _ _ _ h := by
    cases h
    rfl

lemma keeps_expect (failure : ε → CommandError) (result : Except ε α) :
    Keeps id (expect failure result) := by
  cases result with
  | ok a => exact keeps_of_ok (fun _ => run_expect_ok a) fun _ => rfl
  | error e => exact keeps_throw (failure e)

/-- What the first part of a program leaves alone is as it was when the program fails, provided that
the second part, if it is the one that fails, leaves it alone as well. -/
lemma Keeps.failsKeeping_bind (hp : Keeps view p) (hf : ∀ a, FailsKeeping view (f a)) :
    FailsKeeping view (p >>= f) := by
  intro world error world' h
  cases hrun : p.run world with
  | ok a world₁ =>
    rw [run_bind_of_ok hrun] at h
    exact (hf a h).trans (hp.ok hrun)
  | error error' world₁ =>
    rw [run_bind_of_error hrun] at h
    cases h
    exact hp.failsKeeping hrun

lemma Keeps.bind (hp : Keeps view p) (hf : ∀ a, Keeps view (f a)) : Keeps view (p >>= f) := by
  refine ⟨fun world b world' h => ?_, hp.failsKeeping_bind fun a => (hf a).failsKeeping⟩
  cases hrun : p.run world with
  | ok a world₁ =>
    rw [run_bind_of_ok hrun] at h
    exact ((hf a).ok h).trans (hp.ok hrun)
  | error error world₁ =>
    rw [run_bind_of_error hrun] at h
    cases h

/-- A program only reports: it leaves the disk alone, and prints nothing if it fails. -/
structure Reports (p : Program α) : Prop where
  disk    : Keeps World.disk p
  printed : FailsKeeping World.printed p

lemma reports_print (text : String) : Reports (print text) where
  disk    := keeps_of_ok (fun _ => run_print text) fun _ => rfl
  printed := failsKeeping_of_ok fun _ => run_print text

lemma Keeps.reports (h : Keeps id p) : Reports p :=
  ⟨h.part _, (h.part _).failsKeeping⟩

/-- Nothing has been printed by a program up to its report. -/
lemma Keeps.reports_bind (hp : Keeps id p) (hf : ∀ a, Reports (f a)) : Reports (p >>= f) where
  disk    := (hp.part _).bind fun a => (hf a).disk
  printed := (hp.part _).failsKeeping_bind fun a => (hf a).printed

end Program

open Program

/-! ### What a command leaves alone -/

/-- What a command prints first is all that has been printed. -/
lemma OutputOptions.run_present (o : OutputOptions) (json : Json) (lines : String) :
    (o.present json lines).run { disk } = .ok () ⟨disk, o.render json lines⟩ := by
  rw [present, Program.run_print, String.empty_append]

lemma OutputOptions.reports_present (o : OutputOptions) (json : Json) (lines : String) :
    Reports (o.present json lines) :=
  reports_print _

lemma Search.reports_execute (s : Search) (o : OutputOptions) (c : Config) :
    Reports (s.execute o c) := by
  refine (keeps_expect _ _).reports_bind fun query => ?_
  refine (keeps_expect _ _).reports_bind fun path => ?_
  refine keeps_disk.reports_bind fun disk => ?_
  refine (keeps_expect _ _).reports_bind fun records => ?_
  exact o.reports_present _ _

namespace Environment

lemma reports_showConfig (env : Environment) (o : OutputOptions) (colours : Bool) :
    Reports (env.showConfig o colours) := by
  refine keeps_disk.reports_bind fun disk => ?_
  refine (keeps_expect _ _).reports_bind fun config => ?_
  refine (keeps_expect _ _).reports_bind fun path => ?_
  exact o.reports_present _ _

lemma reports_showConfigPath (env : Environment) (o : OutputOptions) :
    Reports (env.showConfigPath o) := by
  refine (keeps_expect _ _).reports_bind fun path => ?_
  refine keeps_disk.reports_bind fun disk => ?_
  exact OutputOptions.reports_present _ _ _

end Environment

namespace Invocation

variable {i : Invocation}

/-- A command that makes no setting only reports. -/
lemma reports_execute (h : ∀ key value, i.command ≠ .setConfig key value) :
    Reports (i.execute env c) := by
  obtain ⟨o, command⟩ := i
  cases command with
  | greet => exact reports_print _
  | search s => exact s.reports_execute o c
  | check filter => exact (keeps_expect _ _).reports_bind fun query => o.reports_present _ _
  | listKeys => exact o.reports_present _ _
  | showConfig => exact env.reports_showConfig o _
  | showConfigPath => exact env.reports_showConfigPath o
  | setConfig key value => exact absurd rfl (h key value)
  | complete shell => exact (keeps_of_ok (fun _ => rfl) fun _ => rfl : Keeps id (pure ())).reports

lemma run_of_loads (i : Invocation) (h : env.Loads world.disk c) :
    (i.run env).run world = (i.execute env c).run world := by
  rw [Invocation.run, run_bind_of_ok run_disk, h.config]

/-- A command that needs settings fails without them. -/
lemma run_of_failsToLoad (h : env.FailsToLoad world.disk e) (hneeds : i.command.needsConfig) :
    (i.run env).run world = .error (.config e) world := by
  rw [Invocation.run, run_bind_of_ok run_disk, h.config]
  simp only [hneeds]
  rfl

/-- To a command that needs no settings those that cannot be loaded are as good as none. -/
lemma run_of_not_needsConfig (h : env.FailsToLoad world.disk e)
    (hneeds : i.command.needsConfig = false) :
    (i.run env).run world = (i.execute env {}).run world := by
  rw [Invocation.run, run_bind_of_ok run_disk, h.config]
  simp only [hneeds]
  rfl

/-- A run either carries its command out under some settings or fails at once for want of them. -/
lemma exists_run (i : Invocation) (env : Environment) (world : World) :
    (∃ c, (i.run env).run world = (i.execute env c).run world) ∨
      ∃ e, i.command.needsConfig ∧ (i.run env).run world = .error (.config e) world := by
  rcases env.loads_or_failsToLoad world.disk with ⟨c, hc⟩ | ⟨e, he⟩
  · exact .inl ⟨c, i.run_of_loads hc⟩
  · cases hneeds : i.command.needsConfig with
    | true => exact .inr ⟨e, rfl, run_of_failsToLoad he hneeds⟩
    | false => exact .inl ⟨{}, run_of_not_needsConfig he hneeds⟩

/-- A run that makes no setting only reports. -/
lemma reports_run (h : ∀ key value, i.command ≠ .setConfig key value) : Reports (i.run env) := by
  refine keeps_disk.reports_bind fun disk => ?_
  split
  · exact reports_execute h
  · split
    · exact (keeps_throw _).reports
    · exact reports_execute h

end Invocation

/-- The run of a command line is that of the command that it is read as. -/
lemma runArguments_eq_ofResult {i : Invocation} (h : Invocation.parse arguments = .ok i) :
    runArguments env disk arguments =
      Outcome.ofResult i.options.json ((i.run env).run { disk }) := by
  rw [runArguments, h]

lemma runArguments_of_loads (h : Invocation.parse arguments = .ok ⟨o, command⟩)
    (hc : env.Loads disk c) :
    runArguments env disk arguments =
      Outcome.ofResult o.json ((Invocation.execute ⟨o, command⟩ env c).run { disk }) := by
  rw [runArguments_eq_ofResult h, Invocation.run_of_loads _ hc]

lemma runArguments_of_failsToLoad (h : Invocation.parse arguments = .ok ⟨o, command⟩)
    (hneeds : command.needsConfig) (he : env.FailsToLoad disk e) :
    runArguments env disk arguments =
      (disk, .failed (.config e) ⟨"", (CommandError.config e).report o.json⟩) := by
  rw [runArguments_eq_ofResult h, Invocation.run_of_failsToLoad he hneeds]
  rfl

end DemoQuery
