import DemoQuery.Proofs.Config.RoundTrip
import DemoQuery.Proofs.Disk.Writing
import DemoQuery.Proofs.Run.Execution

/-!
# What one run changes

A run leaves the disk alone unless it sets out to make a setting. If it makes one, the file of the
settings has changed and nothing else; if it cannot write it down, directories may have been made on
the way to the place of the settings.
-/

namespace DemoQuery

variable {env : Environment} {disk disk' : Disk} {c : Config} {path key value : String}
variable {arguments : List String} {o : OutputOptions} {command : Command}
variable {new : Option (String × String)}

/-! ### Changes of the disk -/

/-- The setting that a run makes, if it makes one: what a command to set it is given, provided that
the run succeeds. -/
def Environment.settingMade? (env : Environment) (disk : Disk) (arguments : List String) :
    Option (String × String) :=
  match Invocation.parse arguments with
  | .ok ⟨_, .setConfig key value⟩ =>
    if (runArguments env disk arguments).2.exitCode = 0 then some (key, value) else none
  | _                             => none

lemma runArguments_setConfig (h : Invocation.parse arguments = .ok ⟨o, .setConfig key value⟩)
    (hpath : env.configPath? = some path) (hc : env.Loads disk c) :
    runArguments env disk arguments =
      match Setting.ofPair key value with
      | .error e    => (disk, .failed (.config e) ⟨"", (CommandError.config e).report o.json⟩)
      | .ok setting =>
        match disk.write path ⟨.text (c.set setting).text, disk.clock⟩ with
        | (disk, none)         =>
          (disk, .done (o.render (Report.changeJson path key value) (Report.changeText key value)))
        | (disk, some failure) =>
          (disk, .failed (.config (.unwritable failure))
            ⟨"", (CommandError.config (.unwritable failure)).report o.json⟩) := by
  rw [runArguments_of_loads h hc]
  simp only [Invocation.execute, Environment.setConfig]
  rw [Program.run_bind_of_ok Program.run_disk, hc.config,
    Program.run_bind_of_ok (Program.run_expect_ok c), Environment.configPath, hpath,
    Program.run_bind_of_ok (Program.run_expect_ok path)]
  cases Setting.ofPair key value with
  | error e => rw [Program.run_bind_of_error (Program.run_expect_error e)]; rfl
  | ok setting =>
    rw [Program.run_bind_of_ok (Program.run_expect_ok setting),
      Program.run_bind_of_ok (Program.run_changeDisk _), Config.save]
    simp only
    obtain ⟨disk', _ | failure⟩ := disk.write path ⟨.text (c.set setting).text, disk.clock⟩
    · simp only
      rw [Program.run_bind_of_ok (Program.run_expect_ok ()), OutputOptions.run_present]
      rfl
    · simp only
      rw [Program.run_bind_of_error (Program.run_expect_error _)]
      rfl

/-- A command that makes no setting leaves the disk alone. -/
lemma runArguments_fst (h : Invocation.parse arguments = .ok ⟨o, command⟩)
    (hcommand : ∀ key value, command ≠ .setConfig key value) :
    (runArguments env disk arguments).1 = disk := by
  have hreports : Program.Reports (Invocation.run ⟨o, command⟩ env) :=
    Invocation.reports_run hcommand
  rw [runArguments_eq_ofResult h]
  cases hrun : (Invocation.run ⟨o, command⟩ env).run { disk } with
  | ok a world => exact hreports.disk.ok hrun
  | error error world => exact hreports.disk.failsKeeping hrun

/-- What a run does to a disk: nothing, unless it makes a setting or fails to write one down. -/
inductive Environment.Changes (env : Environment) (disk : Disk) :
    Option (String × String) → Disk → Prop
  | nothing : Changes env disk none disk
  | made {path key value : String} {c : Config} {setting : Setting} {disk' : Disk}
      (hpath : env.configPath? = some path) (hc : env.Loads disk c)
      (hsetting : Setting.ofPair key value = .ok setting)
      (hwrite : disk.write path ⟨.text (c.set setting).text, disk.clock⟩ = (disk', none)) :
      Changes env disk (some (key, value)) disk'
  | unwritten {path : String} {c : Config} {file : File} {disk' : Disk}
      {failure : Disk.WriteFailure} (hpath : env.configPath? = some path) (hc : env.Loads disk c)
      (hwrite : disk.write path file = (disk', some failure)) : Changes env disk none disk'

lemma changes_of_setConfig (h : Invocation.parse arguments = .ok ⟨o, .setConfig key value⟩) :
    env.Changes disk (env.settingMade? disk arguments) (runArguments env disk arguments).1 := by
  rw [Environment.settingMade?, h]
  simp only
  rcases env.loads_or_failsToLoad disk with ⟨c, hc⟩ | ⟨e, he⟩
  · obtain ⟨path, hpath⟩ := hc.exists_path
    have hrun := runArguments_setConfig h hpath hc
    cases hsetting : Setting.ofPair key value with
    | error e =>
      rw [hrun, hsetting]
      exact .nothing
    | ok setting =>
      obtain ⟨⟨disk', failure⟩, hwrite⟩ :
          ∃ result, disk.write path ⟨.text (c.set setting).text, disk.clock⟩ = result := ⟨_, rfl⟩
      rw [hsetting] at hrun
      simp only [hwrite] at hrun
      cases failure with
      | none =>
        rw [hrun]
        exact .made hpath hc hsetting hwrite
      | some failure =>
        rw [hrun]
        exact .unwritten hpath hc hwrite
  · rw [runArguments_of_failsToLoad h rfl he]
    exact .nothing

lemma changes_runArguments (env : Environment) (disk : Disk) (arguments : List String) :
    env.Changes disk (env.settingMade? disk arguments) (runArguments env disk arguments).1 := by
  cases h : Invocation.parse arguments with
  | error e =>
    rw [Environment.settingMade?, runArguments, h]
    exact .nothing
  | ok i =>
    obtain ⟨o, command⟩ := i
    by_cases hcommand : ∃ key value, command = .setConfig key value
    · obtain ⟨key, value, rfl⟩ := hcommand
      exact changes_of_setConfig h
    · have hnot : ∀ key value, command ≠ .setConfig key value := fun key value heq =>
        hcommand ⟨key, value, heq⟩
      have hnone : env.settingMade? disk arguments = none := by
        rw [Environment.settingMade?, h]
        split
        · next heq =>
          cases heq
          exact absurd rfl (hnot _ _)
        · rfl
      rw [hnone, runArguments_fst h hnot]
      exact .nothing

/-- A run changes at most one file, and only if it makes a setting: the file of the settings. -/
lemma Environment.Changes.contentsAt (h : env.Changes disk new disk') :
    (∀ place, disk'.contentsAt place = disk.contentsAt place) ∨
      new.isSome ∧ ∃ path place, env.configPath? = some path ∧ disk'.place? path = some place ∧
        ∀ other, other ≠ place → disk'.contentsAt other = disk.contentsAt other := by
  cases h with
  | nothing => exact .inl fun _ => rfl
  | @made path _ _ _ _ _ hpath _ _ hwrite =>
    obtain ⟨place, hplace, -, hother⟩ := Disk.exists_place_of_write hwrite
    exact .inr ⟨rfl, path, place, hpath, hplace, hother⟩
  | unwritten _ _ hwrite => exact .inl (Disk.grows_of_write hwrite).contentsAt

lemma Environment.Changes.wellFormed (h : env.Changes disk new disk') (hdisk : disk.WellFormed) :
    disk'.WellFormed := by
  cases h with
  | nothing => exact hdisk
  | made _ _ _ hwrite => exact hdisk.of_write hwrite
  | unwritten _ _ hwrite => exact hdisk.of_write hwrite

/-! ### Loading after a run -/

lemma Disk.read_of_find?_directory {data : FileData}
    (h : disk.find? path = some (.directory data)) : disk.read path = .error .directory := by
  rw [read, h]

/-- Settings do not load from a directory. -/
lemma Environment.Loads.not_directory {data : FileData} (h : env.Loads disk c)
    (hpath : env.configPath? = some path) : disk.find? path ≠ some (.directory data) := by
  intro hfind
  exact h.not_failsToLoad
    (.unreadable hpath (Disk.has_of_find? hfind) (Disk.read_of_find?_directory hfind))

/-- Settings that have been written down load. -/
lemma Environment.loads_of_write {clock : Int} (hpath : env.configPath? = some path)
    (hwrite : disk.write path ⟨.text c.text, clock⟩ = (disk', none)) : env.Loads disk' c := by
  have hread : disk'.read path = .ok c.text := by
    rw [Disk.read, Disk.find?_of_written hwrite]
    rfl
  exact .kept hpath hread c.parse?_text

/-- Where settings could not be written down, they load as before; or they load no longer since
their path, which led nowhere and goes back, leads to a directory. -/
lemma Environment.Loads.of_unwritten {file : File} {failure : Disk.WriteFailure}
    (h : env.Loads disk c) (hdisk : disk.WellFormed) (hpath : env.configPath? = some path)
    (hwrite : disk.write path file = (disk', some failure)) :
    env.Loads disk' c ∨
      (".." ∈ Path.steps path ∧ ¬ disk.has path) ∧
        env.FailsToLoad disk' (.unreadable .directory) := by
  have hgrows := Disk.grows_of_write hwrite
  rcases Disk.find?_of_write hdisk hwrite with rfl | hnone | ⟨⟨data, hdata⟩, hback⟩
  · exact .inl h
  · have hnone' := Disk.not_has_of_find? hnone
    have hbefore : ¬ disk.has path := by
      intro hthere
      rw [Disk.has, ← hgrows.find? hthere] at hthere
      exact hnone' hthere
    rw [h.eq_of_not_has hpath hbefore]
    exact .inl (.absent hpath hnone')
  · have hbefore : ¬ disk.has path := by
      intro hthere
      exact h.not_directory hpath ((hgrows.find? hthere).symm.trans hdata)
    exact .inr ⟨⟨hback.resolve_right hbefore, hbefore⟩,
      .unreadable hpath (Disk.has_of_find? hdata) (Disk.read_of_find?_directory hdata)⟩

end DemoQuery
