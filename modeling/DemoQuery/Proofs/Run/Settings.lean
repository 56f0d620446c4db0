import DemoQuery.Proofs.Config.Setting
import DemoQuery.Proofs.Run.Changes

/-!
# Settings over many runs

Only a run that makes a setting changes a file, and the settings that later runs load are the first
ones with those made since. One thing remains of a run that fails to make a setting: directories on
the way to the place of the settings. They matter only if the path of the settings goes back: it may
lead to a directory then, which is no place for settings.
-/

namespace DemoQuery

variable {env : Environment} {disk after disk' : Disk} {key value : String}
variable {made : List (String × String)} {new : Option (String × String)}
variable {arguments : List String} {o : OutputOptions}

/-! ### Runs one after the other -/

/-- `env.Reaches disk made after`: runs that start from `disk` lead to the disk `after`, and `made`
are the settings that they make, in their order. -/
inductive Environment.Reaches (env : Environment) (disk : Disk) :
    List (String × String) → Disk → Prop
  | start : Reaches env disk [] disk
  | run {made : List (String × String)} {after : Disk} (h : Reaches env disk made after)
      (arguments : List String) :
      Reaches env disk (made ++ (env.settingMade? after arguments).toList)
        (runArguments env after arguments).1

/-- What is kept up by every run: either settings load, namely the first ones with those made since,
or none have loaded from the start and nothing has been done, or directories are in the way. -/
inductive Environment.Kept (env : Environment) (disk : Disk) (made : List (String × String))
    (after : Disk) : Prop
  | loads {c : Config} (hbefore : env.Loads disk c) (hafter : env.Loads after (c.withMade made))
      (hthere : ∀ path, env.configPath? = some path → ¬ after.has path →
        ¬ disk.has path ∧ made = [])
  | fails {e : ConfigError} (he : env.FailsToLoad disk e) (hmade : made = [])
      (hafter : after = disk)
  | inTheWay {path : String} (hpath : env.configPath? = some path)
      (hback : ".." ∈ Path.steps path) (hbefore : ¬ disk.has path) (hmade : made = [])
      (hafter : env.FailsToLoad after (.unreadable .directory))

lemma Environment.kept_start (env : Environment) (disk : Disk) : env.Kept disk [] disk := by
  rcases env.loads_or_failsToLoad disk with ⟨c, hc⟩ | ⟨e, he⟩
  · exact .loads hc (by simpa using hc) fun _ _ hnone => ⟨hnone, rfl⟩
  · exact .fails he rfl rfl

/-- Settings that have loaded before a run load after it, with what the run has made. -/
lemma Environment.Kept.changes (h : env.Kept disk made after) (hafter : after.WellFormed)
    (hchanges : env.Changes after new disk') : env.Kept disk (made ++ new.toList) disk' := by
  cases hchanges with
  | nothing => simpa using h
  | @made path key value c' setting _ hpath hc hsetting hwrite =>
    cases h with
    | @loads c hbefore hafter hthere =>
      obtain rfl := hc.unique hafter
      have hloads := loads_of_write hpath hwrite
      rw [← Config.withMade_append hsetting] at hloads
      refine .loads hbefore hloads fun path' hpath' hnone => absurd ?_ hnone
      obtain rfl := Option.some.inj (hpath.symm.trans hpath')
      exact Disk.has_of_find? (Disk.find?_of_written hwrite)
    | fails he _ hdisk => exact absurd he (hdisk ▸ hc).not_failsToLoad
    | inTheWay _ _ _ _ hfails => exact absurd hfails hc.not_failsToLoad
  | @unwritten path c' file _ failure hpath hc hwrite =>
    rw [Option.toList_none, List.append_nil]
    cases h with
    | @loads c hbefore hloads hthere =>
      obtain rfl := hc.unique hloads
      rcases hc.of_unwritten hafter hpath hwrite with hloads' | ⟨⟨hback, hnone⟩, hfails⟩
      · refine .loads hbefore hloads' fun path' hpath' hnone =>
          hthere path' hpath' fun hhas => hnone ?_
        rwa [Disk.has, (Disk.grows_of_write hwrite).find? hhas]
      · obtain ⟨hnone', hmade⟩ := hthere path hpath hnone
        exact .inTheWay hpath hback hnone' hmade hfails
    | fails he _ hdisk => exact absurd he (hdisk ▸ hc).not_failsToLoad
    | inTheWay _ _ _ _ hfails => exact absurd hfails hc.not_failsToLoad

lemma Environment.Reaches.wellFormed (h : env.Reaches disk made after) (hdisk : disk.WellFormed) :
    after.WellFormed := by
  induction h with
  | start => exact hdisk
  | run _ arguments ih => exact (changes_runArguments env _ arguments).wellFormed ih

lemma Environment.Reaches.kept (h : env.Reaches disk made after) (hdisk : disk.WellFormed) :
    env.Kept disk made after := by
  induction h with
  | start => exact env.kept_start disk
  | run h arguments ih =>
    exact ih.changes (h.wellFormed hdisk) (changes_runArguments env _ arguments)

/-- A setting that cannot be asked for, or asked for without settings, leaves the disk alone. -/
lemma runArguments_of_not_made (h : Invocation.parse arguments = .ok ⟨o, .setConfig key value⟩)
    (hno : key ∉ ["records", "demo_dir", "output.color"] ∨
      key = "output.color" ∧ readBoolean? value = none ∨ ∃ e, env.config after = .error e) :
    (runArguments env after arguments).1 = after ∧
      (runArguments env after arguments).2.exitCode = 5 := by
  rcases env.loads_or_failsToLoad after with ⟨c, hc⟩ | ⟨e, he⟩
  · obtain ⟨path, hpath⟩ := hc.exists_path
    cases hsetting : Setting.ofPair key value with
    | error e =>
      rw [runArguments_setConfig h hpath hc, hsetting]
      exact ⟨rfl, rfl⟩
    | ok setting =>
      exfalso
      rcases hno with hkey | ⟨hkey, hvalue⟩ | ⟨e, he⟩
      · cases Setting.asked_of_ofPair hsetting <;> exact hkey (by decide)
      · cases Setting.asked_of_ofPair hsetting with
        | records value => exact absurd hkey (by decide)
        | demoDirectory value => exact absurd hkey (by decide)
        | colour hon =>
          rw [hvalue] at hon
          cases hon
      · cases hc.config.symm.trans he
  · rw [runArguments_of_failsToLoad h rfl he]
    exact ⟨rfl, rfl⟩

/-- After any runs on a sandbox: the next one changes at most the file of the settings, and only if
it makes a setting; one that cannot be made leaves the disk alone; none are made if the first do not
load; and those that load are the first ones with the ones made since, unless their path goes back
and nothing has been there. -/
theorem settings_after_runs (hdisk : disk.IsSandbox) (h : env.Reaches disk made after) :
    (∀ arguments place,
      (runArguments env after arguments).1.contentsAt place ≠ after.contentsAt place →
        (env.settingMade? after arguments).isSome ∧ ∃ path, env.configPath? = some path ∧
          (runArguments env after arguments).1.place? path = some place) ∧
      (∀ arguments o key value,
        Invocation.parse arguments = .ok ⟨o, .setConfig key value⟩ →
        (key ∉ ["records", "demo_dir", "output.color"] ∨
          key = "output.color" ∧ readBoolean? value = none ∨
          ∃ e, env.config after = .error e) →
        (runArguments env after arguments).1 = after ∧
          (runArguments env after arguments).2.exitCode = 5) ∧
      (∀ e, env.config disk = .error e → made = [] ∧ after = disk) ∧
      (env.config after = (env.config disk).map (·.withMade made) ∨
        ∃ path, env.configPath? = some path ∧ ".." ∈ Path.steps path ∧ ¬ disk.has path ∧
          made = [] ∧ env.config after = .error (.unreadable .directory)) := by
  have hkept := h.kept hdisk.wellFormed
  refine ⟨fun arguments place hcontents => ?_, fun _ _ _ _ => runArguments_of_not_made,
    fun e he => ?_, ?_⟩
  · rcases (changes_runArguments env after arguments).contentsAt with
      hsame | ⟨hmade, path, place', hpath, hplace, hother⟩
    · exact absurd (hsame place) hcontents
    · have heq : place = place' := by
        by_contra hne
        exact hcontents (hother place hne)
      exact ⟨hmade, path, hpath, heq ▸ hplace⟩
  · have hfails := Environment.config_eq_error_iff.1 he
    cases hkept with
    | loads hbefore _ _ => exact absurd hfails hbefore.not_failsToLoad
    | fails _ hmade hafter => exact ⟨hmade, hafter⟩
    | inTheWay hpath _ hnone _ _ =>
      exact absurd hfails (Environment.Loads.absent hpath hnone).not_failsToLoad
  · cases hkept with
    | loads hbefore hafter _ => exact .inl (by rw [hbefore.config, hafter.config]; rfl)
    | fails he _ hafter => exact .inl (by rw [hafter, he.config]; rfl)
    | inTheWay hpath hback hnone hmade hafter =>
      exact .inr ⟨_, hpath, hback, hnone, hmade, hafter.config⟩

/-- One setting is refused and another made beside the one that has been written down before. -/
theorem settings_after_runs_refused_and_made :
    ∃ after, Environment.Reaches ⟨some "c.toml", none, none⟩
        (Disk.write {} "c.toml" ⟨.text "records = 'a'", 0⟩).1 [("demo_dir", "d")] after ∧
      Environment.config ⟨some "c.toml", none, none⟩ after = .ok ⟨some "a", some "d", none⟩ ∧
      (runArguments ⟨some "c.toml", none, none⟩ after ["config", "set", "colour", "on"]).1 =
        after := by
  have hrefused : Environment.settingMade? ⟨some "c.toml", none, none⟩
      (Disk.write {} "c.toml" ⟨.text "records = 'a'", 0⟩).1
      ["config", "set", "output.color", "maybe"] = none := by
    decide +kernel
  have hmade : Environment.settingMade? ⟨some "c.toml", none, none⟩
      (runArguments ⟨some "c.toml", none, none⟩
        (Disk.write {} "c.toml" ⟨.text "records = 'a'", 0⟩).1
        ["config", "set", "output.color", "maybe"]).1
      ["config", "set", "demo_dir", "d"] = some ("demo_dir", "d") := by
    decide +kernel
  have hbefore : Environment.config ⟨some "c.toml", none, none⟩
      (Disk.write {} "c.toml" ⟨.text "records = 'a'", 0⟩).1 = .ok ⟨some "a", none, none⟩ := by
    decide +kernel
  have hstart : Environment.Reaches ⟨some "c.toml", none, none⟩
      (Disk.write {} "c.toml" ⟨.text "records = 'a'", 0⟩).1 []
      (Disk.write {} "c.toml" ⟨.text "records = 'a'", 0⟩).1 := .start
  have hreaches := (hstart.run ["config", "set", "output.color", "maybe"]).run
    ["config", "set", "demo_dir", "d"]
  rw [hrefused, hmade] at hreaches
  have hparse : Invocation.parse ["config", "set", "colour", "on"] =
      .ok ⟨{}, .setConfig "colour" "on"⟩ := rfl
  obtain ⟨-, hrefuses, -, hloads⟩ := settings_after_runs (.write (.empty 0) _ _) hreaches
  refine ⟨_, hreaches, ?_, (hrefuses _ _ _ _ hparse (.inl (by decide))).1⟩
  rcases hloads with hloads | ⟨path, hpath, hback, -⟩
  · rw [hloads, hbefore]
    rfl
  · obtain rfl := Option.some.inj hpath
    exact absurd hback (by decide +kernel)

/-- A run that fails to make a setting can leave a directory behind through which the path of the
settings leads to the working directory. -/
theorem settings_after_runs_in_the_way :
    Disk.IsSandbox {} ∧
      Environment.Reaches ⟨some "d/..", none, none⟩ {} []
        (runArguments ⟨some "d/..", none, none⟩ {} ["config", "set", "records", "x"]).1 ∧
      Environment.config ⟨some "d/..", none, none⟩ {} = .ok {} ∧
      Environment.config ⟨some "d/..", none, none⟩
        (runArguments ⟨some "d/..", none, none⟩ {} ["config", "set", "records", "x"]).1 =
          .error (.unreadable .directory) := by
  have hunmade : Environment.settingMade? ⟨some "d/..", none, none⟩ {}
      ["config", "set", "records", "x"] = none := by
    decide +kernel
  have hstart : Environment.Reaches ⟨some "d/..", none, none⟩ {} [] {} := .start
  have hreaches := hstart.run ["config", "set", "records", "x"]
  rw [hunmade] at hreaches
  exact ⟨.empty 0, hreaches, by decide +kernel, by decide +kernel⟩

end DemoQuery
