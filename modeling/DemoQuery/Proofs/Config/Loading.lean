import DemoQuery.Environment
import DemoQuery.Proofs.Failure

/-!
# Loading the settings

When a run loads settings and which, and when and why it does not: each outcome once, with all that
leads to it.
-/

namespace DemoQuery

variable {env : Environment} {disk : Disk} {path : String} {c : Config} {e : ConfigError}

/-! ### Reading a disk -/

lemma Disk.has_of_find? {node : Node} (h : disk.find? path = some node) : disk.has path := by
  rw [has, h]
  rfl

lemma Disk.not_has_of_find? (h : disk.find? path = none) : ¬ disk.has path := by
  rw [has, h]
  decide

lemma Disk.has_of_read_eq_ok {text : String} (h : disk.read path = .ok text) : disk.has path := by
  unfold read at h
  unfold has
  split at h <;> simp_all

/-! ### Loading -/

/-- `env.Loads disk c`: the settings are `c`, which is what is written at their place, or no
settings if nothing is there. -/
inductive Environment.Loads (env : Environment) (disk : Disk) : Config → Prop
  | absent {path : String} (hpath : env.configPath? = some path) (h : ¬ disk.has path) :
      Loads env disk {}
  | kept {path text : String} {c : Config} (hpath : env.configPath? = some path)
      (hread : disk.read path = .ok text) (h : Config.parse? text = some c) : Loads env disk c

/-- `env.FailsToLoad disk e`: there are no settings because of `e`. Either nothing tells their
place, or something is there which is no text or not the text of settings. -/
inductive Environment.FailsToLoad (env : Environment) (disk : Disk) : ConfigError → Prop
  | noPlace (h : env.configPath? = none) : FailsToLoad env disk .noPlace
  | unreadable {path : String} {failure : Disk.ReadFailure}
      (hpath : env.configPath? = some path) (hthere : disk.has path)
      (hread : disk.read path = .error failure) : FailsToLoad env disk (.unreadable failure)
  | malformed {path text : String} (hpath : env.configPath? = some path)
      (hread : disk.read path = .ok text) (h : Config.parse? text = none) :
      FailsToLoad env disk .malformed

lemma Environment.config_of_configPath? (hpath : env.configPath? = some path) :
    env.config disk = Config.load disk path := by
  simp [config, configPath, hpath, bind, Except.bind]

lemma Environment.Loads.config (h : env.Loads disk c) : env.config disk = .ok c := by
  cases h with
  | absent hpath h => rw [config_of_configPath? hpath, Config.load, if_neg h]
  | kept hpath hread h =>
    rw [config_of_configPath? hpath, Config.load, if_pos (Disk.has_of_read_eq_ok hread), hread]
    simp [h]

lemma Environment.FailsToLoad.config (h : env.FailsToLoad disk e) : env.config disk = .error e := by
  cases h with
  | noPlace h => simp [Environment.config, configPath, h, bind, Except.bind]
  | unreadable hpath hthere hread =>
    rw [config_of_configPath? hpath, Config.load, if_pos hthere, hread]
  | malformed hpath hread h =>
    rw [config_of_configPath? hpath, Config.load, if_pos (Disk.has_of_read_eq_ok hread), hread]
    simp [h]

/-- A run loads settings, or there is a reason why it does not. -/
lemma Environment.loads_or_failsToLoad (env : Environment) (disk : Disk) :
    (∃ c, env.Loads disk c) ∨ ∃ e, env.FailsToLoad disk e := by
  cases hpath : env.configPath? with
  | none => exact .inr ⟨_, .noPlace hpath⟩
  | some path =>
    by_cases hthere : disk.has path
    · cases hread : disk.read path with
      | error failure => exact .inr ⟨_, .unreadable hpath hthere hread⟩
      | ok text =>
        cases h : Config.parse? text with
        | none => exact .inr ⟨_, .malformed hpath hread h⟩
        | some c => exact .inl ⟨c, .kept hpath hread h⟩
    · exact .inl ⟨{}, .absent hpath hthere⟩

lemma Environment.config_eq_error_iff : env.config disk = .error e ↔ env.FailsToLoad disk e := by
  refine ⟨fun h => ?_, FailsToLoad.config⟩
  rcases env.loads_or_failsToLoad disk with ⟨c, hc⟩ | ⟨e', he⟩
  · cases hc.config.symm.trans h
  · obtain rfl := Except.error.inj (he.config.symm.trans h)
    exact he

lemma Environment.Loads.unique {c' : Config} (h : env.Loads disk c) (h' : env.Loads disk c') :
    c = c' :=
  Except.ok.inj (h.config.symm.trans h'.config)

lemma Environment.Loads.not_failsToLoad (h : env.Loads disk c) : ¬ env.FailsToLoad disk e := by
  intro he
  cases h.config.symm.trans he.config

lemma Environment.Loads.eq_of_not_has (h : env.Loads disk c) (hpath : env.configPath? = some path)
    (hnone : ¬ disk.has path) : c = {} :=
  h.unique (.absent hpath hnone)

lemma Environment.Loads.exists_path (h : env.Loads disk c) :
    ∃ path, env.configPath? = some path := by
  cases h with
  | absent hpath _ => exact ⟨_, hpath⟩
  | kept hpath _ _ => exact ⟨_, hpath⟩

end DemoQuery
