import DemoQuery.Config

/-!
# Where the settings are kept

The place of the settings follows from the environment of a run: one that is named for them, else
one in the directory of all programs' settings, else one in the user's home. The file need not be
there, which says that nothing is set.
-/

namespace DemoQuery

/-- What the environment of a run says about places. -/
structure Environment where
  /-- Where the settings are, in so many words. -/
  configFile      : Option String := none
  /-- Where the settings of all programs are. -/
  configDirectory : Option String := none
  /-- Where the user's files are. -/
  home            : Option String := none
  deriving DecidableEq, Repr

/-- The directory of the settings of this program, within that of all programs. -/
def programDirectory : String := "dmf"

/-- The name of the file of the settings. -/
def configFileName : String := "config.toml"

/-- The path of the settings in a directory of all programs' settings. -/
def configPathIn (directory : String) : String :=
  Path.join (Path.join directory programDirectory) configFileName

/-- The path of the settings, if the environment tells. -/
def Environment.configPath? (env : Environment) : Option String :=
  match env.configFile, env.configDirectory, env.home with
  | some path, _,              _         => some path
  | none,      some directory, _         => some (configPathIn directory)
  | none,      none,           some home => some (configPathIn (Path.join home ".config"))
  | none,      none,           none      => none

/-- The path of the settings, or that nothing tells it (`get_config_path`). -/
def Environment.configPath (env : Environment) : Except ConfigError String :=
  match env.configPath? with
  | some path => .ok path
  | none      => .error .noPlace

namespace Config

/-- The settings that are kept at a path. Nothing is set if nothing is there. -/
def load (disk : Disk) (path : String) : Except ConfigError Config :=
  if disk.has path then
    match disk.read path with
    | .error failure => .error (.unreadable failure)
    | .ok text       =>
      match parse? text with
      | some config => .ok config
      | none        => .error .malformed
  else .ok {}

/-- The disk with these settings kept at a path, and why they could not be if they are not
(`save_config`). -/
def save (disk : Disk) (path : String) (config : Config) : Disk × Except ConfigError Unit :=
  match disk.write path ⟨.text config.text, disk.clock⟩ with
  | (disk, none)         => (disk, .ok ())
  | (disk, some failure) => (disk, .error (.unwritable failure))

end Config

/-- The settings of a run (`load_config`). -/
def Environment.config (env : Environment) (disk : Disk) : Except ConfigError Config := do
  Config.load disk (← env.configPath)

end DemoQuery
