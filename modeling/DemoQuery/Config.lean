import DemoQuery.Disk
import DemoQuery.Json
import DemoQuery.Text.Reading
import DemoQuery.Toml
import DemoQuery.Toml.Reader

/-!
# Settings

What the user has settled for every run: a file of records, a directory of demos, and whether to
use colours. A setting is made by a key and a value, and the last one made for a key counts.

The settings are kept as a TOML document. Keys that are no settings are ignored, but a key of the
settings has to have a value of its kind.
-/

namespace DemoQuery

/-- The settings; what is not set is left to the program. -/
structure Config where
  records       : Option String := none
  demoDirectory : Option String := none
  colour        : Option Bool := none
  deriving DecidableEq, Repr

/-- One setting. -/
inductive Setting where
  | records (path : String)
  | demoDirectory (path : String)
  | colour (on : Bool)
  deriving DecidableEq, Repr

/-! ### Errors -/

/-- Why the settings cannot be used, read or changed. -/
inductive ConfigError where
  /-- Nothing tells where the settings are kept. -/
  | noPlace
  | unreadable (failure : Disk.ReadFailure)
  /-- The file of the settings does not hold settings. -/
  | malformed
  | unwritable (failure : Disk.WriteFailure)
  | unknownKey (key : String)
  | notBoolean (value : String)
  /-- No file of records is set or given. -/
  | noRecords
  deriving DecidableEq, Repr

/-- The wording of a failure to write the settings. -/
def Disk.WriteFailure.message : Disk.WriteFailure → String
  | .directories => "Failed to create config directory: no directory can be at its place"
  | .file        => "Failed to write config: no file can be at its place"

/-- What the user is told. -/
def ConfigError.message : ConfigError → String
  | .noPlace            => "Could not determine config directory"
  | .unreadable failure => "Failed to read config: " ++ failure.message
  | .malformed          => "Failed to parse config: these are no settings"
  | .unwritable failure => failure.message
  | .unknownKey key     =>
    "Unknown config key '" ++ key ++ "'. Valid keys: records, demo_dir, output.color"
  | .notBoolean value   =>
    "Invalid boolean value '" ++ value ++ "'. Use true/false, yes/no, 1/0, or on/off"
  | .noRecords          => "No records file. Use --records or 'dmf config set records <path>'"

/-! ### Settings -/

/-- The truth value that a text means, whatever the case of its letters (`parse_bool`). -/
def readBoolean? (value : String) : Option Bool :=
  let word := String.ofList (Text.lower value.toList)
  if word ∈ ["true", "yes", "1", "on"] then some true
  else if word ∈ ["false", "no", "0", "off"] then some false
  else none

/-- The setting that a key and a value ask for (`apply_setting`). -/
def Setting.ofPair (key value : String) : Except ConfigError Setting :=
  match key with
  | "records"      => .ok (.records value)
  | "demo_dir"     => .ok (.demoDirectory value)
  | "output.color" =>
    match readBoolean? value with
    | some on => .ok (.colour on)
    | none    => .error (.notBoolean value)
  | _              => .error (.unknownKey key)

/-- The settings with one more made. -/
def Config.set (c : Config) : Setting → Config
  | .records path       => { c with records := some path }
  | .demoDirectory path => { c with demoDirectory := some path }
  | .colour on          => { c with colour := some on }

/-- Whether to use colours, which is so unless it is settled otherwise. -/
def Config.colours (c : Config) : Bool :=
  c.colour.getD true

/-! ### JSON -/

/-- The version of the settings (`CONFIG_VERSION`). -/
def Config.version : Nat := 1

/-- The settings in JSON, by the names of their keys. -/
def Config.json (c : Config) : Json :=
  .record (
    (c.demoDirectory.map fun path => ("demo_dir", Json.text path)).toList ++
    [("output", .record (c.colour.map fun on => ("color", Json.bool on)).toList)] ++
    (c.records.map fun path => ("records", Json.text path)).toList ++
    [("version", .integer Config.version)])

namespace Config

open Toml

/-! ### Writing settings -/

/-- The settings as they are kept. Strings may be quoted otherwise than by other writers of TOML, so
the bytes of the file are not settled here; what is read back from them is. -/
def text (c : Config) : String :=
  pairLine "version" (Text.ofInteger version) ++
    c.records.elim "" (fun path => pairLine "records" (quote path)) ++
    c.demoDirectory.elim "" (fun path => pairLine "demo_dir" (quote path)) ++
    "\n" ++
    headerLine "output" ++
    c.colour.elim "" (fun on => pairLine "color" (booleanWord on))

/-! ### Reading settings -/

/-- What is read from the value of a key, if the key is there. -/
def readEntry? {α : Type} (read : Toml → Option α) (key : String) (entries : Entries) :
    Option (Option α) :=
  match entries.lookup key with
  | none       => some none
  | some entry => (read entry).map some

/-- The text that a value is. -/
def asText? : Toml → Option String
  | .string s => some s
  | _         => none

/-- The truth value that a value is. -/
def asBoolean? : Toml → Option Bool
  | .boolean b => some b
  | _          => none

/-- The version that a value is, a whole number of 32 bits. -/
def asVersion? : Toml → Option Int
  | .integer n => if 0 ≤ n ∧ n ≤ 4294967295 then some n else none
  | _          => none

/-- The settings for the output: a table with a value for the colours, or an array that has it in
front. A date has no such value. -/
def asOutput? : Toml → Option (Option Bool)
  | .table _ entries   => readEntry? asBoolean? "color" entries
  | .array (item :: _) => (asBoolean? item).map some
  | .date              => some none
  | _                  => none

/-- The settings that a document writes down. -/
def ofEntries? (entries : Entries) : Option Config := do
  let _ ← readEntry? asVersion? "version" entries
  let records ← readEntry? asText? "records" entries
  let demoDirectory ← readEntry? asText? "demo_dir" entries
  let output ← readEntry? asOutput? "output" entries
  return ⟨records, demoDirectory, output.join⟩

/-- The settings that a text writes down. -/
def parse? (s : String) : Option Config :=
  (Toml.parse? s).bind ofEntries?

end Config

end DemoQuery
