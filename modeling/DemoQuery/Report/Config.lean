import DemoQuery.Config
import DemoQuery.Json
import DemoQuery.Text.Showing

/-!
# Settings and their changes

The settings and where they are kept, the setting that was made, or the place alone, as lines or as
JSON.
-/

namespace DemoQuery.Report

open Text

/-! ### The settings -/

/-- The line of a setting, if it is made. -/
def settingLine (key : String) (value : Option String) : String :=
  value.elim "" fun value => "  " ++ key ++ ": " ++ value ++ "\n"

/-- The lines of the settings. -/
def settingLines (config : Config) : String :=
  "Settings:\n" ++
    settingLine "records" config.records ++
    settingLine "demo_dir" config.demoDirectory ++
    "\n[output]\n" ++
    settingLine "color" (config.colour.map fun on => if on then "true" else "false")

/-- What is shown in place of the settings if none are kept. -/
def noSettings : String :=
  "(No config file exists. Run 'dmf config set <key> <value>' to create one.)\n"

/-- The settings as lines; `isKept` says whether anything is at their path. -/
def configText (colours : Bool) (path : String) (isKept : Bool) (config : Config) : String :=
  Style.heading.paint colours "Configuration" ++ "\n\n" ++
    "File: " ++ path ++ "\n" ++
    "Exists: " ++ (if isKept then "true" else "false") ++ "\n\n" ++
    if isKept then settingLines config else noSettings

/-- The settings in JSON. -/
def configJson (path : String) (isKept : Bool) (config : Config) : Json :=
  .record [("config", config.json), ("exists", .bool isKept), ("path", .text path)]

/-! ### A setting -/

/-- The line for a setting that was made. -/
def changeText (key value : String) : String :=
  "Set " ++ key ++ " = " ++ value ++ "\n"

/-- A setting that was made, in JSON. -/
def changeJson (path key value : String) : Json :=
  .record [
    ("key", .text key),
    ("path", .text path),
    ("status", .text "success"),
    ("value", .text value)]

/-! ### The place -/

/-- The place of the settings in JSON. -/
def configPathJson (path : String) (isKept : Bool) : Json :=
  .record [("exists", .bool isKept), ("path", .text path)]

end DemoQuery.Report
