/-!
# Invocations

What a run is asked to do: a command with all that it is given, and options for the output.
-/

namespace DemoQuery

/-- Options that every command takes (`CommandContext`). -/
structure OutputOptions where
  verbose  : Bool := false
  quiet    : Bool := false
  json     : Bool := false
  noColour : Bool := false
  deriving DecidableEq, Repr

/-- What a search for records is given (`FilterOptions`). What is absent is taken from the
settings. -/
structure Search where
  filter        : String := ""
  records       : Option String := none
  demoDirectory : Option String := none
  limit         : Option Nat := none
  deriving DecidableEq, Repr

/-- A shell for which completions are written. -/
inductive Shell where
  | bash
  | zsh
  | fish
  | powershell
  deriving DecidableEq, Repr

/-- What is to be done (`Dispatch`). -/
inductive Command where
  /-- Say what the program is. -/
  | greet
  /-- List the records that match a filter. -/
  | search (search : Search)
  /-- Explain a filter. -/
  | check (filter : String)
  /-- List the keys of the filter language. -/
  | listKeys
  | showConfig
  | setConfig (key value : String)
  | showConfigPath
  | complete (shell : Shell)
  deriving DecidableEq, Repr

/-- A command with the options for its output (`Cli`). -/
structure Invocation where
  options : OutputOptions := {}
  command : Command := .greet
  deriving DecidableEq, Repr

/-! ### Shells -/

/-- Every shell. -/
def Shell.all : List Shell := [.bash, .zsh, .fish, .powershell]

/-- The name of a shell. -/
def Shell.name : Shell → String
  | .bash       => "bash"
  | .zsh        => "zsh"
  | .fish       => "fish"
  | .powershell => "powershell"

/-- The shell with a name. -/
def Shell.find? (name : String) : Option Shell :=
  Shell.all.find? (·.name == name)

/-! ### Commands -/

/-- Whether a command cannot do without the settings (`needs_config`). -/
def Command.needsConfig : Command → Bool
  | .search _      => true
  | .setConfig _ _ => true
  | _              => false

end DemoQuery
