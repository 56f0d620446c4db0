/-!
# Levels of a command line

A command line names a command, and maybe a command of that command. Each of these levels has its
own commands, options and places for words, beside the flags that are the same on every level.
-/

namespace DemoQuery.Invocation

/-- An option without a value. -/
inductive Flag where
  | verbose
  | quiet
  | json
  | noColour
  | help
  | version
  deriving DecidableEq, Repr

/-- What takes a value: an option, or a word in its place. -/
inductive Slot where
  | filter
  | records
  | demoDirectory
  | limit
  | key
  | value
  | shell
  deriving DecidableEq, Repr

/-- An option. -/
inductive Switch where
  | flag (flag : Flag)
  | slot (slot : Slot)
  deriving DecidableEq, Repr

/-- How far a command line has named a command. -/
inductive Level where
  | top
  | filter
  | check
  | keys
  | config
  | showConfig
  | setConfig
  | configPath
  | completions
  deriving DecidableEq, Repr

/-- How an option is written: its name, and its letter if it has one. -/
structure Spelling where
  name    : String
  letter? : Option Char
  switch  : Switch
  deriving Repr

/-! ### Options -/

/-- The options of every level. -/
def commonOptions : List Spelling := [
  ⟨"verbose",  some 'v', .flag .verbose⟩,
  ⟨"quiet",    some 'q', .flag .quiet⟩,
  ⟨"json",     none,     .flag .json⟩,
  ⟨"no-color", none,     .flag .noColour⟩,
  ⟨"help",     some 'h', .flag .help⟩,
  ⟨"version",  some 'V', .flag .version⟩]

/-- The options of a level that take a value. -/
def Level.valuedOptions : Level → List Spelling
  | .filter => [
    ⟨"records",  some 'r', .slot .records⟩,
    ⟨"demo-dir", some 'd', .slot .demoDirectory⟩,
    ⟨"limit",    none,     .slot .limit⟩]
  | _       => []

/-- The options of a level. -/
def Level.options (level : Level) : List Spelling :=
  commonOptions ++ level.valuedOptions

/-- The option with a name. -/
def Level.named? (level : Level) (name : String) : Option Switch :=
  (level.options.find? (·.name == name)).map (·.switch)

/-- The option with a letter. -/
def Level.lettered? (level : Level) (letter : Char) : Option Switch :=
  (level.options.find? (·.letter? == some letter)).map (·.switch)

/-! ### Words -/

/-- What the words of a level are for, in their order. -/
def Level.words : Level → List Slot
  | .filter      => [.filter]
  | .check       => [.filter]
  | .setConfig   => [.key, .value]
  | .completions => [.shell]
  | _            => []

/-- Whether each of the words of a level has to be given. -/
def Level.wordsAreRequired (level : Level) : Bool :=
  level != .filter

/-! ### Commands -/

/-- The commands of a level by their names. -/
def Level.commands : Level → List (String × Level)
  | .top    => [
    ("filter", .filter), ("f", .filter),
    ("check", .check), ("c", .check),
    ("keys", .keys),
    ("config", .config),
    ("completions", .completions)]
  | .config => [("show", .showConfig), ("set", .setConfig), ("path", .configPath)]
  | _       => []

/-- The name of the command that asks for help, on each level that has commands. -/
def helpCommand : String := "help"

/-- Whether a word is the name of a command of a level. -/
def Level.isCommand (level : Level) (word : String) : Bool :=
  (level.commands.lookup word).isSome || (!level.commands.isEmpty && word == helpCommand)

end DemoQuery.Invocation
