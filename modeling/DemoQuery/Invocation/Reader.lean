import DemoQuery.Invocation
import DemoQuery.Invocation.Level
import DemoQuery.Text.Reading

/-!
# Reading command lines

The arguments of a command line are read from the first to the last. A value that stands in an
argument of its own is looked at when the next argument that is not its value has been recognised,
so an argument that is not known at all is reported before a wrong value in front of it.
-/

namespace DemoQuery.Invocation

/-- Why a command line is not carried out. -/
inductive UsageError where
  /-- There is no such option, or no place for a word. -/
  | unknownArgument
  | unknownCommand
  | missingArgument
  /-- An option is given twice, or two options exclude each other. -/
  | conflict
  /-- A value is absent, empty or not one of those to choose from. -/
  | invalidValue
  /-- A value is not a number of the right size. -/
  | invalidNumber
  /-- An option without a value is given one. -/
  | surplusValue
  | helpAsked
  | versionAsked
  deriving DecidableEq, Repr

/-- The exit code, which is that of success for what the user has asked for. -/
def UsageError.exitCode : UsageError → Nat
  | .helpAsked | .versionAsked => 0
  | _                          => 2

/-! ### Arguments -/

/-- An argument by its form. -/
inductive Argument where
  | word (text : String)
  /-- Two dashes, behind which all arguments are words. -/
  | endOfOptions
  | name (name : String) (value : Option String)
  /-- Letters of options behind a dash, the last maybe with its value. -/
  | letters (letters : List Char)
  deriving DecidableEq, Repr

/-- The form of an argument. -/
def Argument.ofText (text : String) : Argument :=
  match text.toList with
  | ['-', '-']      => .endOfOptions
  | '-' :: '-' :: cs =>
    let name := String.ofList (cs.takeWhile (· ≠ '='))
    match cs.dropWhile (· ≠ '=') with
    | []         => .name name none
    | _ :: value => .name name (some (.ofList value))
  | '-' :: c :: cs  => .letters (c :: cs)
  | _               => .word text

/-- The value behind the letter of an option, with an equals sign between them or not. -/
def attachedValue? : List Char → Option String
  | []        => none
  | '=' :: cs => some (.ofList cs)
  | cs        => some (.ofList cs)

/-! ### Values -/

/-- The number of records that a text asks for: digits, maybe behind a plus, in 64 bits. -/
def readLimit? (value : String) : Option Nat :=
  let digits := match value.toList with
    | '+' :: cs => cs
    | cs        => cs
  (Text.readDigits? digits).filter (· ≤ 18446744073709551615)

/-- What is wrong with a value, if something is. -/
def Slot.refuse? (slot : Slot) (value : String) : Option UsageError :=
  match slot with
  | .records | .demoDirectory => if value = "" then some .invalidValue else none
  | .limit                    => if (readLimit? value).isNone then some .invalidNumber else none
  | .shell                    => if (Shell.find? value).isNone then some .invalidValue else none
  | _                         => none

/-! ### One level -/

/-- What has been read of a level. -/
structure Progress where
  level   : Level
  flags   : List Flag := []
  values  : List (Slot × String) := []
  /-- What is to be looked at next, with its value unless that is still to come. -/
  pending : Option (Slot × Option String) := none
  /-- What words are still to come. -/
  words   : List Slot
  deriving Repr

namespace Progress

/-- The start of a level. -/
def start (level : Level) : Progress :=
  { level, words := level.words }

/-- A value is taken for a slot that has none yet. -/
def take (p : Progress) (slot : Slot) (value : String) : Except UsageError Progress :=
  if (p.values.lookup slot).isSome then .error .conflict
  else
    match slot.refuse? value with
    | some error => .error error
    | none       => .ok { p with values := p.values ++ [(slot, value)] }

/-- What is pending is looked at. -/
def settle (p : Progress) : Except UsageError Progress :=
  match p.pending with
  | none                    => .ok p
  | some (_,    none)       => .error .invalidValue
  | some (slot, some value) => { p with pending := none }.take slot value

/-- A flag is raised. -/
def raise (p : Progress) (flag : Flag) : Except UsageError Progress := do
  let p ← p.settle
  match flag with
  | .help    => .error .helpAsked
  | .version => .error .versionAsked
  | _        => if flag ∈ p.flags then .error .conflict else .ok { p with flags := flag :: p.flags }

/-- An option that takes a value is given, with its value or before it. -/
def giveOption (p : Progress) (slot : Slot) (value : Option String) :
    Except UsageError Progress := do
  let p ← p.settle
  match value with
  | some value => p.take slot value
  | none       => .ok { p with pending := some (slot, none) }

/-- An option is given by its name. -/
def giveName (p : Progress) (name : String) (value : Option String) :
    Except UsageError Progress :=
  match p.level.named? name, value with
  | none,              _      => .error .unknownArgument
  | some (.flag _),    some _ => .error .surplusValue
  | some (.flag flag), none   => p.raise flag
  | some (.slot slot), value  => p.giveOption slot value

/-- Options are given by their letters. -/
def giveLetters (p : Progress) : List Char → Except UsageError Progress
  | []                => .ok p
  | letter :: letters =>
    match p.level.lettered? letter with
    | none              => .error .unknownArgument
    | some (.flag flag) => (p.raise flag).bind fun p => p.giveLetters letters
    | some (.slot slot) => p.giveOption slot (attachedValue? letters)

/-- What is wrong with a word for which there is no place; `isLate` says whether it stands behind
the end of the options. -/
def surplusWord (p : Progress) (isLate : Bool) (word : String) : UsageError :=
  if p.level.commands.isEmpty || (isLate && p.level.isCommand word) then .unknownArgument
  else .unknownCommand

/-- A word is given in its place. -/
def giveWord (p : Progress) (isLate : Bool) (word : String) : Except UsageError Progress :=
  match p.words with
  | []            => .error (p.surplusWord isLate word)
  | slot :: words =>
    p.settle.map fun p => { p with pending := some (slot, some word), words }

/-- A word is given, to an option that waits for its value or in its place. -/
def giveWordOrValue (p : Progress) (word : String) : Except UsageError Progress :=
  match p.pending with
  | some (slot, none) => .ok { p with pending := some (slot, some word) }
  | _                 => p.giveWord false word

/-- An argument before the end of the options is given. -/
def give (p : Progress) : Argument → Except UsageError Progress
  | .word text       => p.giveWordOrValue text
  | .endOfOptions    => .ok p
  | .name name value => p.giveName name value
  | .letters letters => p.giveLetters letters

/-- The level comes to its end. -/
def finish (p : Progress) : Except UsageError Progress := do
  let p ← p.settle
  if .verbose ∈ p.flags ∧ .quiet ∈ p.flags then .error .conflict
  else if p.level.wordsAreRequired && !p.words.isEmpty then .error .missingArgument
  else .ok p

end Progress

/-! ### All levels -/

/-- What a command line says: the command that it names, the values for it, and the flags of all
levels. -/
structure Reading where
  level  : Level
  values : List (Slot × String)
  flags  : List Flag
  deriving Repr

/-- What asking for help about commands comes to: help, if there are such commands. -/
def Level.help (level : Level) : List String → UsageError
  | []            => .helpAsked
  | name :: names =>
    match level.commands.lookup name with
    | some inner => inner.help names
    | none       => if level.isCommand name ∧ names = [] then .helpAsked else .unknownCommand

/-- The words behind the end of the options are read. -/
def Progress.readWords (p : Progress) (words : List String) : Except UsageError Reading := do
  let p ← words.foldlM (fun p word => p.giveWord true word) p
  let p ← p.finish
  .ok ⟨p.level, p.values, p.flags⟩

/-- The rest of a command line is read. A command behind a level ends the level, and what is wrong
with the command is reported first. -/
def Progress.read (p : Progress) : List String → Except UsageError Reading
  | []           => p.readWords []
  | text :: rest =>
    match p.level.commands.lookup text with
    | some inner => do
      let reading ← (Progress.start inner).read rest
      let p ← p.finish
      .ok { reading with flags := p.flags ++ reading.flags }
    | none       =>
      if p.level.isCommand text then .error (p.level.help rest)
      else
        match Argument.ofText text with
        | .endOfOptions => p.readWords rest
        | argument      => (p.give argument).bind fun p => p.read rest

/-! ### Invocations -/

namespace Reading

/-- The value for a slot, if it is given. -/
def value? (r : Reading) (slot : Slot) : Option String :=
  r.values.lookup slot

/-- The text for a slot, empty if it is not given. -/
def text (r : Reading) (slot : Slot) : String :=
  (r.value? slot).getD ""

/-- The options for the output. -/
def options (r : Reading) : OutputOptions where
  verbose  := .verbose ∈ r.flags
  quiet    := .quiet ∈ r.flags
  json     := .json ∈ r.flags
  noColour := .noColour ∈ r.flags

/-- The command. -/
def command (r : Reading) : Command :=
  match r.level with
  | .top                  => .greet
  | .filter               =>
    .search {
      filter        := r.text .filter
      records       := r.value? .records
      demoDirectory := r.value? .demoDirectory
      limit         := (r.value? .limit).bind readLimit? }
  | .check                => .check (r.text .filter)
  | .keys                 => .listKeys
  | .config | .showConfig => .showConfig
  | .setConfig            => .setConfig (r.text .key) (r.text .value)
  | .configPath           => .showConfigPath
  | .completions          => .complete ((Shell.find? (r.text .shell)).getD .bash)

end Reading

/-- The invocation that the arguments of a command line ask for. -/
def parse (arguments : List String) : Except UsageError Invocation := do
  let reading ← (Progress.start .top).read arguments
  .ok ⟨reading.options, reading.command⟩

/-! ### Usage

What is said about the command line to whoever asks for it, or writes one that is not understood. -/

/-- The version of the program. -/
def versionText : String :=
  "dmf 0.1.0\n"

/-- The forms of a command line. -/
def usageText : String :=
  .join ([
    "Usage: dmf [-v | -q] [--json] [--no-color] [COMMAND]",
    "",
    "Commands:",
    "  filter [FILTER] [-r RECORDS] [-d DEMO_DIR] [--limit LIMIT]",
    "  check FILTER",
    "  keys",
    "  config [show | set KEY VALUE | path]",
    "  completions SHELL",
    "  help [COMMAND]"].map (· ++ "\n"))

/-- What is wrong with a command line. -/
def UsageError.message : UsageError → String
  | .unknownArgument => "there is no such argument"
  | .unknownCommand  => "there is no such command"
  | .missingArgument => "an argument is missing"
  | .conflict        => "an argument is given twice, or does not go with another one"
  | .invalidValue    => "a value is missing or not one to choose from"
  | .invalidNumber   => "a value is not a number"
  | .surplusValue    => "a value is given to an option that takes none"
  | .helpAsked       => "help is asked for"
  | .versionAsked    => "the version is asked for"

/-- What is said about a command line that is not carried out. -/
def UsageError.text : UsageError → String
  | .helpAsked    => usageText
  | .versionAsked => versionText
  | error         => "error: " ++ error.message ++ "\n\n" ++ usageText

end DemoQuery.Invocation
