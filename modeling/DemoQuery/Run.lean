import DemoQuery.CommandError
import DemoQuery.Environment
import DemoQuery.Invocation.Reader
import DemoQuery.Record.Reader
import DemoQuery.Report.Config
import DemoQuery.Report.Keys
import DemoQuery.Report.Query
import DemoQuery.Report.Records
import DemoQuery.Selection

/-!
# Runs

What a run does, given its environment and what is on the disk: it prints and may fail, and only a
setting that is made changes anything on the disk. What has been printed before a failure stays
printed. Settings that cannot be read matter only to a command that cannot do without them; the
others take it that nothing is set.

The log is left out: what is said there of settings that are ignored, or of demos that are not
found, is neither printed nor part of the report of a failure.
-/

namespace DemoQuery

/-! ### Programs -/

/-- What a command works on: the disk, and the text that has been printed so far. -/
structure World where
  disk    : Disk
  printed : String := ""
  deriving DecidableEq, Repr

/-- Something to do that may change the disk, print, and fail. A failure ends it, but undoes
nothing: the disk and what has been printed stay as they are at that point. -/
abbrev Program (α : Type) : Type := EStateM CommandError World α

namespace Program

variable {α ε : Type}

/-- The disk as it is. -/
def disk : Program Disk := return (← get).disk

/-- The disk is changed, which has a result. -/
def changeDisk (change : Disk → Disk × α) : Program α :=
  modifyGet fun world => ((change world.disk).2, { world with disk := (change world.disk).1 })

/-- A text is printed. -/
def print (text : String) : Program Unit :=
  modify fun world => { world with printed := world.printed ++ text }

/-- A result is taken, or its failure ends the program. -/
def expect (failure : ε → CommandError) : Except ε α → Program α
  | .ok a    => pure a
  | .error e => throw (failure e)

end Program

open Program

/-! ### Output -/

/-- What a command prints: JSON if it is asked for, else nothing if quiet is kept, else lines. -/
def OutputOptions.render (options : OutputOptions) (json : Json) (lines : String) : String :=
  if options.json then json.pretty ++ "\n"
  else if options.quiet then ""
  else lines

/-- Whether a run uses colours (`CommandContext.from_cli`). -/
def OutputOptions.colours (options : OutputOptions) (config : Config) : Bool :=
  !options.noColour && config.colours

/-- A command prints what it has found. -/
def OutputOptions.present (options : OutputOptions) (json : Json) (lines : String) : Program Unit :=
  print (options.render json lines)

/-! ### Records -/

/-- The records in the file at a path (`load_records`). -/
def Record.load (disk : Disk) (path : String) : Except RecordsError (List Record) :=
  match disk.read path with
  | .error failure => .error (.unreadable path failure)
  | .ok text       =>
    match Record.parseAll? text with
    | some records => .ok records
    | none         => .error (.malformed path)

namespace Search

/-- The path of the records: the one that is given, else the one that is set. -/
def recordsPath (s : Search) (config : Config) : Except ConfigError String :=
  match s.records <|> config.records with
  | some path => .ok path
  | none      => .error .noRecords

/-- The directory of the demos: the one that is given, else the one that is set. -/
def demoDirectoryIn (s : Search) (config : Config) : Option String :=
  s.demoDirectory <|> config.demoDirectory

/-- The first of some records, if so many are asked for (`apply_limit`). -/
def cut (s : Search) (records : List Record) : List Record :=
  s.limit.elim records records.take

/-- A search: the records that match are printed. -/
def execute (s : Search) (options : OutputOptions) (config : Config) : Program Unit := do
  let query ← expect .filter (Query.parse s.filter)
  let path ← expect .config (s.recordsPath config)
  let disk ← disk
  let records ← expect .records (Record.load disk path)
  let found := s.cut (query.select disk.stat (s.demoDirectoryIn config) records)
  options.present (Report.recordsJson found) (Report.recordTable (options.colours config) found)

end Search

/-! ### Settings -/

namespace Environment

/-- The settings are reported (`execute_show`). -/
def showConfig (env : Environment) (options : OutputOptions) (colours : Bool) : Program Unit := do
  let disk ← disk
  let config ← expect .config (env.config disk)
  let path ← expect .config env.configPath
  options.present (Report.configJson path (disk.has path) config)
    (Report.configText colours path (disk.has path) config)

/-- The place of the settings is reported, even if quiet is kept (`execute_path`). -/
def showConfigPath (env : Environment) (options : OutputOptions) : Program Unit := do
  let path ← expect .config env.configPath
  OutputOptions.present { options with quiet := false }
    (Report.configPathJson path ((← disk).has path)) (path ++ "\n")

/-- One more setting is made, on the settings as they are on the disk (`execute_set`). -/
def setConfig (env : Environment) (options : OutputOptions) (key value : String) :
    Program Unit := do
  let config ← expect .config (env.config (← disk))
  let path ← expect .config env.configPath
  let setting ← expect .config (Setting.ofPair key value)
  let saved ← changeDisk fun disk => (config.set setting).save disk path
  expect .config saved
  options.present (Report.changeJson path key value) (Report.changeText key value)

end Environment

/-! ### Commands -/

/-- What is printed if there is no command. -/
def greeting : String :=
  "dmf - Browse and filter demo recordings\nUse --help for usage information\n"

namespace Invocation

/-- A command is carried out under some settings (`Dispatch.execute`). The script for a shell is
left out: nothing stands for it here. -/
def execute (i : Invocation) (env : Environment) (config : Config) : Program Unit :=
  let options := i.options
  let colours := options.colours config
  match i.command with
  | .greet               => print (if options.quiet then "" else greeting)
  | .search search       => search.execute options config
  | .check filter        => do
    let query ← expect .filter (Query.parse filter)
    options.present (Report.queryJson query) (Report.queryTable colours query)
  | .listKeys            =>
    options.present (Report.keysJson Key.all) (Report.keyTable colours Key.all)
  | .showConfig          => env.showConfig options colours
  | .showConfigPath      => env.showConfigPath options
  | .setConfig key value => env.setConfig options key value
  | .complete _          => pure ()

/-- A run with a command line (`run`). Settings that cannot be loaded end it if its command needs
them. Otherwise they are ignored, which is said in the log and nowhere here. -/
def run (i : Invocation) (env : Environment) : Program Unit := do
  match env.config (← disk) with
  | .ok config   => i.execute env config
  | .error error => if i.command.needsConfig then throw (.config error) else i.execute env {}

end Invocation

/-! ### Outcomes -/

/-- What a run that fails leaves to be read: what it has printed by then, and the report. -/
structure Transcript where
  output : String
  report : String
  deriving DecidableEq, Repr

/-- How a run ends. -/
inductive Outcome where
  /-- The command line is not carried out. -/
  | refused (error : Invocation.UsageError)
  /-- The command fails. -/
  | failed (error : CommandError) (transcript : Transcript)
  /-- The command succeeds, with the text that it has printed. -/
  | done (output : String)
  deriving DecidableEq, Repr

namespace Outcome

/-- The disk after a run and how the run ends (`main`), given whether failures are reported as JSON
and what has become of its program. -/
def ofResult (asJson : Bool) : EStateM.Result CommandError World Unit → Disk × Outcome
  | .ok () world       => (world.disk, .done world.printed)
  | .error error world => (world.disk, .failed error ⟨world.printed, error.report asJson⟩)

/-- The exit code. -/
def exitCode : Outcome → Nat
  | refused error  => error.exitCode
  | failed error _ => error.exitCode
  | done _         => 0

/-- What is printed. The texts on a command line that is refused, on help and on the version are
left out. -/
def output : Outcome → String
  | refused _           => ""
  | failed _ transcript => transcript.output
  | done output         => output

/-- What is reported of a failure. Beside it there may be lines of the log, which are left out, such
as the warning that settings are ignored. -/
def report : Outcome → String
  | failed _ transcript => transcript.report
  | _                   => ""

end Outcome

/-- The disk after a run with the arguments of a command line, and how the run ends. -/
def runArguments (env : Environment) (disk : Disk) (arguments : List String) : Disk × Outcome :=
  match Invocation.parse arguments with
  | .error error   => (disk, .refused error)
  | .ok invocation => Outcome.ofResult invocation.options.json ((invocation.run env).run { disk })

end DemoQuery
