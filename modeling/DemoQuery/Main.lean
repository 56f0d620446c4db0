import DemoQuery.Invocation.Reader
import DemoQuery.Run

/-!
# The program

What a run may look at is brought onto a disk of its own, the run takes place there, and the
settings are brought back if the run has changed them.
-/

/-! ### What a run looks at

The paths at which a run may look on the disk. What is at one of them can lead to others: the
settings to the file of records, and the records to the files of their demos. -/

namespace DemoQuery.Invocation

/-- The records of a run and the directory of their demos, if the run gets as far as that. -/
def records? (i : Invocation) (env : Environment) (disk : Disk) :
    Option (List Record × Option String) :=
  match i.command with
  | .search search => do
    let config ← (env.config disk).toOption
    let path ← (search.recordsPath config).toOption
    let records ← (Record.load disk path).toOption
    return (records, search.demoDirectoryIn config)
  | _              => none

/-- The paths of the texts that a run may read: the settings, and the records of a search. -/
def textPaths (i : Invocation) (env : Environment) (disk : Disk) : List String :=
  env.configPath?.toList ++
    match i.command with
    | .search search =>
      ((env.config disk).bind (search.recordsPath ·)).toOption.toList
    | _              => []

/-- The paths of the demos about whose files a run may ask. -/
def demoPaths (i : Invocation) (env : Environment) (disk : Disk) : List String :=
  match i.records? env disk with
  | some (records, directory) => records.filterMap fun r => demoPath? directory r.name
  | none                      => []

end DemoQuery.Invocation

/-! ### The run -/

namespace DemoQuery

/-- The environment of this run. -/
def readEnvironment : IO Environment := do
  let home ← IO.getEnv "HOME"
  return {
    configFile      := ← IO.getEnv "DMF_CONFIG"
    configDirectory := ← IO.getEnv "XDG_CONFIG_HOME"
    home            := home.filter (· ≠ "") }

/-- The contents of the file at a path. -/
def readContents (path : String) (size : Nat) : IO Contents := do
  match ← (IO.FS.readBinFile path).toBaseIO with
  | .error _  => return .binary size
  | .ok bytes =>
    match String.fromUTF8? bytes with
    | some text => return .text text
    | none      => return .binary bytes.size

/-- The disk with what is at a path; the contents of a file matter only if they are to be read. -/
def bring (disk : Disk) (path : String) (isRead : Bool) : IO Disk := do
  if path = "" then return disk
  match ← ((← IO.currentDir) / path).metadata.toBaseIO with
  | .error _  => return disk
  | .ok data  =>
    let size := data.byteSize.toNat
    if data.type == .dir then return disk.withDirectory path ⟨size, data.modified.sec⟩
    let contents ← if isRead then readContents path size else pure (.zeros size)
    return (disk.write path ⟨contents, data.modified.sec⟩).1

/-- The disk of a run. Texts are brought twice, since the settings tell where the records are. -/
def bringAll (env : Environment) (invocation : Invocation) : IO Disk := do
  let mut disk : Disk := {}
  for _ in [0, 1] do
    for path in invocation.textPaths env disk do
      disk ← bring disk path true
  for path in invocation.demoPaths env disk do
    disk ← bring disk path false
  return disk

/-- The directory of a path is made, as far as it can be; the answer says whether it is there. -/
def makeDirectory (path : String) : IO Bool := do
  let made ← (IO.FS.createDirAll ((← IO.currentDir) / Path.directory path)).toBaseIO
  return made.isOk

/-- The settings are written to their path; the answer says why they are not there if they are
not. -/
def bringBack (path text : String) : IO (Option Disk.WriteFailure) := do
  unless ← makeDirectory path do return some .directories
  match ← (IO.FS.writeFile path text).toBaseIO with
  | .error _ => return some .file
  | .ok _    => return none

end DemoQuery

open DemoQuery

/-- A run under these arguments, and its exit code. -/
def main (arguments : List String) : IO UInt32 := do
  let stdout ← IO.getStdout
  let stderr ← IO.getStderr
  let env ← readEnvironment
  match Invocation.parse arguments with
  | .error error   =>
    (if error.exitCode = 0 then stdout else stderr).putStr error.text
    return error.exitCode.toUInt32
  | .ok invocation =>
    let before ← bringAll env invocation
    let (after, outcome) := runArguments env before arguments
    let mut outcome := outcome
    if let some path := env.configPath? then
      if let .failed (.config (.unwritable _)) _ := outcome then
        discard (makeDirectory path)
      else if let .ok text := after.read path then
        unless (before.read path).toOption = some text do
          if let some failure ← bringBack path text then
            let error := CommandError.config (.unwritable failure)
            outcome := .failed error ⟨"", error.report invocation.options.json⟩
    stdout.putStr outcome.output
    stderr.putStr outcome.report
    return outcome.exitCode.toUInt32
