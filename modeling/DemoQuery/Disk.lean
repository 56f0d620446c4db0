import DemoQuery.Path
import DemoQuery.Record

/-!
# Disks

The files and directories that a run can see. A place on a disk is the list of names that leads to
it from the working directory, or from the root if the first is a slash. The working directory,
those around it and the root are always there. Directories have a size and a time like files, and
whatever a run makes is as old as the disk's clock says.
-/

namespace DemoQuery

/-- What a file holds. -/
inductive Contents where
  | text (s : String)
  /-- So many null bytes, as a recording whose bytes nobody looks at. -/
  | zeros (size : Nat)
  /-- So many bytes that are no text. -/
  | binary (size : Nat)
  deriving DecidableEq, Repr

/-- The number of bytes that a file holds. -/
def Contents.size : Contents → Nat
  | .text s      => s.utf8ByteSize
  | .zeros size  => size
  | .binary size => size

/-- The text that a file holds, if it is one. -/
def Contents.text? : Contents → Option String
  | .text s      => some s
  | .zeros size  => some (.ofList (.replicate size '\x00'))
  | .binary _    => none

/-- A file, with its modification time in seconds since 1970. -/
structure File where
  contents : Contents
  modified : Int := 0
  deriving DecidableEq, Repr

/-- What a name on a disk stands for. -/
inductive Node where
  /-- A directory, of which nothing but its own size and time is kept here. -/
  | directory (data : FileData)
  | file (file : File)
  deriving DecidableEq, Repr

/-- Whether something is a directory. -/
def Node.isDirectory : Node → Bool
  | .directory _ => true
  | .file _      => false

/-- The size and time of something. -/
def Node.data : Node → FileData
  | .directory data => data
  | .file f         => ⟨f.contents.size, f.modified⟩

/-- The names that lead to something on a disk. -/
abbrev Place := List String

/-- What there is on a disk; of several entries for a place the first counts. What is made takes
its time from the clock. -/
structure Disk where
  nodes : List (Place × Node) := []
  clock : Int := 0
  deriving DecidableEq, Repr

/-! ### Places -/

/-- Whether a place is a directory on every disk. -/
def Place.isFixed (place : Place) : Bool :=
  place == ["/"] || place.all (· == "..")

/-- The place of the directory around a place. -/
def Place.back (place : Place) : Place :=
  if place == ["/"] then place
  else if place.all (· == "..") then place ++ [".."]
  else place.dropLast

/-- The place at which a path starts, and its steps from there. -/
def Place.start (path : String) : Place × List String :=
  match Path.steps path with
  | "" :: step :: steps => (["/"], step :: steps)
  | steps               => ([], steps)

namespace Disk

/-! ### Looking -/

/-- The size in bytes of a directory that is made. -/
def directorySize : Int := 4096

/-- A directory that is made now. -/
def newDirectory (disk : Disk) : Node :=
  .directory ⟨directorySize, disk.clock⟩

/-- What is at a place. -/
def at? (disk : Disk) (place : Place) : Option Node :=
  if place.isFixed then some disk.newDirectory else disk.nodes.lookup place

/-- Whether there is a directory at a place. -/
def isDirectoryAt (disk : Disk) (place : Place) : Bool :=
  (disk.at? place).any (·.isDirectory)

/-- The place that steps lead to. Each of them has to start from a directory. -/
def walk? (disk : Disk) (here : Place) : List String → Option Place
  | []            => some here
  | step :: steps =>
    if disk.isDirectoryAt here then
      if Path.isStay step then disk.walk? here steps
      else if step = ".." then disk.walk? here.back steps
      else disk.walk? (here ++ [step]) steps
    else none

/-- The place that a path leads to, whether something is there or not. -/
def place? (disk : Disk) (path : String) : Option Place :=
  if path = "" ∨ ¬ Path.isShort path then none
  else
    let (here, steps) := Place.start path
    disk.walk? here steps

/-- What is at a path. -/
def find? (disk : Disk) (path : String) : Option Node :=
  (disk.place? path).bind disk.at?

/-- Whether something is at a path. -/
def has (disk : Disk) (path : String) : Bool :=
  (disk.find? path).isSome

/-- The size and time of what is at a path. Files whose time is so far from 1970 that a calendar has
no date for it are left out. -/
def stat (disk : Disk) (path : String) : Option FileData :=
  (disk.find? path).map (·.data)

/-! ### Reading -/

/-- Why a file cannot be read as a text. -/
inductive ReadFailure where
  | missing
  | directory
  | notText
  deriving DecidableEq, Repr

/-- The wording of a failure to read. -/
def ReadFailure.message : ReadFailure → String
  | .missing   => "No such file or directory"
  | .directory => "Is a directory"
  | .notText   => "Not a text"

/-- The text of the file at a path. -/
def read (disk : Disk) (path : String) : Except ReadFailure String :=
  match disk.find? path with
  | none                => .error .missing
  | some (.directory _) => .error .directory
  | some (.file file)   =>
    match file.contents.text? with
    | some s => .ok s
    | none   => .error .notText

/-! ### Writing -/

/-- Why a file cannot be written: a directory for it cannot be made, or it cannot itself. -/
inductive WriteFailure where
  | directories
  | file
  deriving DecidableEq, Repr

/-- The disk with something at a place. -/
def put (disk : Disk) (place : Place) (node : Node) : Disk :=
  { disk with nodes := (place, node) :: disk.nodes }

/-- The disk with every directory on the way of some steps, and whether they could be made. -/
def makeSteps (disk : Disk) (here : Place) : List String → Disk × Bool
  | []            => (disk, true)
  | step :: steps =>
    if Path.isStay step then disk.makeSteps here steps
    else if step = ".." then disk.makeSteps here.back steps
    else
      let place := here ++ [step]
      match disk.at? place with
      | some node =>
        if node.isDirectory then disk.makeSteps place steps else (disk, false)
      | none      =>
        if Path.isShortStep step then (disk.put place disk.newDirectory).makeSteps place steps
        else (disk, false)

/-- The disk with every directory on the way of a path, and whether they could be made. -/
def makeDirectories (disk : Disk) (path : String) : Disk × Bool :=
  if Path.isShort path then
    let (here, steps) := Place.start path
    disk.makeSteps here steps
  else (disk, false)

/-- The disk with a directory of this size and time at a path, if one can be there. -/
def withDirectory (disk : Disk) (path : String) (data : FileData) : Disk :=
  let (disk, _) := disk.makeDirectories path
  match disk.place? path with
  | some place => disk.put place (.directory data)
  | none       => disk

/-- The place of the file at a path, if one can be there. -/
def filePlace? (disk : Disk) (path : String) : Option Place := do
  let place ← disk.place? path
  guard (place.all Path.isShortStep && !disk.isDirectoryAt place)
  return place

/-- The disk with a file at a path, in directories that are made for it, and why it is not there
if it is not. -/
def write (disk : Disk) (path : String) (file : File) : Disk × Option WriteFailure :=
  match disk.makeDirectories (Path.directory path) with
  | (disk, false) => (disk, some .directories)
  | (disk, true)  =>
    match disk.filePlace? path with
    | some place => (disk.put place (.file file), none)
    | none       => (disk, some .file)

end Disk

end DemoQuery
