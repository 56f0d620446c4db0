import DemoQuery.Json

/-!
# Demo records

What is known about one demo, the recording of a game: its file name, the events logged in it,
and, where they have been supplied, the header of the recording and the data of its file.
-/

namespace DemoQuery

/-- A killstreak: how high it went, and the tick at which it did. -/
structure Killstreak where
  peak : Int
  tick : Int
  deriving DecidableEq, Repr

/-- A bookmark that a player set at a tick. -/
structure Bookmark where
  label : String
  tick  : Int
  deriving DecidableEq, Repr

/-- The header of a recording (`DemoHeader`). Nothing is known of a recording with the empty
header. -/
structure Header where
  mapName  : String := ""
  hostname : String := ""
  clientId : String := ""
  deriving DecidableEq, Repr, Inhabited

/-- The size of a file in bytes and its modification time in seconds since 1970. -/
structure FileData where
  size     : Int := 0
  modified : Int := 0
  deriving DecidableEq, Repr, Inhabited

/-- A demo as far as it is known (`DemoRecord`). -/
structure Record where
  name        : String
  killstreaks : List Killstreak := []
  bookmarks   : List Bookmark := []
  header      : Option Header := none
  fileData    : Option FileData := none
  deriving DecidableEq, Repr, Inhabited

/-- The highest peak of a killstreak, and -1 without one (`best_streak`). -/
def Record.bestStreak (r : Record) : Int :=
  (r.killstreaks.map (·.peak)).max?.getD (-1)

/-- All bookmark labels, one right after the other (`bookmark_labels`). -/
def Record.bookmarkLabels (r : Record) : String :=
  .join (r.bookmarks.map (·.label))

/-! ### Records in JSON

Records as JSON values. The killstreaks and bookmarks of a record are always written; its header and
the data of its file only where they have been supplied. -/

open Json

/-- A killstreak in JSON. -/
def Killstreak.toJson (k : Killstreak) : Json :=
  .record [("peak", .integer k.peak), ("tick", .integer k.tick)]

/-- A bookmark in JSON. -/
def Bookmark.toJson (b : Bookmark) : Json :=
  .record [("label", .text b.label), ("tick", .integer b.tick)]

/-- A header in JSON. -/
def Header.toJson (h : Header) : Json :=
  .record [
    ("map_name", .text h.mapName),
    ("hostname", .text h.hostname),
    ("clientid", .text h.clientId)]

/-- The data of a file in JSON. -/
def FileData.toJson (data : FileData) : Json :=
  .record [("filesize", .integer data.size), ("modtime", .integer data.modified)]

/-- A record in JSON. -/
def Record.toJson (r : Record) : Json :=
  .record ([
      ("name", .text r.name),
      ("killstreaks", .array (r.killstreaks.map (·.toJson))),
      ("bookmarks", .array (r.bookmarks.map (·.toJson)))] ++
    r.header.elim [] (fun header => [("header", header.toJson)]) ++
    r.fileData.elim [] (fun data => [("filedata", data.toJson)]))

end DemoQuery
