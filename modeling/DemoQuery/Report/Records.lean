import DemoQuery.ByteSize
import DemoQuery.Calendar
import DemoQuery.Json
import DemoQuery.Record
import DemoQuery.Text.Showing

/-!
# Lists of records

The records that a query selects, as a table with one row each or as JSON.
-/

namespace DemoQuery.Report

open Text

/-! ### Table -/

/-- A row of the table of records. -/
def recordRow (name streak bookmarks size modified : String) : String :=
  padRight 36 name ++ " " ++ padRight 6 streak ++ " " ++ padRight 9 bookmarks ++ " " ++
    padRight 10 size ++ " " ++ modified

/-- The heading of the table of records. -/
def recordHeading : String :=
  recordRow "Name" "Streak" "Bookmarks" "Size" "Modified"

/-- The best streak of a record, and a dash for -1. -/
def streakText (r : Record) : String :=
  if r.bestStreak = -1 then "-" else ofInteger r.bestStreak

/-- The row of a record. What is not known of its file is shown as a dash. -/
def rowOfRecord (r : Record) : String :=
  recordRow (truncate r.name 36) (streakText r) (r.bookmarks.length.repr)
    (r.fileData.elim "-" fun data => sizeText data.size)
    (r.fileData.elim "-" fun data => timestampText data.modified)

/-- The table of some records (`format_records_table`). -/
def recordTable (colours : Bool) (records : List Record) : String :=
  if records.isEmpty then "No matching demos.\n"
  else
    Style.dimmed.paint colours recordHeading ++ "\n" ++
      .join (records.map fun r => rowOfRecord r ++ "\n")

/-! ### JSON -/

/-- A record in JSON. What is not known of it is left out. -/
def recordJson (r : Record) : Json :=
  .record ([
      ("name", .text r.name),
      ("killstreaks", .integer r.killstreaks.length),
      ("best_streak", .integer r.bestStreak),
      ("bookmarks", .texts (r.bookmarks.map (·.label)))] ++
    (r.header.elim [] fun header =>
      [("map", .text header.mapName), ("hostname", .text header.hostname)]) ++
    (r.fileData.elim [] fun data =>
      [("filesize", .integer data.size), ("modtime", .integer data.modified)]))

/-- Some records in JSON, with their number (`format_records_json`). -/
def recordsJson (records : List Record) : Json :=
  .record [
    ("records", .array (records.map recordJson)),
    ("count", .integer records.length)]

end DemoQuery.Report
