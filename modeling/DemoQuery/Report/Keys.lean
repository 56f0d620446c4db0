import DemoQuery.Json
import DemoQuery.Key
import DemoQuery.Text.Showing

/-!
# Lists of keys

The keys of the filter language, as a table with one row each or as JSON.
-/

namespace DemoQuery.Report

open Text

/-! ### Table -/

/-- A row of the table of keys. -/
def keyRow (name type field needs : String) : String :=
  padRight 18 name ++ " " ++ padRight 5 type ++ " " ++ padRight 22 field ++ " " ++ needs

/-- The heading of the table of keys. -/
def keyHeading : String :=
  keyRow "Key" "Type" "Field" "Needs"

/-- The row of a key. -/
def rowOfKey (k : Key) : String :=
  keyRow k.name k.field.typeName k.field.label (", ".intercalate k.needs.names)

/-- The table of some keys (`format_keys_table`). -/
def keyTable (colours : Bool) (keys : List Key) : String :=
  Style.dimmed.paint colours keyHeading ++ "\n" ++ .join (keys.map fun k => rowOfKey k ++ "\n")

/-! ### JSON -/

/-- A key in JSON. -/
def keyJson (k : Key) : Json :=
  .record [
    ("name", .text k.name),
    ("type", .text k.field.typeName),
    ("field", .text k.field.label),
    ("needs", .texts k.needs.names)]

/-- Some keys in JSON (`format_keys_json`). -/
def keysJson (keys : List Key) : Json :=
  .record [("keys", .array (keys.map keyJson))]

end DemoQuery.Report
