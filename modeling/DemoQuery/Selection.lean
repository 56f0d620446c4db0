import DemoQuery.Path
import DemoQuery.Query

/-!
# Selecting records

The records that match a query once the data that it needs has been supplied. A record that fails
a requirement on its name or events is dropped before anything is fetched for it. An absent header
becomes the empty one. Absent file data is looked up under the demo's file name in the directory of
the demos, and is empty if nothing is found there.
-/

namespace DemoQuery

/-- What is found out about the file at a path. -/
abbrev Stat := String → Option FileData

/-- The path at which the file of a demo is looked up, if there is one. -/
def demoPath? (directory : Option String) (name : String) : Option String :=
  match directory, Path.fileName? name with
  | some directory, some fileName => some (Path.join directory fileName)
  | _,              _             => none

/-- The data of a demo's file (`stat_demo`); nothing is known of one that is not found. Files whose
time is so far from 1970 that a calendar has no date for it are left out. -/
def statDemo (stat : Stat) (directory : Option String) (name : String) : FileData :=
  ((demoPath? directory name).bind stat).getD {}

/-- A record with the data that is needed and absent (`supply_missing_data`). -/
def Record.supply (r : Record) (needs : Needs) (stat : Stat) (directory : Option String) :
    Record :=
  { r with
    header   := if needs.header then some (r.header.getD {}) else r.header
    fileData :=
      if needs.fileData then some (r.fileData.getD (statDemo stat directory r.name))
      else r.fileData }

/-- Whether nothing has to be supplied for a requirement. -/
def Requirement.isCheap (q : Requirement) : Bool :=
  q.needs.isEmpty

/-- The record as a query selects it, if it does. -/
def Query.select? (q : Query) (stat : Stat) (directory : Option String) (r : Record) :
    Option Record :=
  let cheap := q.requirements.filter (·.isCheap)
  let costly := q.requirements.filter (!·.isCheap)
  if cheap.all (·.holds r) then
    let supplied := if costly.isEmpty then r else r.supply q.needs stat directory
    if costly.all (·.holds supplied) then some supplied else none
  else none

/-- The records that a query selects, in their order. -/
def Query.select (q : Query) (stat : Stat) (directory : Option String) (records : List Record) :
    List Record :=
  records.filterMap (q.select? stat directory)

end DemoQuery
