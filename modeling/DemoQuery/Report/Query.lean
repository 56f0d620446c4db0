import DemoQuery.Json
import DemoQuery.Query
import DemoQuery.Text.Showing

/-!
# Explained queries

What a filter means: its requirements, one on a line, and what they need, or the same as JSON.
-/

namespace DemoQuery.Report

open Text

/-! ### Table -/

/-- The key of a requirement, behind an exclamation mark if it is negated. -/
def signedKey (q : Requirement) : String :=
  if q.negated then "!" ++ q.key.name else q.key.name

/-- The line of a requirement, given its place in the query. -/
def requirementLine (colours : Bool) (q : Requirement) (place : Nat) : String :=
  padLeft 2 place.repr ++ ". " ++ Style.cyan.paint colours (signedKey q) ++ ": " ++ q.expr.text

/-- The last line, with what a query needs. -/
def needsLine (needs : Needs) : String :=
  "Needs: " ++ if needs.isEmpty then "nothing" else ", ".intercalate needs.names

/-- The explanation of a query (`format_query_table`). -/
def queryTable (colours : Bool) (q : Query) : String :=
  if q.requirements.isEmpty then "Empty filter: every demo matches.\n"
  else
    .join ((q.requirements.zipIdx 1).map fun (requirement, place) =>
        requirementLine colours requirement place ++ "\n") ++
      Style.dimmed.paint colours (needsLine q.needs) ++ "\n"

/-! ### JSON -/

/-- A requirement in JSON. -/
def requirementJson (q : Requirement) : Json :=
  .record [
    ("key", .text q.key.name),
    ("negated", .bool q.negated),
    ("expr", .text q.expr.text),
    ("needs", .texts q.needs.names)]

/-- A query in JSON (`format_query_json`). -/
def queryJson (q : Query) : Json :=
  .record [
    ("clauses", .array (q.requirements.map requirementJson)),
    ("needs", .texts q.needs.names)]

end DemoQuery.Report
