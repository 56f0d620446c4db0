import DemoQuery.Proofs.Json.Printing
import DemoQuery.Proofs.Query.NormalForm
import DemoQuery.Proofs.Record.Structure
import DemoQuery.Report.Query
import DemoQuery.Report.Records

/-!
# Reports in JSON are read back

A report in JSON is one JSON text, whatever stands in names, labels and needles, and what is read
back from it has everything that the report is about: each record or requirement at its place, with
its own members and no others.
-/

namespace DemoQuery.Report

open Json

variable {j : Json}

/-! ### Objects -/

/-- `j` is the object of the fields that have a value, in any order. -/
def IsObject (fields : List (String × Option Json)) (j : Json) : Prop :=
  ∃ members, j = .record members ∧ members.Perm (present fields)

lemma isObject_record {fields : List (String × Option Json)} {members : List (String × Json)}
    (h : present fields = members) : IsObject fields (.record members) :=
  ⟨members, rfl, by rw [h]⟩

/-- A report is a text of the grammar, and read back. -/
def ReadsBack (report j : Json) : Prop :=
  Writes (pretty report).toList j ∧ parse? (pretty report) = some j

lemma readsBack_self (h : j.WellFormed) : ReadsBack j j :=
  ⟨writes_prettyAt h 0, parse?_pretty h⟩

/-! ### Records -/

/-- The entry of a record. -/
def IsRecordEntry (r : Record) : Json → Prop :=
  IsObject [
    ("name", some (.text r.name)),
    ("killstreaks", some (.integer r.killstreaks.length)),
    ("best_streak", some (.integer r.bestStreak)),
    ("bookmarks", some (.texts (r.bookmarks.map (·.label)))),
    ("map", r.header.map fun header => .text header.mapName),
    ("hostname", r.header.map fun header => .text header.hostname),
    ("filesize", r.fileData.map fun data => .integer data.size),
    ("modtime", r.fileData.map fun data => .integer data.modified)]

lemma isRecordEntry_recordJson (r : Record) : IsRecordEntry r (recordJson r) := by
  refine isObject_record ?_
  cases r.header <;> cases r.fileData <;> rfl

lemma wellFormed_recordJson (r : Record) : (recordJson r).WellFormed := by
  refine wellFormed_record ?_
  cases r.header <;> cases r.fileData <;>
    simp [wellFormed_text, wellFormed_texts, WellFormed.integer]

lemma wellFormed_recordsJson (rs : List Record) : (recordsJson rs).WellFormed := by
  have hrecords : (array (rs.map recordJson)).WellFormed :=
    .array (List.forall_mem_map.2 fun r _ => wellFormed_recordJson r)
  exact wellFormed_record (by simp [hrecords, WellFormed.integer])

/-! ### Queries -/

/-- The names of what is needed, the header before the file. -/
structure IsNamesOf (needs : Needs) (names : List String) : Prop where
  order    : names.Sublist ["header", "filesystem"]
  header   : "header" ∈ names ↔ needs.header
  fileData : "filesystem" ∈ names ↔ needs.fileData

lemma isNamesOf_names (needs : Needs) : IsNamesOf needs needs.names := by
  rcases needs with ⟨_ | _, _ | _⟩ <;> exact ⟨by decide, by decide, by decide⟩

/-- The entry of a requirement. -/
def IsRequirementEntry (p : Requirement) (j : Json) : Prop :=
  ∃ names, IsNamesOf p.needs names ∧ IsObject [
    ("key", some (.text p.key.name)),
    ("negated", some (.bool p.negated)),
    ("expr", some (.text p.expr.text)),
    ("needs", some (.texts names))] j

lemma isRequirementEntry_requirementJson (p : Requirement) :
    IsRequirementEntry p (requirementJson p) :=
  ⟨p.needs.names, isNamesOf_names p.needs, isObject_record rfl⟩

lemma wellFormed_queryJson (q : Query) : (queryJson q).WellFormed := by
  have hrequirement : ∀ p, (requirementJson p).WellFormed := fun p =>
    wellFormed_record (by simp [wellFormed_text, wellFormed_texts, WellFormed.bool])
  have hrequirements : (array (q.requirements.map requirementJson)).WellFormed :=
    .array (List.forall_mem_map.2 fun p _ => hrequirement p)
  exact wellFormed_record (by simp [hrequirements, wellFormed_texts])

/-- The report of some records is read back as an object with their number and the entry of each of
them, in order. That of a query is read back with the entry of the requirement of each of its
clauses, in order, and what the query needs. -/
theorem json_reads_back :
    (∀ rs, ∃ entries j, ReadsBack (recordsJson rs) j ∧
      IsObject [("records", some (.array entries)), ("count", some (.integer rs.length))] j ∧
      List.Forall₂ IsRecordEntry rs entries) ∧
    ∀ cs q, Query.ofClauses cs = .ok q → ∃ entries names j, ReadsBack (queryJson q) j ∧
      IsObject [("clauses", some (.array entries)), ("needs", some (.texts names))] j ∧
      List.Forall₂ IsRequirementEntry q.requirements entries ∧ IsNamesOf q.needs names ∧
      List.Forall₂ (fun (c : Clause) p => p.key.name = c.key ∧ p.negated = c.negated) cs
        q.requirements := by
  constructor
  · intro rs
    exact ⟨rs.map recordJson, recordsJson rs, readsBack_self (wellFormed_recordsJson rs),
      isObject_record rfl, forall₂_map isRecordEntry_recordJson rs⟩
  · intro cs q h
    have hclauses := (Query.normalForm_of_ofClauses h).imp fun _ _ h => And.intro h.1 h.2.1
    exact ⟨q.requirements.map requirementJson, q.needs.names, queryJson q,
      readsBack_self (wellFormed_queryJson q), isObject_record rfl,
      forall₂_map isRequirementEntry_requirementJson q.requirements, isNamesOf_names q.needs,
      hclauses⟩

/-- A needle of a quote, a backslash and a line feed is escaped twice and read back. -/
theorem json_reads_back_escaped_needle :
    ∃ q, Query.ofClauses [⟨"name", true, .list ["\"\\\n"]⟩] = .ok q ∧
      ∃ entries names j, ReadsBack (queryJson q) j ∧
        IsObject [("clauses", some (.array entries)), ("needs", some (.texts names))] j ∧
        List.Forall₂ IsRequirementEntry q.requirements entries ∧ IsNamesOf q.needs names ∧
        List.Forall₂ (fun (c : Clause) p => p.key.name = c.key ∧ p.negated = c.negated)
          [⟨"name", true, .list ["\"\\\n"]⟩] q.requirements := by
  have h : Query.ofClauses [⟨"name", true, .list ["\"\\\n"]⟩] = .ok
      (.push {} ⟨(Key.find? "name").get (by decide), true, {},
        .not (.contains .name "\"\\\n")⟩) := by
    rfl
  exact ⟨_, h, json_reads_back.2 _ _ h⟩

end DemoQuery.Report
