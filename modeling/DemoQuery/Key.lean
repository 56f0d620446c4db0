import DemoQuery.Field
import DemoQuery.Text.Reading

/-!
# Keys

The keys of the filter language, in the order in which they are listed. A key is a name for a
field, with the data that has to be supplied before the field is read.

A name that is no key is answered with the key nearest to its small form, the first of several,
provided that it is near: at most three edits away, and fewer than the small form has characters,
so that some of it is kept. A name is never suggested for itself.
-/

namespace DemoQuery

/-- A key of the filter language (`KeySpec`). -/
structure Key where
  name  : String
  field : Field
  /-- What clauses with this key need of a record. -/
  needs : Needs
  deriving DecidableEq, Repr

/-- Every key of the filter language (`KEY_TABLE`). -/
def Key.all : List Key := [
  ⟨"name", .text .name, {}⟩,
  ⟨"bookmark_contains", .text .bookmarkLabels, {}⟩,
  ⟨"map", .text .mapName, { header := true }⟩,
  ⟨"hostname", .text .hostname, { header := true }⟩,
  ⟨"clientid", .text .clientId, { header := true }⟩,
  ⟨"killstreaks", .number .killstreakCount, {}⟩,
  ⟨"bookmarks", .number .bookmarkCount, {}⟩,
  ⟨"beststreak", .number .bestStreak, {}⟩,
  ⟨"moddate", .number .modified, { fileData := true }⟩,
  ⟨"filesize", .number .size, { fileData := true }⟩]

/-- The key with exactly this name (`lookup`). -/
def Key.find? (name : String) : Option Key :=
  Key.all.find? (·.name == name)

theorem Key.mem_all_of_find? {name : String} {k : Key} (h : Key.find? name = some k) :
    k ∈ Key.all :=
  List.mem_of_find?_eq_some h

/-- Every key asks for what reading its field takes. -/
theorem Key.needs_eq_field_needs {k : Key} (h : k ∈ Key.all) : k.needs = k.field.needs := by
  have hall : ∀ k ∈ Key.all, k.needs = k.field.needs := by decide
  exact hall k h

theorem Key.name_of_find? {name : String} {k : Key} (h : Key.find? name = some k) :
    k.name = name := by
  simpa using List.find?_some h

/-! ### Edit distance

The least number of characters to insert, delete or replace that turns one text into another. It
is computed row by row: a row holds the distances of one text to every tail of the other, and
putting a character in front of the text turns its row into the next one. -/

section

variable {α : Type} [DecidableEq α]

/-- The row of `a :: s` over the tails of `t`, the longest first, from the row of `s`. Each entry
is the least of keeping or replacing `a`, deleting it, and inserting the head of the tail. -/
def nextRow (a : α) : List α → List Nat → List Nat
  | [],     row => row.map (· + 1)
  | b :: t, row =>
    let rest := nextRow a t row.tail
    let keep := row.tail.headD 0 + if a = b then 0 else 1
    min keep (min (row.headD 0 + 1) (rest.headD 0 + 1)) :: rest

/-- The distances of a text to the tails of `t`, the longest tail first. -/
def distanceRow : List α → List α → List Nat
  | [],     t => (List.range (t.length + 1)).reverse
  | a :: s, t => nextRow a t (distanceRow s t)

/-- The least number of insertions, deletions and replacements between two texts. -/
def editDistance (s t : List α) : Nat :=
  (distanceRow s t).headD 0

end

/-! ### Suggested keys -/

/-- The greatest distance of a suggested key (`MAX_SUGGESTION_DISTANCE`). -/
def maxSuggestionDistance : Nat := 3

/-- The distance of a key to the small form of a name. -/
def Key.distance (name : String) (k : Key) : Nat :=
  editDistance (Text.lower name.toList) k.name.toList

/-- The name of the key that is suggested for a name, if one is near enough (`suggest`). -/
def Key.suggest? (name : String) : Option String :=
  (Key.all.minOn? (Key.distance name)).bind fun k =>
    if k.distance name ≤ maxSuggestionDistance ∧
        k.distance name < (Text.lower name.toList).length ∧ k.name ≠ name
    then some k.name else none

end DemoQuery
