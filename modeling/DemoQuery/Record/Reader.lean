import DemoQuery.Json.Reader
import DemoQuery.Record
import DemoQuery.Text.Reading

/-!
# Reading records

A file of records is a JSON array of them. A structure is an object, whose members may stand in
any order among unknown ones, or an array of its fields in their order, the last of which may be
left out where they have a default. A known member that is given twice is refused.
-/

namespace DemoQuery

namespace Json

/-- What a structure with these fields has for each of them. -/
def fields? (names : List String) : Json → Option (List (Option Json))
  | .object members =>
    if members.all (·.1.isSome) &&
        names.all fun name => members.countP (·.1 == some name) ≤ 1
    then some (names.map fun name => members.lookup (some name))
    else none
  | .array items    =>
    if items.length ≤ names.length
    then some (items.map some ++ .replicate (names.length - items.length) none)
    else none
  | _               => none

/-- The text that a value is. -/
def asText? : Json → Option String
  | .string s => s
  | _         => none

/-- The whole number that a value is, if it fits in 64 bits. -/
def asInteger? : Json → Option Int
  | .integer n => if Text.FitsWord n then some n else none
  | _          => none

/-- The list that a value is, given how its items are read. -/
def asList? {α : Type} (item : Json → Option α) : Json → Option (List α)
  | .array items => items.mapM item
  | _            => none

/-- What a value is unless it is null. -/
def asOption? {α : Type} (read : Json → Option α) : Json → Option (Option α)
  | .null => some none
  | j     => (read j).map some

/-- What a field is, or its default if it is left out. -/
def orDefault {α : Type} (value : α) (read : Json → Option α) : Option Json → Option α
  | none   => some value
  | some j => read j

end Json

open Json

/-- The killstreak that a value is. -/
def Killstreak.ofJson? (j : Json) : Option Killstreak :=
  match j.fields? ["peak", "tick"] with
  | some [some peak, some tick] => return ⟨← peak.asInteger?, ← tick.asInteger?⟩
  | _                           => none

/-- The bookmark that a value is. -/
def Bookmark.ofJson? (j : Json) : Option Bookmark :=
  match j.fields? ["label", "tick"] with
  | some [some label, some tick] => return ⟨← label.asText?, ← tick.asInteger?⟩
  | _                            => none

/-- The header that a value is. -/
def Header.ofJson? (j : Json) : Option Header :=
  match j.fields? ["map_name", "hostname", "clientid"] with
  | some [mapName, hostname, clientId] =>
    return ⟨← orDefault "" asText? mapName, ← orDefault "" asText? hostname,
      ← orDefault "" asText? clientId⟩
  | _                                  => none

/-- The file data that a value is. -/
def FileData.ofJson? (j : Json) : Option FileData :=
  match j.fields? ["filesize", "modtime"] with
  | some [some size, some modified] => return ⟨← size.asInteger?, ← modified.asInteger?⟩
  | _                               => none

/-- The record that a value is. -/
def Record.ofJson? (j : Json) : Option Record :=
  match j.fields? ["name", "killstreaks", "bookmarks", "header", "filedata"] with
  | some [some name, killstreaks, bookmarks, header, fileData] =>
    return {
      name        := ← name.asText?
      killstreaks := ← orDefault [] (asList? Killstreak.ofJson?) killstreaks
      bookmarks   := ← orDefault [] (asList? Bookmark.ofJson?) bookmarks
      header      := ← orDefault none (asOption? Header.ofJson?) header
      fileData    := ← orDefault none (asOption? FileData.ofJson?) fileData }
  | _                                                          => none

/-- The records that a text writes down. -/
def Record.parseAll? (s : String) : Option (List Record) :=
  (Json.parse? s).bind (asList? Record.ofJson?)

end DemoQuery
