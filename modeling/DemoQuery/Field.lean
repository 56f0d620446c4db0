import DemoQuery.Record

/-!
# Fields

The texts and numbers that a filter can ask for, how each is read off a record, and what data of
the record it needs. A record without a header is read as one with the empty header, and a record
without file data as one of size and modification time 0.
-/

namespace DemoQuery

/-- A text that a filter can search. -/
inductive TextField where
  | name
  | bookmarkLabels
  | mapName
  | hostname
  | clientId
  deriving DecidableEq, Repr

/-- A number that a filter can compare (`NumField`). -/
inductive NumberField where
  | killstreakCount
  | bookmarkCount
  | bestStreak
  | modified
  | size
  deriving DecidableEq, Repr

/-- A field of either kind. -/
inductive Field where
  | text   (field : TextField)
  | number (field : NumberField)
  deriving DecidableEq, Repr

/-! ### Reading a field -/

/-- The text that a field holds in a record (`project`). -/
def TextField.read (r : Record) : TextField → String
  | .name           => r.name
  | .bookmarkLabels => r.bookmarkLabels
  | .mapName        => (r.header.getD {}).mapName
  | .hostname       => (r.header.getD {}).hostname
  | .clientId       => (r.header.getD {}).clientId

/-- The number that a field holds in a record (`project`). -/
def NumberField.read (r : Record) : NumberField → Int
  | .killstreakCount => r.killstreaks.length
  | .bookmarkCount   => r.bookmarks.length
  | .bestStreak      => r.bestStreak
  | .modified        => (r.fileData.getD {}).modified
  | .size            => (r.fileData.getD {}).size

/-! ### How a field is shown -/

/-- How a query shows a text field. -/
def TextField.label : TextField → String
  | .name           => "name"
  | .bookmarkLabels => "bookmark_labels"
  | .mapName        => "header.map_name"
  | .hostname       => "header.hostname"
  | .clientId       => "header.clientid"

/-- How a query shows a number field. -/
def NumberField.label : NumberField → String
  | .killstreakCount => "len(killstreaks)"
  | .bookmarkCount   => "len(bookmarks)"
  | .bestStreak      => "max(killstreaks.peak)"
  | .modified        => "filedata.modtime"
  | .size            => "filedata.filesize"

/-- How a query shows a field. -/
def Field.label : Field → String
  | .text f   => f.label
  | .number f => f.label

/-- The type of a field's values, as the list of keys shows it (`ValueType`). -/
def Field.typeName : Field → String
  | .text _   => "str"
  | .number _ => "int"

/-! ### The data that a field needs -/

/-- The parts of a record that are fetched only when a query needs them (`Flags`). -/
structure Needs where
  header   : Bool := false
  fileData : Bool := false
  deriving DecidableEq, Repr, Inhabited

/-- What either of two queries needs. -/
def Needs.union (a b : Needs) : Needs :=
  ⟨a.header || b.header, a.fileData || b.fileData⟩

instance : Union Needs :=
  ⟨Needs.union⟩

/-- Whether nothing has to be fetched. -/
def Needs.isEmpty (n : Needs) : Bool :=
  !n.header && !n.fileData

/-- The names of the needed parts (`flag_names`). -/
def Needs.names (n : Needs) : List String :=
  (if n.header then ["header"] else []) ++ (if n.fileData then ["filesystem"] else [])

/-- What a field needs of a record beyond its name and its events. -/
def Field.needs : Field → Needs
  | .text .mapName | .text .hostname | .text .clientId => { header := true }
  | .number .modified | .number .size                  => { fileData := true }
  | _                                                  => {}

@[simp] theorem Needs.header_union (a b : Needs) : (a ∪ b).header = (a.header || b.header) := rfl

@[simp] theorem Needs.fileData_union (a b : Needs) :
    (a ∪ b).fileData = (a.fileData || b.fileData) := rfl

theorem Needs.isEmpty_iff (n : Needs) : n.isEmpty ↔ n = {} := by
  rcases n with ⟨_ | _, _ | _⟩ <;> decide

/-- Records that agree on what a text field needs agree on the field. -/
theorem TextField.read_congr {r s : Record} {f : TextField} (name : r.name = s.name)
    (bookmarks : r.bookmarks = s.bookmarks)
    (header : (Field.text f).needs.header → r.header = s.header) : f.read r = f.read s := by
  cases f <;> simp_all [read, Field.needs, Record.bookmarkLabels]

/-- Records that agree on what a number field needs agree on the field. -/
theorem NumberField.read_congr {r s : Record} {f : NumberField}
    (killstreaks : r.killstreaks = s.killstreaks) (bookmarks : r.bookmarks = s.bookmarks)
    (fileData : (Field.number f).needs.fileData → r.fileData = s.fileData) :
    f.read r = f.read s := by
  cases f <;> simp_all [read, Field.needs, Record.bestStreak]

end DemoQuery
