/-!
# TOML

The values of a TOML document. A document is a table that is built up by its statements, in order:
pairs of a key and a value, and headers that say in which table the next pairs are. No key is given
twice, no table is opened twice, and a table that was written as a value is complete.
-/

namespace DemoQuery

/-- How a table came to be, which decides what may still be added to it. -/
inductive TableKind where
  /-- Written as a value, between braces. -/
  | inline
  /-- Opened by a header of its own. -/
  | header
  /-- Named by the header of a table inside it. -/
  | implicit
  /-- Named by a dotted key of a pair inside it. -/
  | dotted
  deriving DecidableEq, Repr

/-- A TOML value. Fractions and dates are told from other values and not kept. -/
inductive Toml where
  | string (s : String)
  | integer (n : Int)
  | boolean (b : Bool)
  | fraction
  | date
  | array (items : List Toml)
  | table (kind : TableKind) (entries : List (String × Toml))
  /-- Tables with the same repeated header, last first. -/
  | tables (items : List (List (String × Toml)))
  deriving Repr, Inhabited

/-- What a table holds, in the order of the document. -/
abbrev Entries := List (String × Toml)

namespace Entries

/-- The entries with another value for a key that is among them. -/
def replace (key : String) (value : Toml) (entries : Entries) : Entries :=
  entries.map fun entry => if entry.1 = key then (key, value) else entry

/-- The entries with a value under a dotted key. The tables on the way must be named by dotted keys
or headers only, and the last one by dotted keys; `dotted` says whether these entries are. -/
def insert? (dotted : Bool) (value : Toml) : List String → Entries → Option Entries
  | [],         _       => none
  | [key],      entries =>
    if dotted && (entries.lookup key).isNone then some (entries ++ [(key, value)]) else none
  | key :: path, entries =>
    match entries.lookup key with
    | none => (insert? true value path []).map fun inner => entries ++ [(key, .table .dotted inner)]
    | some (.table .dotted inner) =>
      (insert? true value path inner).map fun inner => entries.replace key (.table .dotted inner)
    | some (.table .implicit inner) =>
      (insert? false value path inner).map fun inner => entries.replace key (.table .implicit inner)
    | some (.tables (last :: others)) =>
      (insert? false value path last).map fun last => entries.replace key (.tables (last :: others))
    | some _ => none

/-- The entries after a change to those of the table that a header names. -/
def modify? (change : Entries → Option Entries) : List String → Entries → Option Entries
  | [],         entries => change entries
  | key :: path, entries =>
    match entries.lookup key with
    | none => (modify? change path []).map fun inner => entries ++ [(key, .table .implicit inner)]
    | some (.table .inline _) => none
    | some (.table kind inner) =>
      (modify? change path inner).map fun inner => entries.replace key (.table kind inner)
    | some (.tables (last :: others)) =>
      (modify? change path last).map fun last => entries.replace key (.tables (last :: others))
    | some _ => none

/-- The entries with an open table under a key, which no header may have opened before. -/
def openTable? (key : String) (entries : Entries) : Option Entries :=
  match entries.lookup key with
  | none                          => some (entries ++ [(key, .table .header [])])
  | some (.table .implicit inner) => some (entries.replace key (.table .header inner))
  | some _                        => none

/-- The entries with one more table under a key that only repeated headers open. -/
def openItem? (key : String) (entries : Entries) : Option Entries :=
  match entries.lookup key with
  | none                  => some (entries ++ [(key, .tables [[]])])
  | some (.tables others) => some (entries.replace key (.tables ([] :: others)))
  | some _                => none

end Entries

/-! ### Documents -/

/-- A statement of a document. Keys are given by their parts, of which there is at least one. -/
inductive Statement where
  | pair (key : List String) (value : Toml)
  | header (key : List String)
  | repeatedHeader (key : List String)
  deriving Repr, Inhabited

/-- A document as far as it has been read: its entries, and the table to which pairs are added. -/
structure Document where
  entries : Entries := []
  table   : List String := []
  deriving Repr, Inhabited

/-- A document with one more statement. -/
def Document.add? (d : Document) : Statement → Option Document
  | .pair key value     =>
    (d.entries.modify? (Entries.insert? true value key) d.table).map ({ d with entries := · })
  | .header key         =>
    (d.entries.modify? (Entries.openTable? (key.getLastD "")) key.dropLast).map (⟨·, key⟩)
  | .repeatedHeader key =>
    (d.entries.modify? (Entries.openItem? (key.getLastD "")) key.dropLast).map (⟨·, key⟩)

/-- The entries of a document with these statements. -/
def Entries.ofStatements? (statements : List Statement) : Option Entries :=
  (statements.foldlM Document.add? {}).map (·.entries)

end DemoQuery

/-! ### Writing

Texts are written between double quotes. Quotes and backslashes are escaped, and so are control
characters, by their code points. -/

namespace DemoQuery.Toml

/-- Whether a character cannot stand in a string as it is. -/
def isControl (c : Char) : Bool :=
  c < ' ' || c == '\x7f'

/-- A character as a string writes it. -/
def escapeChar (c : Char) : List Char :=
  if c == '"' || c == '\\' then ['\\', c]
  else if isControl c then
    ['\\', 'u', '0', '0', Nat.digitChar (c.toNat / 16), Nat.digitChar (c.toNat % 16)]
  else [c]

/-- A text as a string. -/
def quote (s : String) : String :=
  .ofList ('"' :: s.toList.flatMap escapeChar ++ ['"'])

/-- The word for a truth value. -/
def booleanWord (b : Bool) : String :=
  if b then "true" else "false"

/-- The line of a pair, given the texts of its key and its value. -/
def pairLine (key value : String) : String :=
  key ++ " = " ++ value ++ "\n"

/-- The line of a header, given the text of its key. -/
def headerLine (key : String) : String :=
  "[" ++ key ++ "]\n"

end DemoQuery.Toml
