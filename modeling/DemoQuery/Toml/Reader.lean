import DemoQuery.Toml.Number
import DemoQuery.Toml.Text

/-!
# Reading TOML

A document consists of lines, each with a statement, a comment or nothing on it. A value can go on
over several lines where it is an array or a long string.
-/

namespace DemoQuery.Toml

/-! ### Repetition -/

/-- The pieces that a reader finds one behind the other, until it finds the end of them, and the
rest. Each piece has to take up some of the text. -/
def readMany? {α : Type} (piece? : List Char → Option (Option α × List Char)) (cs : List Char) :
    Option (List α × List Char) :=
  match piece? cs with
  | none                   => none
  | some (none, rest)      => some ([], rest)
  | some (some item, rest) =>
    if rest.length < cs.length then
      (readMany? piece? rest).map fun (items, rest) => (item :: items, rest)
    else none
termination_by cs.length

/-! ### Blanks and comments -/

/-- A text without the comment that it starts with. -/
def skipComment : List Char → List Char
  | '#' :: cs => cs.dropWhile isPlain
  | cs        => cs

/-- What follows the end of a line, with a comment or without. -/
def endOfLine? (cs : List Char) : Option (List Char) :=
  match skipComment (cs.dropWhile isSpace) with
  | []     => some []
  | behind => newline? behind

theorem length_skipComment_le (cs : List Char) : (skipComment cs).length ≤ cs.length := by
  unfold skipComment
  split
  · exact Nat.le_succ_of_le (List.dropWhile_suffix isPlain).length_le
  · exact Nat.le_refl _

/-- A text without the blanks, comments and line ends that it starts with. -/
def skipLines : List Char → List Char
  | []      => []
  | c :: cs =>
    if isSpace c then skipLines cs
    else
      match _h : newline? (skipComment (c :: cs)) with
      | some rest => skipLines rest
      | none      => c :: cs
termination_by cs => cs.length
decreasing_by
  · simp
  · exact Nat.lt_of_lt_of_le (length_newline_lt _h) (length_skipComment_le _)

/-! ### Keys -/

/-- Whether a character may stand in a key without quotes. -/
def isBare (c : Char) : Bool :=
  c.isAlphanum || c == '_' || c == '-'

/-- The part of a key that stands here, and the rest. -/
def keyPart? (cs : List Char) : Option (String × List Char) :=
  match cs.dropWhile isSpace with
  | '"' :: behind  => (basicText? behind).map fun (text, rest) => (.ofList text, rest)
  | '\'' :: behind => (literalText? behind).map fun (text, rest) => (.ofList text, rest)
  | behind         =>
    match behind.takeWhile isBare with
    | []   => none
    | text => some (.ofList text, behind.dropWhile isBare)

/-- The next part of a key, behind a dot, if there is one. -/
def furtherKeyPart? (cs : List Char) : Option (Option String × List Char) :=
  match cs.dropWhile isSpace with
  | '.' :: behind => (keyPart? behind).map fun (part, rest) => (some part, rest)
  | behind        => some (none, behind)

/-- The least number of parts that a key may not have. -/
def tooManyKeyParts : Nat := 80

/-- The parts of the key that stands here, and the rest. -/
def key? (cs : List Char) : Option (List String × List Char) := do
  let (part, behind) ← keyPart? cs
  let (parts, rest) ← readMany? furtherKeyPart? behind
  if parts.length + 1 < tooManyKeyParts then return (part :: parts, rest) else none

/-! ### Values -/

/-- How to read a value. -/
abbrev ValueReader := List Char → Option (Toml × List Char)

/-- The value that stands here, which is no array and no table, and the rest. -/
def scalar? : ValueReader
  | 't' :: 'r' :: 'u' :: 'e' :: rest        => some (.boolean true, rest)
  | 'f' :: 'a' :: 'l' :: 's' :: 'e' :: rest => some (.boolean false, rest)
  | cs =>
    match string? cs with
    | some (s, rest) => some (.string s, rest)
    | none           =>
      match date? cs with
      | some rest => some (.date, rest)
      | none      => number? cs

/-- The next item of an array, with the comma behind it, or the end of the array. -/
def arrayItem? (value? : ValueReader) (cs : List Char) : Option (Option Toml × List Char) :=
  match skipLines cs with
  | ']' :: rest => some (none, rest)
  | behind      => do
    let (item, behind) ← value? behind
    match skipLines behind with
    | ',' :: rest => return (some item, rest)
    | ']' :: rest => return (some item, ']' :: rest)
    | _           => none

/-- The pair of a key and a value that stands here, and the rest. -/
def pair? (value? : ValueReader) (cs : List Char) : Option ((List String × Toml) × List Char) := do
  let (key, behind) ← key? cs
  let behind ← mark? '=' behind
  let (value, rest) ← value? (behind.dropWhile isSpace)
  return ((key, value), rest)

/-- The next pair of a table, behind a comma, or the end of the table. -/
def furtherPair? (value? : ValueReader) (cs : List Char) :
    Option (Option (List String × Toml) × List Char) :=
  match cs.dropWhile isSpace with
  | '}' :: rest   => some (none, rest)
  | ',' :: behind => (pair? value? behind).map fun (pair, rest) => (some pair, rest)
  | _             => none

/-- The pairs up to the end of a table that is written as a value, and the rest. -/
def inlinePairs? (value? : ValueReader) (cs : List Char) :
    Option (List (List String × Toml) × List Char) :=
  match cs.dropWhile isSpace with
  | '}' :: rest => some ([], rest)
  | behind      => do
    let (pair, behind) ← pair? value? behind
    let (pairs, rest) ← readMany? (furtherPair? value?) behind
    return (pair :: pairs, rest)

/-- The table with these pairs. -/
def inlineTable? (pairs : List (List String × Toml)) : Option Toml :=
  (pairs.foldlM (fun entries (key, value) => Entries.insert? true value key entries) []).map
    (.table .inline)

/-- The value that stands here, with at most so many levels of arrays and tables, and the rest. -/
def value? : Nat → ValueReader
  | depth + 1, '[' :: cs => do
    let (items, rest) ← readMany? (arrayItem? (value? depth)) cs
    return (.array items, rest)
  | depth + 1, '{' :: cs => do
    let (pairs, rest) ← inlinePairs? (value? depth) cs
    return (← inlineTable? pairs, rest)
  | _,         cs        => scalar? cs

/-- How many levels of arrays and tables a value may have. -/
def maxDepth : Nat := 79

/-! ### Documents -/

/-- The statement that stands here, and the rest. -/
def statement? (cs : List Char) : Option (Statement × List Char) :=
  match cs with
  | '[' :: '[' :: cs => do
    let (key, behind) ← key? cs
    return (.repeatedHeader key, ← mark? ']' (← mark? ']' behind))
  | '[' :: cs        => do
    let (key, behind) ← key? cs
    return (.header key, ← mark? ']' behind)
  | cs               => do
    let ((key, value), rest) ← pair? (value? maxDepth) cs
    return (.pair key value, rest)

/-- The next line of a document, with the statements on it, of which there is at most one. -/
def line? (cs : List Char) : Option (Option (List Statement) × List Char) :=
  match cs.dropWhile isSpace with
  | []     => some (none, [])
  | behind =>
    match endOfLine? behind with
    | some rest => some (some [], rest)
    | none      => do
      let (statement, behind) ← statement? behind
      return (some [statement], ← endOfLine? behind)

/-- The statements of a document. -/
def statements? (cs : List Char) : Option (List Statement) :=
  (readMany? line? cs).map fun (lines, _) => lines.flatten

/-- The entries of the document that a text writes down. A byte order mark may stand in front. -/
def parse? (s : String) : Option Entries :=
  let cs := match s.toList with
    | '\ufeff' :: cs => cs
    | cs             => cs
  (statements? cs).bind Entries.ofStatements?

end DemoQuery.Toml
