import DemoQuery.Text.Reading

/-!
# JSON

JSON values with all that a reader has to tell apart. Whole numbers are told from other number
literals, which are kept as written, and texts from string literals that write down half of a
surrogate pair, which are well-formed and yet no text.
-/

namespace DemoQuery

/-- What a string literal denotes: a text, or none. -/
abbrev JsonString := Option String

/-- A JSON value. The members of an object keep their order and may repeat a name. -/
inductive Json where
  | null
  | bool (b : Bool)
  /-- A number written without fraction and exponent, and not as a negative zero. -/
  | integer (n : Int)
  /-- Any other number, as written. -/
  | decimal (literal : String)
  | string (s : JsonString)
  | array (items : List Json)
  | object (members : List (JsonString × Json))
  deriving Repr, Inhabited

/-- The value of a text. -/
def Json.text (s : String) : Json :=
  .string (some s)

/-- The object with these members. -/
def Json.record (members : List (String × Json)) : Json :=
  .object (members.map fun (name, value) => (some name, value))

/-- The array of some texts. -/
def Json.texts (ss : List String) : Json :=
  .array (ss.map .text)

end DemoQuery

/-! ### Writing

Values are written over several lines, each level two blanks further in than the one around it; an
empty array or object stays on one line. String literals escape quotes, backslashes and control
characters, and nothing else. -/

namespace DemoQuery.Json

/-- The letter that stands for a character behind a backslash, if there is one. -/
def shortEscape? : Char → Option Char
  | '"'    => some '"'
  | '\\'   => some '\\'
  | '\x08' => some 'b'
  | '\x0c' => some 'f'
  | '\n'   => some 'n'
  | '\r'   => some 'r'
  | '\t'   => some 't'
  | _      => none

/-- A character as a string literal writes it. -/
def escapeChar (c : Char) : List Char :=
  match shortEscape? c with
  | some letter => ['\\', letter]
  | none        =>
    if c < ' ' then
      ['\\', 'u', '0', '0', Nat.digitChar (c.toNat / 16), Nat.digitChar (c.toNat % 16)]
    else [c]

/-- A text as a string literal. -/
def quote (s : String) : String :=
  .ofList ('"' :: s.toList.flatMap escapeChar ++ ['"'])

/-- A string literal for what one denotes; half of a surrogate pair for what is no text. -/
def quoteString : JsonString → String
  | some s => quote s
  | none   => "\"\\ud800\""

/-- The start of a line at a level. -/
def indentation (level : Nat) : String :=
  .ofList (.replicate (2 * level) ' ')

/-- Lines between brackets, each one level further in than the brackets. -/
def block (level : Nat) (opening closing : String) : List String → String
  | []    => opening ++ closing
  | lines =>
    opening ++ "\n" ++ ",\n".intercalate (lines.map (indentation (level + 1) ++ ·)) ++ "\n" ++
      indentation level ++ closing

mutual

/-- The text of a value whose first line starts at a level. -/
def prettyAt (level : Nat) : Json → String
  | null            => "null"
  | bool true       => "true"
  | bool false      => "false"
  | integer n       => Text.ofInteger n
  | decimal literal => literal
  | string s        => quoteString s
  | array items     => block level "[" "]" (prettyItems (level + 1) items)
  | object members  => block level "\x7b" "\x7d" (prettyMembers (level + 1) members)

/-- The text of each of some values. -/
def prettyItems (level : Nat) : List Json → List String
  | []            => []
  | item :: items => prettyAt level item :: prettyItems level items

/-- The text of each of some members. -/
def prettyMembers (level : Nat) : List (JsonString × Json) → List String
  | []                       => []
  | (name, value) :: members =>
    (quoteString name ++ ": " ++ prettyAt level value) :: prettyMembers level members

end

/-- The text of a value. -/
def pretty (j : Json) : String :=
  prettyAt 0 j

end DemoQuery.Json
