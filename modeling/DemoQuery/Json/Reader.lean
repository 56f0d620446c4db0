import DemoQuery.Json.Token

/-!
# Reading JSON

A text is one value if its tokens, taken one after the other, begin and complete it. The reader
keeps the arrays and objects that are still open, innermost first, so that values may be nested to
any depth.
-/

namespace DemoQuery.Json

/-- An array or object that is not complete, with what it holds so far, last first. -/
inductive Open where
  | array (items : List Json)
  | object (members : List (JsonString × Json))
  /-- An object whose next member has this name and no value yet. -/
  | member (members : List (JsonString × Json)) (name : JsonString)

/-- What has to follow, given what is open. -/
inductive Position where
  /-- A value. -/
  | value (outer : List Open)
  /-- The first item or member, or the closing bracket. -/
  | start (outer : List Open)
  /-- The name of a member. -/
  | name (outer : List Open)
  /-- The colon behind a name. -/
  | colon (outer : List Open)
  /-- A comma or the closing bracket. -/
  | next (outer : List Open)
  /-- Nothing; the text is this value. -/
  | nothing (value : Json)

/-- The position behind a value. -/
def Position.behind? (v : Json) : List Open → Option Position
  | []                         => some (.nothing v)
  | .array items :: outer      => some (.next (.array (v :: items) :: outer))
  | .member members k :: outer => some (.next (.object ((k, v) :: members) :: outer))
  | .object _ :: _             => none

/-- The position behind the first token of a value. -/
def Position.begin? (outer : List Open) : Token → Option Position
  | .openArray     => some (.start (.array [] :: outer))
  | .openObject    => some (.start (.object [] :: outer))
  | .string s      => behind? (.string s) outer
  | .literal v     => behind? v outer
  | _              => none

/-- The position behind a token, if the token may stand at a position. -/
def Position.step? : Position → Token → Option Position
  | .value outer,                       t            => begin? outer t
  | .start (.array _ :: outer),         .closeArray  => behind? (.array []) outer
  | .start (.array items :: outer),     t            => begin? (.array items :: outer) t
  | .start (.object _ :: outer),        .closeObject => behind? (.object []) outer
  | .start (.object members :: outer),  .string s    => some (.colon (.member members s :: outer))
  | .name (.object members :: outer),   .string s    => some (.colon (.member members s :: outer))
  | .colon outer,                       .colon       => some (.value outer)
  | .next (.array items :: outer),      .comma       => some (.value (.array items :: outer))
  | .next (.array items :: outer),      .closeArray  => behind? (.array items.reverse) outer
  | .next (.object members :: outer),   .comma       => some (.name (.object members :: outer))
  | .next (.object members :: outer),   .closeObject => behind? (.object members.reverse) outer
  | _,                                  _            => none

/-- The value that tokens make up. -/
def ofTokens? (tokens : List Token) : Option Json :=
  match tokens.foldlM Position.step? (.value []) with
  | some (.nothing value) => some value
  | _                     => none

/-- The value that a text writes down. -/
def parse? (s : String) : Option Json :=
  (tokens? s.toList).bind ofTokens?

end DemoQuery.Json
