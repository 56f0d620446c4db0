/-!
# Clauses

A filter is a list of clauses, each a key with a parameter: the values of which a record must have
one, or the range in which its number must lie. A negated clause asks for the opposite. A filter
fails to be read or to make sense in one of several ways, each with a message of its own.
-/

namespace DemoQuery

/-! ### What can be wrong with a filter -/

/-- Why a filter is refused. -/
inductive FilterError where
  /-- No key and colon stand here; `found` is the start of what does. -/
  | expectedKey (found : String)
  /-- No form of parameter stands here; `found` is the start of what does. -/
  | expectedParameter (found : String)
  /-- The key is not one of the language; `suggestion` may be meant. -/
  | unknownKey (key : String) (suggestion : Option String)
  /-- The key asks for whole numbers and `value` is none. -/
  | invalidValue (key value : String)
  /-- The key has no value to look for. -/
  | emptyParameter (key : String)
  /-- The key asks for texts, which have no ranges. -/
  | rangeNotSupported (key : String)
  deriving DecidableEq, Repr

/-- How many characters of the filter a message quotes. -/
def excerptLength : Nat := 10

/-- The start of a text, as messages quote it (`context`). -/
def excerpt (cs : List Char) : String :=
  .ofList (cs.take excerptLength)

/-- What the user is told. -/
def FilterError.message : FilterError → String
  | .expectedKey found              => "expected key at \"" ++ found ++ "\""
  | .expectedParameter found        => "expected parameter at \"" ++ found ++ "\""
  | .unknownKey key none            => "unknown filter key: " ++ key
  | .unknownKey key (some meant) =>
    "unknown filter key: " ++ key ++ " (did you mean '" ++ meant ++ "'?)"
  | .invalidValue key value         => "invalid parameter for " ++ key ++ ": " ++ value
  | .emptyParameter key             => "empty parameter list for " ++ key
  | .rangeNotSupported key          => "key " ++ key ++ " does not accept a range"

/-! ### Clauses and their parameters -/

/-- What a clause asks for. Bounds of a range are kept as they were written. -/
inductive Parameter where
  /-- One of these values. -/
  | list (values : List String)
  /-- A number from `lower` to `upper`, both included. -/
  | range (lower upper : Option String)
  deriving DecidableEq, Repr

/-- A key with its parameter, as written in a filter. -/
structure Clause where
  key       : String
  negated   : Bool
  parameter : Parameter
  deriving DecidableEq, Repr

/-- Whether a parameter is a range (`is_range`). -/
def Parameter.isRange : Parameter → Bool
  | .list _    => false
  | .range _ _ => true

/-- The parameter without its empty values; none if nothing is left to look for. -/
def Parameter.dropEmpty? : Parameter → Option Parameter
  | .list values       =>
    match values.filter (· ≠ "") with
    | []     => none
    | v :: vs => some (.list (v :: vs))
  | .range lower upper => some (.range lower upper)

/-- Refuse a parameter that asks for nothing: a list that is empty or has an empty value, and a
range without bounds. -/
def Parameter.validate (key : String) : Parameter → Except FilterError Unit
  | .list values      =>
    if values = [] ∨ "" ∈ values then .error (.emptyParameter key) else .ok ()
  | .range none none  => .error (.expectedParameter "..")
  | .range _ _        => .ok ()

end DemoQuery
