import DemoQuery.Clause.Reader
import DemoQuery.Expr
import DemoQuery.Key

/-!
# Queries

A query is what the clauses of a filter mean: one requirement for each clause, in the order of the
filter. A record matches if it meets them all. A query collects what the keys of its clauses need
of a record.
-/

namespace DemoQuery

/-- What one clause demands of a record (`CompiledClause`). -/
structure Requirement where
  key     : Key
  negated : Bool
  /-- What has to be supplied before the requirement is checked. -/
  needs   : Needs
  expr    : Expr
  deriving Repr

/-- What the clauses of a filter demand of a record (`CompiledQuery`). -/
structure Query where
  requirements : List Requirement := []
  /-- What has to be supplied before the query is checked. -/
  needs        : Needs := {}
  deriving Repr

/-! ### From clauses to requirements -/

/-- The number that a value of a key denotes (`coerce_int`). -/
def Key.number (k : Key) (value : String) : Except FilterError Int :=
  match Text.readInteger? value with
  | some n => .ok n
  | none   => .error (.invalidValue k.name value)

/-- That a number lies between the bounds that are given, or that it does not (`compile_range`). -/
def rangeExpr (field : NumberField) (negated : Bool) (lower upper : Option Int) : Expr :=
  let below := (lower.map fun n => Expr.compare field (if negated then .less else .atLeast) n).toList
  let above := (upper.map fun n => Expr.compare field (if negated then .greater else .atMost) n).toList
  if negated then .any (below ++ above) else .all (below ++ above)

/-- What a parameter of a key demands (`compile_clause`). A list asks for one of its values: to
occur in a text, or to be equal to a number. A range asks for a number between its bounds. -/
def Key.expr (k : Key) (negated : Bool) (parameter : Parameter) : Except FilterError Expr :=
  match parameter, k.field with
  | .list values, .text field =>
    .ok (.negateIf negated (.any (values.map (.contains field))))
  | .list values, .number field => do
    let numbers ← values.mapM k.number
    .ok (.negateIf negated (.any (numbers.map (.compare field .equal))))
  | .range lower upper, .number field => do
    let lower ← lower.mapM k.number
    let upper ← upper.mapM k.number
    .ok (rangeExpr field negated lower upper)
  | .range _ _, .text _ => .error (.rangeNotSupported k.name)

/-- What a clause demands, or why it makes no sense. -/
def Clause.requirement (c : Clause) : Except FilterError Requirement :=
  match Key.find? c.key with
  | none   => .error (.unknownKey c.key (Key.suggest? c.key))
  | some k => do
    c.parameter.validate k.name
    let expr ← k.expr c.negated c.parameter
    .ok ⟨k, c.negated, k.needs, expr⟩

/-- A query with one more requirement behind its own. -/
def Query.push (q : Query) (requirement : Requirement) : Query :=
  ⟨q.requirements ++ [requirement], q.needs ∪ requirement.needs⟩

/-- The query of some clauses, or why the first that makes no sense does not (`compile`). -/
def Query.ofClauses (clauses : List Clause) : Except FilterError Query :=
  clauses.foldlM (fun q c => c.requirement.map q.push) {}

/-- The query of a filter, or what is wrong with the filter (`process`). -/
def Query.parse (filter : String) : Except FilterError Query := do
  let clauses ← Clause.parse filter
  Query.ofClauses clauses

/-! ### Matching records -/

/-- Whether a record meets a requirement. -/
def Requirement.holds (r : Record) (q : Requirement) : Bool :=
  q.expr.holds r

/-- Whether a record meets every requirement of a query. -/
def Query.matches (q : Query) (r : Record) : Bool :=
  q.requirements.all (·.holds r)

/-- The records that match a query, in their order (`filter_records`). -/
def Query.filter (q : Query) (records : List Record) : List Record :=
  records.filter q.matches

end DemoQuery
