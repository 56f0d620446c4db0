import DemoQuery.Field
import DemoQuery.Text.Reading
import DemoQuery.Text.Showing

/-!
# Expressions

What a clause means: a tree of conditions on the fields of a record. Texts given by the user occur
only as what a field is searched for, so they are compared and never interpreted.
-/

namespace DemoQuery

/-! ### Comparisons -/

/-- How a number is compared with a given one (`CmpOp`). -/
inductive Comparison where
  | equal
  | less
  | atMost
  | greater
  | atLeast
  deriving DecidableEq, Repr

/-- Whether a comparison holds between two numbers. -/
def Comparison.holds (op : Comparison) (a b : Int) : Bool :=
  match op with
  | .equal   => a == b
  | .less    => a < b
  | .atMost  => a ≤ b
  | .greater => b < a
  | .atLeast => b ≤ a

/-- The sign of a comparison. -/
def Comparison.symbol : Comparison → String
  | .equal   => "=="
  | .less    => "<"
  | .atMost  => "<="
  | .greater => ">"
  | .atLeast => ">="

/-! ### Expressions -/

/-- A condition on a record. -/
inductive Expr where
  /-- The needle occurs in the text field. -/
  | contains (field : TextField) (needle : String)
  /-- The number field compares with the value. -/
  | compare (field : NumberField) (op : Comparison) (value : Int)
  /-- Every argument holds. -/
  | and (args : List Expr)
  /-- Some argument holds. -/
  | or (args : List Expr)
  /-- The argument does not hold. -/
  | not (arg : Expr)
  deriving Repr, Inhabited

/-- The conjunction of conditions, which is the condition itself if there is only one. -/
def Expr.all : List Expr → Expr
  | [e] => e
  | es  => .and es

/-- The disjunction of conditions, which is the condition itself if there is only one. -/
def Expr.any : List Expr → Expr
  | [e] => e
  | es  => .or es

/-- The condition, or its opposite (`negate_if`). -/
def Expr.negateIf (negated : Bool) (e : Expr) : Expr :=
  if negated then .not e else e

/-! ### Meaning -/

/-- Whether a text occurs in another, without gaps. -/
def occursIn (needle : List Char) : List Char → Bool
  | []      => needle.isEmpty
  | c :: cs => needle.isPrefixOf (c :: cs) || occursIn needle cs

@[simp] theorem occursIn_iff {needle cs : List Char} : occursIn needle cs ↔ needle <:+: cs := by
  induction cs with
  | nil => simp [occursIn]
  | cons c cs ih =>
    rw [occursIn, Bool.or_eq_true, ih, List.isPrefixOf_iff_prefix, List.infix_cons_iff]

mutual

/-- Whether a record meets a condition (`evaluate`). -/
def Expr.holds (r : Record) : Expr → Bool
  | .contains field needle    => occursIn needle.toList (field.read r).toList
  | .compare field op value   => op.holds (field.read r) value
  | .and args                 => Expr.allHold r args
  | .or args                  => Expr.someHolds r args
  | .not arg                  => !arg.holds r

/-- Whether a record meets every one of some conditions. -/
def Expr.allHold (r : Record) : List Expr → Bool
  | []      => true
  | e :: es => e.holds r && Expr.allHold r es

/-- Whether a record meets one of some conditions. -/
def Expr.someHolds (r : Record) : List Expr → Bool
  | []      => false
  | e :: es => e.holds r || Expr.someHolds r es

end

theorem Expr.allHold_eq (r : Record) (es : List Expr) :
    Expr.allHold r es = es.all (·.holds r) := by
  induction es with
  | nil          => rfl
  | cons e es ih => simp [allHold, ih]

theorem Expr.someHolds_eq (r : Record) (es : List Expr) :
    Expr.someHolds r es = es.any (·.holds r) := by
  induction es with
  | nil          => rfl
  | cons e es ih => simp [someHolds, ih]

@[simp] theorem Expr.holds_and (r : Record) (es : List Expr) :
    (Expr.and es).holds r = es.all (·.holds r) := by
  rw [holds, allHold_eq]

@[simp] theorem Expr.holds_or (r : Record) (es : List Expr) :
    (Expr.or es).holds r = es.any (·.holds r) := by
  rw [holds, someHolds_eq]

@[simp] theorem Expr.holds_not (r : Record) (e : Expr) : (Expr.not e).holds r = !e.holds r := by
  rw [holds]

@[simp] theorem Expr.holds_all (r : Record) (es : List Expr) :
    (Expr.all es).holds r = es.all (·.holds r) := by
  unfold Expr.all
  split <;> simp

@[simp] theorem Expr.holds_any (r : Record) (es : List Expr) :
    (Expr.any es).holds r = es.any (·.holds r) := by
  unfold Expr.any
  split <;> simp

/-! ### Text -/

mutual

/-- How a condition is shown. -/
def Expr.text : Expr → String
  | .contains field needle  => field.label ++ " contains " ++ Text.display needle
  | .compare field op value => field.label ++ " " ++ op.symbol ++ " " ++ Text.ofInteger value
  | .and args               => "(" ++ " and ".intercalate (Expr.texts args) ++ ")"
  | .or args                => "(" ++ " or ".intercalate (Expr.texts args) ++ ")"
  | .not arg                => "not " ++ arg.text

/-- How each of some conditions is shown. -/
def Expr.texts : List Expr → List String
  | []      => []
  | e :: es => e.text :: Expr.texts es

end

theorem Expr.texts_eq (es : List Expr) : Expr.texts es = es.map Expr.text := by
  induction es with
  | nil          => rfl
  | cons e es ih => simp [texts, ih]

end DemoQuery
