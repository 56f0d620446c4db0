import DemoQuery.Clause.Reader
import Mathlib.Data.PFun

/-!
# A cursor over a filter

A filter is kept as one text, and a cursor says by a number of bytes how much of it has been read.
Characters take up one to four bytes, so not every number is a place between two characters. The
cursor moves by the sizes of characters, goes back over a quote to find the end of the text in
front of it, and returns to where it was when a form of parameter does not fit.

To take a part of the text out at a number of bytes that is no such place is an error, from which
there is no way back. Loops go on until a round has an answer; that they end is not part of them.
-/

namespace DemoQuery.Cursor

open Text

/-! ### Taking parts out of a text -/

/-- Whether a number of bytes is a place between two characters of a text, or at one of its ends. -/
abbrev IsPlace (s : String) (p : Nat) : Prop :=
  (String.Pos.Raw.mk p).IsValid s

/-- The part of a text from a byte up to another: none if one of them is inside a character or
behind the text, or if they are in the wrong order. -/
def slice? (s : String) (start stop : Nat) : Option String :=
  if h : start ≤ stop ∧ IsPlace s start ∧ IsPlace s stop then
    some (String.extract (s.pos _ h.2.1) (s.pos _ h.2.2))
  else none

/-- The difference of two numbers of bytes: none if it is negative. -/
def before? (p size : Nat) : Option Nat :=
  if size ≤ p then some (p - size) else none

/-! ### Steps of a cursor -/

/-- A computation that moves a cursor. It has no result if it takes out a part of the text that
there is not, goes back to before the start of the text, or never ends. -/
abbrev Scan (α : Type) := StateT Nat Part α

/-- A round of a loop, together with where it finds and leaves the cursor. -/
def roundAt {α σ : Type} (round : σ → Scan (α ⊕ σ)) : σ × Nat →. (α × Nat) ⊕ (σ × Nat) := fun r =>
  (round r.1 r.2).map fun next => next.1.map (·, next.2) (·, next.2)

/-- Do one round after the other, each from what the one before hands on (`.inr`), up to one that
answers (`.inl`). -/
def loop {α σ : Type} (round : σ → Scan (α ⊕ σ)) (start : σ) : Scan α := fun p =>
  (roundAt round).fix (start, p)

variable (s : String)

/-- The text behind the cursor. -/
def rest : Scan String := do
  let p ← get
  StateT.lift (slice? s p s.utf8ByteSize)

/-- The text from a byte up to the cursor. -/
def since (start : Nat) : Scan String := do
  let p ← get
  StateT.lift (slice? s start p)

/-- The text from a byte up to the character `c` in front of the cursor. -/
def sinceBefore (start : Nat) (c : Char) : Scan String := do
  let p ← get
  let stop ← StateT.lift (before? p c.utf8Size)
  StateT.lift (slice? s start stop)

/-- Whether nothing stands behind the cursor (`is_at_end`). -/
def atEnd : Scan Bool := do
  let p ← get
  return s.utf8ByteSize ≤ p

/-! ### Characters -/

/-- The character behind the cursor. -/
def peek : Scan (Option Char) := do
  let text ← rest s
  return text.toList.head?

/-- Move over the character behind the cursor, whatever it is (`next_char`). -/
def nextChar : Scan (Option Char) := do
  match ← peek s with
  | none   => return none
  | some c =>
    modify (· + c.utf8Size)
    return some c

/-- Move over the character behind the cursor if it is the one expected. -/
def eat (expected : Char) : Scan Bool := do
  if (← peek s) = some expected then
    modify (· + expected.utf8Size)
    return true
  else
    return false

/-- Move over all characters of a kind. -/
def skipWhile (keep : Char → Bool) : Scan Unit :=
  loop (fun _ => do
    match ← peek s with
    | none   => return .inl ()
    | some c =>
      if keep c then
        let _ ← nextChar s
        return .inr ()
      else
        return .inl ()) ()

/-- Move over all characters of a kind and take them. -/
def readWhile (keep : Char → Bool) : Scan String := do
  let start ← get
  skipWhile s keep
  since s start

/-! ### Texts in quotes -/

/-- Move behind the next quote `q`, and take the text in front of it from a byte on. A backslash
takes the character behind it along. -/
def readUntilQuote (start : Nat) (q : Char) : Scan (Option String) :=
  loop (fun _ => do
    match ← nextChar s with
    | none   => return .inl none
    | some c =>
      if c = '\\' then
        match ← nextChar s with
        | none   => return .inl none
        | some _ => return .inr ()
      else if c = q then
        let text ← sinceBefore s start q
        return .inl (some text)
      else
        return .inr ()) ()

/-- Take the text between two quotes of the same kind, still escaped (`read_quoted_string`). -/
def readQuoted : Scan (Option String) := do
  match ← peek s with
  | none   => return none
  | some q =>
    if q = '"' ∨ q = '\'' then
      let _ ← nextChar s
      let start ← get
      readUntilQuote s start q
    else
      return none

/-! ### Keys -/

/-- Move behind the end of a clause, if it ends here (`read_terminator`): a comma, or the end of the
filter. -/
def readEnd : Scan Bool := do
  skipWhile s isBlank
  if ← atEnd s then
    return true
  else
    eat s ','

/-- Whether a key is negated, and its name (`read_key`). The cursor is left where the parameter
starts, and where it was if no key stands there. -/
def readKey : Scan (Except FilterError (Bool × String)) := do
  let start ← get
  let negated ← eat s '!'
  let key ← readWhile s isKeyChar
  if ← eat s ':' then
    skipWhile s isBlank
    return .ok (negated, key)
  else
    set start
    let found ← rest s
    return .error (.expectedKey (excerpt found.toList))

/-! ### Parameters -/

/-- A value as it stands in a filter. -/
structure RawValue where
  text   : String
  quoted : Bool
  deriving DecidableEq, Repr

/-- The value that is meant (`decode_value`). -/
def RawValue.decode (v : RawValue) : String :=
  if v.quoted then .ofList (unescape v.text.toList) else v.text

/-- A parameter as it stands in a filter. -/
inductive RawParameter where
  | list (values : List RawValue)
  | range (lower upper : Option String)
  deriving DecidableEq, Repr

/-- The parameter that is meant (`decode`). -/
def RawParameter.decode : RawParameter → Parameter
  | list values       => .list (values.map RawValue.decode)
  | range lower upper => .range lower upper

/-- A parameter, if its clause ends here. -/
def ended (parameter : RawParameter) : Scan (Option RawParameter) := do
  if ← readEnd s then
    return some parameter
  else
    return none

/-- A value in quotes. -/
def readQuotedValue : Scan (Option RawValue) := do
  match ← readQuoted s with
  | none      => return none
  | some text => return some ⟨text, true⟩

/-- A value without quotes, which is not empty. -/
def readPlainValue : Scan (Option RawValue) := do
  let text ← readWhile s isKeyChar
  if text = "" then
    return none
  else
    return some ⟨text, false⟩

/-- Whether more values of a tuple follow, if anything follows that may. A tuple of some kinds may
have a comma behind its last value. -/
def readMore (trailingComma : Bool) : Scan (Option Bool) := do
  skipWhile s isBlank
  if ← eat s ')' then
    return some false
  else if ← eat s ',' then
    if trailingComma then
      skipWhile s isBlank
      if ← eat s ')' then
        return some false
      else
        return some true
    else
      return some true
  else
    return none

/-- The values of a tuple behind those already read. -/
def readValues (value : Scan (Option RawValue)) (trailingComma : Bool) :
    List RawValue → Scan (Option (List RawValue)) :=
  loop fun values => do
    skipWhile s isBlank
    match ← value with
    | none   => return .inl none
    | some v =>
      match ← readMore s trailingComma with
      | none       => return .inl none
      | some false => return .inl (some (values ++ [v]))
      | some true  => return .inr (values ++ [v])

/-- A tuple that ends its clause. -/
def readTuple (value : Scan (Option RawValue)) (trailingComma : Bool) :
    Scan (Option RawParameter) := do
  if ← eat s '(' then
    match ← readValues s value trailingComma [] with
    | none        => return none
    | some values => ended s (.list values)
  else
    return none

/-- A range that ends its clause (`try_range`). -/
def readRange : Scan (Option RawParameter) := do
  let lower ← readWhile s Char.isDigit
  if ← eat s '.' then
    if ← eat s '.' then
      let upper ← readWhile s Char.isDigit
      if lower = "" ∧ upper = "" then
        return none
      else
        ended s (.range (bound? lower.toList) (bound? upper.toList))
    else
      return none
  else
    return none

/-- A parameter of a form that ends its clause. -/
def readForm : Form → Scan (Option RawParameter)
  | .quotedTuple => readTuple s (readQuotedValue s) true
  | .plainTuple  => readTuple s (readPlainValue s) false
  | .range       => readRange s
  | .plainValue  => do
    let text ← readWhile s isKeyChar
    ended s (.list [⟨text, false⟩])
  | .quotedValue => do
    match ← readQuotedValue s with
    | none   => return none
    | some v => ended s (.list [v])

/-- A parameter of the first form that fits. The cursor goes back to the start behind each form that
does not. -/
def readFirst (start : Nat) : List Form → Scan (Option RawParameter)
  | []            => return none
  | form :: forms => do
    match ← readForm s form with
    | some parameter => return some parameter
    | none           =>
      set start
      readFirst start forms

/-- The parameter behind the cursor (`read_parameter`). The cursor is left behind the end of the
clause, and where it was if no form fits. -/
def readParameter : Scan (Except FilterError RawParameter) := do
  let start ← get
  match ← readFirst s start Form.all with
  | some parameter => return .ok parameter
  | none           =>
    let found ← rest s
    return .error (.expectedParameter (excerpt found.toList))

/-! ### Clauses -/

/-- The clause behind the cursor. -/
def readClause : Scan (Except FilterError Clause) := do
  match ← readKey s with
  | .error e           => return .error e
  | .ok (negated, key) =>
    match ← readParameter s with
    | .error e => return .error e
    | .ok raw  =>
      match raw.decode.dropEmpty? with
      | none           => return .error (.emptyParameter key)
      | some parameter => return .ok ⟨key, negated, parameter⟩

/-- The clauses already read and those behind the cursor (`FilterParser.parse`). -/
def readClauses : List Clause → Scan (Except FilterError (List Clause)) :=
  loop fun clauses => do
    skipWhile s isBlank
    if ← atEnd s then
      return .inl (.ok clauses)
    else
      match ← readClause s with
      | .error e => return .inl (.error e)
      | .ok c    => return .inr (clauses ++ [c])

/-! ### Anything at all -/

/-- What can be done at a cursor. -/
inductive Operation where
  | rest
  | atEnd
  | peek
  | nextChar
  | eat (expected : Char)
  | skipBlanks
  | readIdentifier
  | readDigits
  | readQuoted
  | readEnd
  | readKey
  | readForm (form : Form)
  | readParameter
  deriving DecidableEq, Repr

/-- Do it, whatever the answer. -/
def Operation.run : Operation → Scan Unit
  | rest           => discard (Cursor.rest s)
  | atEnd          => discard (Cursor.atEnd s)
  | peek           => discard (Cursor.peek s)
  | nextChar       => discard (Cursor.nextChar s)
  | eat expected   => discard (Cursor.eat s expected)
  | skipBlanks     => skipWhile s isBlank
  | readIdentifier => discard (readWhile s isKeyChar)
  | readDigits     => discard (readWhile s Char.isDigit)
  | readQuoted     => discard (Cursor.readQuoted s)
  | readEnd        => discard (Cursor.readEnd s)
  | readKey        => discard (Cursor.readKey s)
  | readForm form  => discard (Cursor.readForm s form)
  | readParameter  => discard (Cursor.readParameter s)

/-- Do one thing after the other. -/
def runAll (operations : List Operation) : Scan Unit :=
  forM operations (Operation.run s)

end DemoQuery.Cursor
