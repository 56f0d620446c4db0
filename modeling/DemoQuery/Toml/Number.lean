import DemoQuery.Calendar
import DemoQuery.Text.Reading
import DemoQuery.Toml

/-!
# Numbers and dates of TOML

A number has no zero in front of other digits, and single underscores may stand between its digits.
Integers are written in base ten, or without a sign in base sixteen, eight or two, and fit in 64
bits. Fractions have a point, an exponent or both, and do not round to positive infinity as a binary
number of 64 bits. A date, a time of day or both are told from numbers by their marks.
-/

namespace DemoQuery.Toml

/-! ### Digits -/

/-- The run of digits of a base that stands here, and the rest. An underscore that stands behind a
digit has to stand before another one. -/
def digitRun? (base : Nat) : List Char → Option (List Char × List Char)
  | c :: '_' :: cs =>
    if Text.isDigitOf base c then
      (digitRun? base cs).map fun (digits, rest) => (c :: digits, rest)
    else none
  | c :: d :: cs   =>
    if Text.isDigitOf base c then
      if Text.isDigitOf base d then
        (digitRun? base (d :: cs)).map fun (digits, rest) => (c :: digits, rest)
      else some ([c], d :: cs)
    else none
  | [c]            => if Text.isDigitOf base c then some ([c], []) else none
  | []             => none

/-- The digits before the point, and the rest. -/
def wholePart? : List Char → Option (List Char × List Char)
  | '0' :: cs => some (['0'], cs)
  | cs        => digitRun? 10 cs

/-- The digits behind the point, if there is one, and the rest. -/
def fractionPart? : List Char → Option (Option (List Char) × List Char)
  | '.' :: cs => (digitRun? 10 cs).map fun (digits, rest) => (some digits, rest)
  | cs        => some (none, cs)

/-- Whether a minus stands here, and what follows the sign. -/
def sign : List Char → Bool × List Char
  | '+' :: cs => (false, cs)
  | '-' :: cs => (true, cs)
  | cs        => (false, cs)

/-- A number with its sign. -/
def signed (negative : Bool) (n : Nat) : Int :=
  if negative then -n else n

/-- The exponent, if there is one, and the rest. -/
def exponentPart? : List Char → Option (Option Int × List Char)
  | 'e' :: cs | 'E' :: cs =>
    let (negative, behind) := sign cs
    (digitRun? 10 behind).map fun (digits, rest) =>
      (some (signed negative (Nat.ofDigitChars 10 digits 0)), rest)
  | cs                    => some (none, cs)

/-! ### Values -/

/-- The value of a whole number, if it fits in 64 bits. -/
def integerValue? (n : Int) : Option Toml :=
  if Text.FitsWord n then some (.integer n) else none

/-- The least number that rounds to infinity: the largest finite binary number of 64 bits is one
unit of `2 ^ 971` below `2 ^ 1024`, and this is half way between. -/
def leastInfinite : Nat :=
  Nat.pow 2 1024 - Nat.pow 2 970

/-- Whether digits times a power of ten round to infinity. The number of significant digits and the
exponent tell, unless the number has 309 digits before the point. -/
def roundsToInfinity (digits : List Char) (exponent : Int) : Bool :=
  let significant := digits.dropWhile (· == '0')
  let width := significant.length + exponent
  if significant.isEmpty || width < 309 then false
  else if 309 < width then true
  else
    leastInfinite * Nat.pow 10 (-exponent).toNat ≤
      Nat.ofDigitChars 10 significant 0 * Nat.pow 10 exponent.toNat

/-- The value of a number with a point, an exponent or both. -/
def fractionValue? (negative : Bool) (whole places : List Char) (exponent : Int) : Option Toml :=
  if !negative && roundsToInfinity (whole ++ places) (exponent - places.length) then none
  else some .fraction

/-- The number in base ten that stands here, behind its sign, and the rest. -/
def decimal? (negative : Bool) (cs : List Char) : Option (Toml × List Char) := do
  let (whole, behind) ← wholePart? cs
  let (places, behind) ← fractionPart? behind
  let (exponent, rest) ← exponentPart? behind
  let number ←
    if places.isNone && exponent.isNone then
      integerValue? (signed negative (Nat.ofDigitChars 10 whole 0))
    else fractionValue? negative whole (places.getD []) (exponent.getD 0)
  return (number, rest)

/-- The integer in a base that stands here, and the rest. -/
def basedInteger? (base : Nat) (cs : List Char) : Option (Toml × List Char) := do
  let (digits, rest) ← digitRun? base cs
  let number ← integerValue? (← Text.readBase? base digits)
  return (number, rest)

/-- The number that stands here, and the rest. -/
def number? (cs : List Char) : Option (Toml × List Char) :=
  match cs with
  | '0' :: 'x' :: cs => basedInteger? 16 cs
  | '0' :: 'o' :: cs => basedInteger? 8 cs
  | '0' :: 'b' :: cs => basedInteger? 2 cs
  | _ =>
    match sign cs with
    | (_, 'i' :: 'n' :: 'f' :: rest) => some (.fraction, rest)
    | (_, 'n' :: 'a' :: 'n' :: rest) => some (.fraction, rest)
    | (negative, behind)             => decimal? negative behind

/-! ### Dates -/

/-- The number of exactly so many digits that stands here, if it is in a range, and the rest. -/
def fixedNumber? (width low high : Nat) (cs : List Char) : Option (Nat × List Char) :=
  (Text.readBase? 10 (cs.take width)).bind fun n =>
    if width ≤ cs.length ∧ low ≤ n ∧ n ≤ high then some (n, cs.drop width) else none

/-- What follows a mark. -/
def mark? (mark : Char) : List Char → Option (List Char)
  | c :: cs => if c = mark then some cs else none
  | []      => none

/-- What follows a day of the calendar. -/
def day? (cs : List Char) : Option (List Char) := do
  let (year, cs) ← fixedNumber? 4 0 9999 cs
  let (month, cs) ← fixedNumber? 2 1 12 (← mark? '-' cs)
  let (_, cs) ← fixedNumber? 2 1 (daysOfMonth year month) (← mark? '-' cs)
  return cs

/-- What follows a fraction of a second, if there is one. -/
def skipFraction : List Char → List Char
  | '.' :: c :: cs => if c.isDigit then cs.dropWhile Char.isDigit else '.' :: c :: cs
  | cs             => cs

/-- What follows a time of day. -/
def timeOfDay? (cs : List Char) : Option (List Char) := do
  let (_, cs) ← fixedNumber? 2 0 23 cs
  let (_, cs) ← fixedNumber? 2 0 59 (← mark? ':' cs)
  let (_, cs) ← fixedNumber? 2 0 60 (← mark? ':' cs)
  return skipFraction cs

/-- What follows the distance from universal time. -/
def offset? : List Char → Option (List Char)
  | 'Z' :: cs | 'z' :: cs => some cs
  | '+' :: cs | '-' :: cs => do
    let (_, cs) ← fixedNumber? 2 0 23 cs
    let (_, cs) ← fixedNumber? 2 0 59 (← mark? ':' cs)
    return cs
  | _                     => none

/-- What follows a time of day behind the mark that ties it to a date. -/
def tiedTime? : List Char → Option (List Char)
  | 'T' :: cs | 't' :: cs | ' ' :: cs =>
    (timeOfDay? cs).map fun behind => (offset? behind).getD behind
  | _                                 => none

/-- What follows a date, a time of day or both. -/
def date? (cs : List Char) : Option (List Char) :=
  match day? cs with
  | some behind => some ((tiedTime? behind).getD behind)
  | none        => timeOfDay? cs

end DemoQuery.Toml
