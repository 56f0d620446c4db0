import DemoQuery.Text.Reading

/-!
# Sizes of files

A size below 1024 bytes is shown as it is. A larger one is taken to 53 significant bits and shown
in the largest binary unit that it reaches, up to tebibytes, with one decimal place. Both roundings
go to the nearest value, and to the even one of two that are equally near.
-/

namespace DemoQuery

/-! ### Rounding -/

/-- A quotient rounded to the nearest whole number, and to the even one of two. -/
def roundDiv (n d : Nat) : Nat :=
  if 2 * (n % d) < d ∨ (2 * (n % d) = d ∧ n / d % 2 = 0) then n / d else n / d + 1

/-- How many bits of a large size count. -/
def significantBits : Nat := 53

/-- A size taken to its significant bits. -/
def toSignificant (n : Nat) : Nat :=
  let unit := Nat.pow 2 (n.log2 + 1 - significantBits)
  roundDiv n unit * unit

/-! ### Units -/

/-- The units of sizes from 1024 bytes on. -/
inductive SizeUnit where
  | kibi
  | mebi
  | gibi
  | tebi
  deriving DecidableEq, Repr

/-- The number of bytes in a unit. -/
def SizeUnit.bytes : SizeUnit → Nat
  | .kibi => 1024
  | .mebi => 1024 * 1024
  | .gibi => 1024 * 1024 * 1024
  | .tebi => 1024 * 1024 * 1024 * 1024

/-- The name of a unit. -/
def SizeUnit.name : SizeUnit → String
  | .kibi => "KiB"
  | .mebi => "MiB"
  | .gibi => "GiB"
  | .tebi => "TiB"

/-- The largest unit that a size reaches. -/
def SizeUnit.reached (n : Nat) : SizeUnit :=
  if n < SizeUnit.mebi.bytes then .kibi
  else if n < SizeUnit.gibi.bytes then .mebi
  else if n < SizeUnit.tebi.bytes then .gibi
  else .tebi

/-! ### Sizes as shown -/

/-- A size as it is shown: bytes, or tenths of a unit. -/
inductive ShownSize where
  | bytes (n : Int)
  | scaled (tenths : Nat) (unit : SizeUnit)
  deriving DecidableEq, Repr

/-- How a number of bytes is shown. -/
def ShownSize.ofBytes (n : Int) : ShownSize :=
  if n < 1024 then .bytes n
  else
    let size := toSignificant n.toNat
    let unit := SizeUnit.reached size
    .scaled (roundDiv (size * 10) unit.bytes) unit

/-- The text of a size. -/
def ShownSize.text : ShownSize → String
  | .bytes n            => Text.ofInteger n ++ " B"
  | .scaled tenths unit => (tenths / 10).repr ++ "." ++ (tenths % 10).repr ++ " " ++ unit.name

/-- The text for a number of bytes (`format_size`). -/
def sizeText (n : Int) : String :=
  (ShownSize.ofBytes n).text

end DemoQuery
