/-!
The shortest decimal that reads back as a given binary floating-point number. A positive number is
m * 2 ^ q; the decimals that read back as it fill an interval around it. The grids of one, two, ...
seventeen significant digits are tried in turn, on each only the two neighbours of the number.
-/

namespace Handbook

/-- The decimal `digits * 10 ^ exponent`. -/
structure Decimal where
  digits : Nat
  exponent : Int
  deriving Repr, DecidableEq

namespace Decimal

/-- The magnitude `mantissa * 2 ^ exponent` of a finite number. -/
structure Binary where
  mantissa : Nat
  exponent : Int
  deriving Repr, DecidableEq

/-- A number as its sign and its magnitude, or one of the values that are no number. -/
inductive Unpacked where
  | finite (negative : Bool) (magnitude : Binary)
  | infinite (negative : Bool)
  | nan

/-- The parts that the 64 bits of a number stand for. -/
def unpack (bits : UInt64) : Unpacked :=
  let negative := bits >>> 63 = 1
  let field := ((bits >>> 52) &&& 0x7FF).toNat
  let fraction := (bits &&& 0xFFFFFFFFFFFFF).toNat
  if field = 0x7FF then
    if fraction = 0 then .infinite negative else .nan
  else if field = 0 then .finite negative ⟨fraction, -1074⟩
  else .finite negative ⟨fraction + (1 <<< 52), field - 1075⟩

/-- `count * 10 ^ tens` in the unit in which `part` measures quarters of the binary step. -/
def whole (count : Nat) (tens twos : Int) : Nat := count * Nat.pow 10 tens.toNat * Nat.pow 2 (-twos).toNat

/-- `count * 2 ^ twos` in the unit of `whole`. -/
def part (count : Nat) (tens twos : Int) : Nat := count * Nat.pow 2 twos.toNat * Nat.pow 10 (-tens).toNat

/-- The decimals that read back as a number: from `low` to `high`, counted in steps of `2 ^ twos`. The ends
belong to the interval when the mantissa is even. -/
structure Interval where
  low : Nat
  middle : Nat
  high : Nat
  twos : Int
  closed : Bool

/-- Half a step to each side; below a power of two the step is half as wide, unless it is the smallest. -/
def Binary.interval (x : Binary) : Interval :=
  let narrow := x.mantissa = (1 <<< 52) ∧ -1074 < x.exponent
  { low := 4 * x.mantissa - (if narrow then 1 else 2)
    middle := 4 * x.mantissa
    high := 4 * x.mantissa + 2
    twos := x.exponent - 2
    closed := x.mantissa % 2 = 0 }

/-- Whether the decimal reads back as the number that the interval surrounds. -/
def Interval.holds (range : Interval) (d : Decimal) : Bool :=
  let value := whole d.digits d.exponent range.twos
  let low := part range.low d.exponent range.twos
  let high := part range.high d.exponent range.twos
  (low < value && value < high) || (range.closed && (value = low || value = high))

/-- How many digits a positive number has before the point; zero or less for one below one tenth. -/
def Binary.places (x : Binary) : Int :=
  let shifted := part x.mantissa (-330) x.exponent / whole 1 (-330) x.exponent
  (Nat.toDigits 10 shifted).length - 330

/-- The decimal on the grid `10 ^ exponent` that reads back as the number and is nearest to it; an even one
if two are equally near. -/
def Interval.onGrid? (range : Interval) (exponent : Int) : Option Decimal :=
  let middle := part range.middle exponent range.twos
  let below := middle / whole 1 exponent range.twos
  let lower : Decimal := ⟨below, exponent⟩
  let upper : Decimal := ⟨below + 1, exponent⟩
  match range.holds lower, range.holds upper with
  | false, false => none
  | true, false => some lower
  | false, true => some upper
  | true, true =>
    let toLower := middle - whole below exponent range.twos
    let toUpper := whole (below + 1) exponent range.twos - middle
    if toLower < toUpper ∨ toLower = toUpper ∧ below % 2 = 0 then some lower else some upper

/-- The shortest decimal that reads back as a positive number. -/
def Binary.shortest (x : Binary) : Decimal :=
  let places := x.places
  ((List.range 17).findSome? fun n : Nat => x.interval.onGrid? (places - (n + 1))).getD ⟨0, 0⟩

example : (Binary.mk 0x1999999999999A (-56)).shortest = ⟨1, -1⟩ := by decide +kernel
example : (Binary.mk 1 (-1074)).shortest = ⟨5, -324⟩ := by decide +kernel

end Decimal

end Handbook
