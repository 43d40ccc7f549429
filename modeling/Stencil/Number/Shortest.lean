import Stencil.Number.Double

/-!
# Shortest decimals

A double is written with the fewest decimal digits that read back as the same double. The reals that read
back as a double form an interval around it. For one digit, two digits and so on, the decimals with that many
digits form a grid, and if any point of the grid lies in the interval, one of the two neighbours of the double
does. The first grid with such a point is taken; of two such points the nearer one, and of two equally near
ones the one with the even digit.
-/

namespace Stencil

/-- The decimal `digits * 10 ^ exponent`. -/
structure Decimal where
  /-- All digits, as a whole number. -/
  digits : Nat
  /-- The exponent of ten. -/
  exponent : Int
  deriving DecidableEq

namespace Double

/-- A quarter of the last place of a double, as a quotient. The ends of the interval of reals that round to
the double are whole multiples of it. -/
def quarter (x : Double) : Nat × Nat :=
  let exponent := x.exponent - 2
  (1 <<< exponent.toNat, 1 <<< (-exponent).toNat)

/-- Below a power of two the doubles lie twice as close, unless it is the least normal one. -/
def atPowerOfTwo (x : Double) : Bool :=
  x.significand == 0x10000000000000 && x.exponent != -1074

/-- The decimal reads back as the size of `x`: it lies between the midpoints to the two neighbours of `x`,
ends included if the significand is even. -/
def readsBackFrom (x : Double) (d : Decimal) : Bool :=
  let (num, den) := x.quarter
  let low := (4 * x.significand - if x.atPowerOfTwo then 1 else 2) * num * Nat.pow 10 (-d.exponent).toNat
  let high := (4 * x.significand + 2) * num * Nat.pow 10 (-d.exponent).toNat
  let point := d.digits * den * Nat.pow 10 d.exponent.toNat
  if x.significand % 2 = 0 then low ≤ point && point ≤ high else low < point && point < high

/-- The number of decimal digits before the point of a nonzero double; below one, the number of zeros
right behind the point is counted down from zero. -/
def magnitude (x : Double) : Int :=
  let (num, den) := x.quarter
  (Nat.toDigits 10 (4 * x.significand * num * Nat.pow 10 400 / den)).length - 400

/-- The decimal with `count` digits that reads back as `x` and is nearest to it, if one reads back. -/
def withDigits? (x : Double) (magnitude : Int) (count : Nat) : Option Decimal :=
  let (num, den) := x.quarter
  let exponent := magnitude - count
  let top := 4 * x.significand * num * Nat.pow 10 (-exponent).toNat
  let bottom := den * Nat.pow 10 exponent.toNat
  let below : Decimal := ⟨top / bottom, exponent⟩
  let above : Decimal := ⟨top / bottom + 1, exponent⟩
  match x.readsBackFrom below, x.readsBackFrom above with
  | true, true => some ⟨roundHalfEven top bottom, exponent⟩
  | true, false => some below
  | false, true => some above
  | false, false => none

/-- The decimal with the fewest digits that reads back as a nonzero `x`. Seventeen digits always do. -/
def shortest (x : Double) : Decimal :=
  let magnitude := x.magnitude
  ((List.range' 1 17).findSome? (x.withDigits? magnitude)).getD ⟨x.significand, x.exponent⟩

end Double

end Stencil
