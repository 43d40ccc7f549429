/-!
# Double-precision numbers

A finite binary64 number is kept as a sign, a significand and an exponent of two, in the one form that the
format stores it in. No floating-point arithmetic is needed: numbers are read, compared and written, and all
of that is exact arithmetic on natural numbers.
-/

namespace Stencil

/-- A finite binary64 number. Its size is `significand * 2 ^ exponent`. -/
structure Double where
  /-- The sign bit, which zero has as well. -/
  negative : Bool
  /-- The significand, as a whole number. -/
  significand : Nat
  /-- The exponent of two. -/
  exponent : Int
  /-- The significand has at most 53 bits. -/
  significand_lt : significand < 0x20000000000000
  /-- The least exponent is that of the subnormal numbers. -/
  exponent_ge : -1074 ≤ exponent
  /-- Above the greatest exponent there are no finite numbers. -/
  exponent_le : exponent ≤ 971
  /-- All 53 bits are used wherever the exponent allows it, so equal numbers have equal fields. -/
  normal : 0x10000000000000 ≤ significand ∨ exponent = -1074
  deriving DecidableEq

namespace Double

/-- Zero of either sign. -/
def zero (negative : Bool) : Double :=
  ⟨negative, 0, -1074, by decide, by decide, by decide, .inr rfl⟩

/-- The double with these fields, if they are those of one. -/
def ofParts? (negative : Bool) (significand : Nat) (exponent : Int) : Option Double :=
  if h : significand < 0x20000000000000 ∧ -1074 ≤ exponent ∧ exponent ≤ 971 ∧
      (0x10000000000000 ≤ significand ∨ exponent = -1074) then
    some ⟨negative, significand, exponent, h.1, h.2.1, h.2.2.1, h.2.2.2⟩
  else
    none

/-- A quotient rounded to the nearest whole number, a tie to the even one. -/
def roundHalfEven (num den : Nat) : Nat :=
  let quotient := num / den
  let remainder := num % den
  if 2 * remainder < den ∨ (2 * remainder = den ∧ quotient % 2 = 0) then quotient else quotient + 1

/-- The double nearest to `num / den`, a tie to the even significand. Quotients that round past the
greatest double have none. -/
def nearest? (negative : Bool) (num den : Nat) : Option Double :=
  if num = 0 then
    some (zero negative)
  else
    let guess : Int := (num.log2 : Int) - (den.log2 : Int)
    let top := if den <<< guess.toNat ≤ num <<< (-guess).toNat then guess else guess - 1
    let exponent := max (top - 52) (-1074)
    let significand := roundHalfEven (num <<< (-exponent).toNat) (den <<< exponent.toNat)
    if significand = 0x20000000000000 then ofParts? negative 0x10000000000000 (exponent + 1)
    else ofParts? negative significand exponent

/-- The double nearest to `digits * 10 ^ exponent`. Decimals far outside the range of doubles are settled by
their number of digits alone. -/
def ofDecimal? (negative : Bool) (digits : Nat) (exponent : Int) : Option Double :=
  let magnitude : Int := (Nat.toDigits 10 digits).length + exponent
  if digits = 0 ∨ magnitude < -400 then some (zero negative)
  else if 400 < magnitude then none
  else nearest? negative (digits * Nat.pow 10 exponent.toNat) (Nat.pow 10 (-exponent).toNat)

/-- The whole number that a double is equal to, if it is equal to one. Both zeros are equal to 0. -/
def toInt? (x : Double) : Option Int :=
  let size : Option Nat :=
    if 0 ≤ x.exponent then some (x.significand <<< x.exponent.toNat)
    else
      let den := 1 <<< (-x.exponent).toNat
      if x.significand % den = 0 then some (x.significand / den) else none
  size.map fun n => if x.negative then -(n : Int) else n

end Double

end Stencil
