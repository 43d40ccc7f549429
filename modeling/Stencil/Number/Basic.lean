import Stencil.Number.Shortest

/-!
# Numbers

A number of a JSON value is a whole number or a double, and the two stay apart: `3` and `3.0` are different
numbers with different texts.
-/

namespace Stencil

/-- A number as a JSON value holds it. -/
inductive Number where
  /-- A number written without point and exponent. -/
  | int (value : Int)
  /-- A number written with a point or an exponent, or too large for a whole number of 64 bits. -/
  | double (value : Double)
  deriving DecidableEq

/-- Where positional notation of a double begins and ends. -/
structure PositionalRange where
  /-- The least exponent of the leading digit that is written positionally. -/
  least : Int
  /-- The greatest such exponent. -/
  greatest : Int

/-- Doubles from 0.00001 up to below 10^16 are written positionally. -/
def Number.positional : PositionalRange := ⟨-5, 15⟩

namespace Decimal

/-- The decimal digits without the zeros at the end. -/
def digitChars (d : Decimal) : List Char :=
  ((Nat.toDigits 10 d.digits).reverse.dropWhile (· == '0')).reverse

/-- The text of a nonzero decimal. Positional notation has at least one digit behind the point. Otherwise
the point follows the first digit, and is left out if nothing follows it; the exponent has a sign and no
padding. -/
def text (range : PositionalRange) (d : Decimal) : String :=
  let digits := d.digitChars
  let leading : Int := (Nat.toDigits 10 d.digits).length + d.exponent - 1
  if range.least ≤ leading ∧ leading ≤ range.greatest then
    let before := leading + 1
    if before ≤ 0 then
      String.ofList ('0' :: '.' :: List.replicate (-before).toNat '0' ++ digits)
    else if digits.length ≤ before.toNat then
      String.ofList (digits ++ List.replicate (before.toNat - digits.length) '0' ++ ['.', '0'])
    else
      String.ofList (digits.take before.toNat ++ '.' :: digits.drop before.toNat)
  else
    let fraction := if digits.length ≤ 1 then [] else '.' :: digits.drop 1
    let sign := if leading < 0 then '-' else '+'
    String.ofList (digits.take 1 ++ fraction ++ 'e' :: sign :: Nat.toDigits 10 leading.natAbs)

end Decimal

/-- The text of a double: the shortest decimal that reads back, with its sign. -/
def Double.text (x : Double) : String :=
  let size := if x.significand = 0 then "0.0" else x.shortest.text Number.positional
  if x.negative then "-" ++ size else size

namespace Number

/-- The decimal digits of a whole number, behind a minus sign if it is negative. -/
def wholeText (n : Int) : String :=
  if n < 0 then "-" ++ n.natAbs.repr else n.natAbs.repr

/-- The text of a number in JSON. -/
def text : Number → String
  | int n => wholeText n
  | double x => x.text

/-- The least size of a double that is never written as a whole number. -/
def wholeLimit : Nat := 1000000000000000

/-- The whole number that a number is displayed as: a whole number itself, and a double that equals one of
size below `wholeLimit`. -/
def whole? : Number → Option Int
  | int n => some n
  | double x => x.toInt?.filter fun n => n.natAbs < wholeLimit

/-- The text that a number is displayed as outside of JSON: without a point wherever it is whole. -/
def display (n : Number) : String :=
  match n.whole? with
  | some i => wholeText i
  | none => n.text

end Number

end Stencil
