import Stencil.Text.Hex
import Stencil.Text.Utf8

/-!
# Form encoding

A query string is a list of pairs, written `name=value` with `&` between them. Inside a name or value a `+`
stands for a blank and `%` with two hexadecimal digits for a byte; the bytes are then read as UTF-8.
-/

namespace Stencil.Query

/-- Replaces each `%` with its two digits by the byte that they stand for. A `%` without two digits behind it
stands for itself. -/
def percentDecode : List UInt8 → List UInt8
  | [] => []
  | b :: high :: low :: rest =>
    if b = '%'.toUInt8 then
      match Text.hexValue? (Char.ofUInt8 high), Text.hexValue? (Char.ofUInt8 low) with
      | some h, some l => UInt8.ofNat (h * 16 + l) :: percentDecode rest
      | _, _ => b :: percentDecode (high :: low :: rest)
    else
      b :: percentDecode (high :: low :: rest)
  | b :: rest => b :: percentDecode rest

/-- The text that a name or a value is written for. -/
def decodePart (part : List UInt8) : String :=
  Text.ofBytesLenient (percentDecode (part.map fun b => if b = '+'.toUInt8 then ' '.toUInt8 else b))

/-- The name and the value of a piece. The first `=` ends the name; without one the value is empty. -/
def decodePiece (piece : List UInt8) : String × String :=
  (decodePart (piece.takeWhile (· ≠ '='.toUInt8)), decodePart ((piece.dropWhile (· ≠ '='.toUInt8)).drop 1))

/-- The pairs of a query string, in order. Pieces between `&` without any text are passed over. -/
def pairs (query : String) : List (String × String) :=
  (((Text.encode query).splitOn '&'.toUInt8).filter (· ≠ [])).map decodePiece

end Stencil.Query
