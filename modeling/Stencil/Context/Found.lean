import Stencil.Json.Printer

/-!
# Found values

What a path leads to is a JSON value or a plain text. Objects have children by name, and arrays by index:
each index has exactly one key, its decimal digits without leading zeros. Nothing else has children.
-/

namespace Stencil

/-- A value that was found at some step of a path. -/
inductive Found where
  /-- A JSON value. -/
  | json (value : Json)
  /-- A text from a map of texts. -/
  | str (value : String)

/-- The index that a key stands for: ASCII digits without leading zeros, of a number that 64 bits hold. -/
def index? (key : String) : Option Nat :=
  let digits := key.toList
  if digits ≠ [] ∧ digits.all Char.isDigit ∧ (digits = ['0'] ∨ digits.head? ≠ some '0') then
    let index := Nat.ofDigitChars 10 digits 0
    if index < UInt64.size then some index else none
  else
    none

namespace Found

/-- The child under a key. -/
def get? (key : String) : Found → Option Found
  | json (.obj members) => (Members.get? key members).map json
  | json (.arr items) => (index? key).bind fun i => items[i]?.map json
  | _ => none

/-- The value that a path of keys leads to. -/
def follow? (value : Found) (path : List String) : Option Found :=
  path.foldlM (fun value key => value.get? key) value

/-- The text that a found value is rendered as. -/
def text : Found → String
  | json value => value.display
  | str value => value

end Found

end Stencil
