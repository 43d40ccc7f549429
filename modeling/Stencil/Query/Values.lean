import Stencil.Json.Basic
import Stencil.Query.Form

/-!
# Query values

The pairs of a query string as a flat JSON object. A name with one value has that value as a string, and a
name with several has the array of them in order. Names are not taken apart, so a name with dots is a single
key.
-/

namespace Stencil.Query

/-- Adds a value to what a name has so far: nothing, one string, or an array. -/
def addValue (value : String) : Option Json → Json
  | none => .str value
  | some (.arr values) => .arr (values ++ [.str value])
  | some single => .arr [single, .str value]

/-- The members that a list of pairs makes. -/
def members (pairs : List (String × String)) : Members Json :=
  pairs.foldl (fun members (name, value) => members.alter name (addValue value)) []

/-- The object that a query string is decoded into. -/
def values (query : String) : Json :=
  .obj (members (pairs query))

end Stencil.Query
