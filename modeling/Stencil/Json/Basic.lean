import Stencil.Members
import Stencil.Number.Basic

/-!
# JSON values

The data that templates are rendered against, and the form that compiled templates are stored in.
-/

namespace Stencil

/-- A JSON value. -/
inductive Json where
  /-- The null value. -/
  | null
  /-- A truth value. -/
  | bool (value : Bool)
  /-- A number. -/
  | num (value : Number)
  /-- A text. -/
  | str (value : String)
  /-- A list of values. -/
  | arr (items : List Json)
  /-- Values under names (see `Members`). -/
  | obj (members : List (String × Json))

namespace Json

/-- The value is null. -/
def isNull : Json → Bool
  | null => true
  | _ => false

end Json

end Stencil
