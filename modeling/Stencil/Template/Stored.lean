import Stencil.Json.Printer
import Stencil.Template.Basic

/-!
# Stored templates

A compiled template is stored as a JSON object with its nodes under `nodes`. A node is an object with its kind
under `kind` and its literal or its path under `value`.
-/

namespace Stencil

/-- The two kinds of nodes, as they are told apart in storage. -/
inductive NodeKind where
  /-- A literal text. -/
  | text
  /-- A reference. -/
  | reference
  deriving DecidableEq

namespace NodeKind

/-- The name that a kind is stored under. -/
def name : NodeKind → String
  | text => "text"
  | reference => "reference"

/-- The kind with a name. -/
def ofName? (name : String) : Option NodeKind :=
  if name = text.name then some text
  else if name = reference.name then some reference
  else none

theorem ofName?_name (kind : NodeKind) : ofName? kind.name = some kind := by
  cases kind <;> decide

end NodeKind

namespace Node

/-- The kind of a node. -/
def kind : Node → NodeKind
  | .text _ => .text
  | .reference _ => .reference

/-- What is stored under `value`. -/
def content : Node → Json
  | .text literal => .str literal
  | .reference path => .arr (path.map .str)

/-- The JSON value that a node is stored as. -/
def toJson (node : Node) : Json :=
  .obj [("kind", .str node.kind.name), ("value", node.content)]

end Node

namespace Template

/-- The JSON value that a template is stored as. -/
def toJson (t : Template) : Json :=
  .obj [("nodes", .arr (t.nodes.map Node.toJson))]

/-- The JSON text that a template is stored as. -/
def jsonText (t : Template) : String :=
  t.toJson.compact

end Template

end Stencil
