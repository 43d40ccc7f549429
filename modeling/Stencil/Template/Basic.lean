/-!
# Templates

A compiled template is a list of nodes, literal texts and references. It does not depend on any context.
Every list of nodes is a template: the reader of template text only makes some of them
(`Stencil.Template.Scanner`), and the others can be loaded from JSON.
-/

namespace Stencil

/-- A part of a template. -/
inductive Node where
  /-- Literal text, rendered as it is. -/
  | text (literal : String)
  /-- A path of keys, rendered as the text of what it leads to in the context. -/
  | reference (path : List String)
  deriving DecidableEq

/-- A compiled template: its nodes in the order of the text. -/
structure Template where
  /-- The nodes, in order. -/
  nodes : List Node
  deriving DecidableEq

namespace Node

/-- The reference written `dotted` between the braces. The keys of its path are what stands between the
dots, empty keys included, so a path written this way has at least one key. -/
def ofDotted (dotted : String) : Node :=
  .reference ((dotted.toList.splitOn '.').map String.ofList)

/-- The path of a reference. -/
def path? : Node → Option (List String)
  | .text _ => none
  | .reference path => some path

/-- How a node is written in template text: a literal as it is, a reference between braces with dots
between its keys. -/
def source : Node → String
  | .text literal => literal
  | .reference path => "\x7b" ++ ".".intercalate path ++ "\x7d"

theorem ofDotted_ofList (dotted : List Char) :
    ofDotted (String.ofList dotted) = .reference ((dotted.splitOn '.').map String.ofList) := by
  rw [ofDotted, String.toList_ofList]

theorem source_ofDotted (dotted : String) : (ofDotted dotted).source = "\x7b" ++ dotted ++ "\x7d" := by
  have h : ".".intercalate ((dotted.toList.splitOn '.').map String.ofList) = dotted := by
    apply String.ext
    rw [String.toList_intercalate, List.map_map]
    have e : String.toList ∘ String.ofList = id := funext fun _ => String.toList_ofList
    simp [e, List.intercalate_splitOn]
  simp [ofDotted, source, h]

end Node

namespace Template

/-- The paths of all references, in order. -/
def references (t : Template) : List (List String) :=
  t.nodes.filterMap Node.path?

/-- No node is a reference, so rendering never looks at the context. -/
def isStatic (t : Template) : Bool :=
  t.references.isEmpty

/-- The template text that the nodes are written as. -/
def source (t : Template) : String :=
  String.join (t.nodes.map Node.source)

end Template

end Stencil
