import Stencil.Template.Stored
import Stencil.Text.Quoted

/-!
# Loading stored templates

`Template.ofJson?` takes a template from a JSON value. Members that do not belong to a template or a node are
passed over. A template may also be an array that holds the nodes alone, and a node an array of the name of
its kind and its value. Where a value does not fit, the first reason is given (`LoadError`).
-/

namespace Stencil

/-- What a value was expected to be. -/
inductive Expected where
  /-- A whole template. -/
  | template
  /-- A node. -/
  | node
  /-- The kind of a node in an object. -/
  | kind
  /-- The name of a kind. -/
  | kindName
  /-- The null that follows a kind in an object. -/
  | nothing
  /-- A text. -/
  | text
  /-- An array. -/
  | array

/-- What an array with the wrong number of items should have been. -/
inductive ExpectedItems where
  /-- A template, which needs one item. -/
  | template
  /-- A node, which needs two items. -/
  | node
  /-- An array without the items that are to spare. -/
  | fewer

/-- Why a JSON value is no stored template. -/
inductive LoadError where
  /-- A value is of the wrong type. -/
  | wrongType (found : Json) (expected : Expected)
  /-- An array has too few or too many items. -/
  | wrongLength (length : Nat) (expected : ExpectedItems)
  /-- An object lacks a member. -/
  | missing (name : String)
  /-- No node is of the kind. -/
  | unknownKind (name : String)
  /-- A kind is given by an object that does not have exactly one member. -/
  | wrongKindObject

/-- How an expected value is named in a message. -/
def Expected.describe : Expected → String
  | template => "struct Template"
  | node => "adjacently tagged enum Node"
  | kind => "string or map"
  | kindName => "variant identifier"
  | nothing => "unit"
  | text => "a string"
  | array => "a sequence"

/-- How an expected array is named in a message. -/
def ExpectedItems.describe : ExpectedItems → String
  | template => "struct Template with 1 element"
  | node => "adjacently tagged enum Node"
  | fewer => "fewer elements in array"

/-- How a value that was found is named in a message. -/
def Json.describe : Json → String
  | null => "null"
  | bool true => "boolean \x60true\x60"
  | bool false => "boolean \x60false\x60"
  | num (.int n) => "integer \x60" ++ Number.wholeText n ++ "\x60"
  | num (.double x) => "floating point \x60" ++ x.text ++ "\x60"
  | str s => "string " ++ Text.quoted s
  | arr _ => "sequence"
  | obj _ => "map"

/-- The message of a reason. -/
def LoadError.message : LoadError → String
  | wrongType found expected => "invalid type: " ++ found.describe ++ ", expected " ++ expected.describe
  | wrongLength length expected => "invalid length " ++ length.repr ++ ", expected " ++ expected.describe
  | missing name => "missing field \x60" ++ name ++ "\x60"
  | unknownKind name =>
    "unknown variant \x60" ++ name ++ "\x60, expected \x60" ++ NodeKind.text.name ++ "\x60 or \x60"
      ++ NodeKind.reference.name ++ "\x60"
  | wrongKindObject => "invalid value: map, expected map with a single key"

namespace NodeKind

/-- The kind of that name, or the reason that there is none. -/
def named (name : String) : Except LoadError NodeKind :=
  match ofName? name with
  | some kind => .ok kind
  | none => .error (.unknownKind name)

/-- The kind that a value names. -/
def ofJsonName? : Json → Except LoadError NodeKind
  | .str name => named name
  | found => .error (.wrongType found .kindName)

/-- The kind that a value stands for: its name, or an object with that name and null. -/
def ofJson? : Json → Except LoadError NodeKind
  | .str name => named name
  | .obj [(name, value)] => do
    let kind ← named name
    if value.isNull then .ok kind else .error (.wrongType value .nothing)
  | .obj _ => .error .wrongKindObject
  | found => .error (.wrongType found .kind)

end NodeKind

namespace Node

/-- The texts of a path. -/
def keys? (items : List Json) : Except LoadError (List String) :=
  items.mapM fun
    | .str key => .ok key
    | found => .error (.wrongType found .text)

/-- The node of a kind with that content. -/
def ofContent? (kind : NodeKind) (content : Json) : Except LoadError Node :=
  match kind, content with
  | .text, .str literal => .ok (.text literal)
  | .text, found => .error (.wrongType found .text)
  | .reference, .arr items => (keys? items).map .reference
  | .reference, found => .error (.wrongType found .array)

/-- The node that a value stores. A kind at fault is the reason even where the content is missing. -/
def ofJson? : Json → Except LoadError Node
  | .obj members =>
    match Members.get? "kind" members with
    | none => .error (.missing "kind")
    | some kind => do
      let kind ← NodeKind.ofJson? kind
      match Members.get? "value" members with
      | none => .error (.missing "value")
      | some content => ofContent? kind content
  | .arr [] => .error (.wrongLength 0 .node)
  | .arr (kind :: items) => do
    let kind ← NodeKind.ofJsonName? kind
    match items with
    | [] => .error (.wrongLength 1 .node)
    | content :: surplus =>
      let node ← ofContent? kind content
      if surplus.isEmpty then .ok node else .error (.wrongLength (surplus.length + 2) .fewer)
  | found => .error (.wrongType found .node)

end Node

namespace Template

/-- The template whose nodes a value stores. -/
def ofNodes? : Json → Except LoadError Template
  | .arr items => (items.mapM Node.ofJson?).map Template.mk
  | found => .error (.wrongType found .array)

/-- The template that a value stores. -/
def ofJson? : Json → Except LoadError Template
  | .obj members =>
    match Members.get? "nodes" members with
    | none => .error (.missing "nodes")
    | some nodes => ofNodes? nodes
  | .arr [] => .error (.wrongLength 0 .template)
  | .arr (nodes :: surplus) => do
    let t ← ofNodes? nodes
    if surplus.isEmpty then .ok t else .error (.wrongLength (surplus.length + 1) .fewer)
  | found => .error (.wrongType found .template)

end Template

end Stencil
