import Stencil.Json.Reader
import Stencil.Template.Load

/-!
# Reading stored templates from text

`Template.ofJsonText?` reads the JSON text of a template. It expects the shape of a template from the first
character on and stops at the first fault in reading order (`Json.Fault`), so a value of the wrong type is
`mismatched` even where the text behind it is broken.

* A template is an object, in which only the member `nodes` counts, or an array that holds the nodes alone.
* A node is an object, in which only `kind` and `value` count, or an array of the name of its kind and its value.
  In an object they may come in either order; a value that comes first can only be judged once the kind is known,
  so it is read as any JSON value and kept until then.
* In an object a kind is its name, or an object with that name and null.
* A member that counts may not be repeated.
-/

namespace Stencil

open Json (Fault Rules)

namespace Template.Reader

/-- The fault of a value that is of none of the expected types. A container is refused at its bracket;
everything else is read first, and may be at fault itself. -/
def wrongType (cs : List Char) : Fault :=
  match Json.skipBlanks cs with
  | [] => .truncated
  | '[' :: _ => .mismatched
  | '\x7b' :: _ => .mismatched
  | '"' :: rest =>
    match Json.string .kept rest with
    | .error fault => fault
    | .ok _ => .mismatched
  | cs =>
    match Json.scalar .kept cs with
    | .error fault => fault
    | .ok _ => .mismatched

/-- Reads a string. -/
def text (cs : List Char) : Except Fault (String × List Char) :=
  match Json.skipBlanks cs with
  | '"' :: rest => Json.string .kept rest
  | cs => .error (wrongType cs)

/-- Reads an array. -/
def array {α : Type} (item : List Char → Except Fault (α × List Char)) (steps : Nat) (cs : List Char) :
    Except Fault (List α × List Char) :=
  match Json.skipBlanks cs with
  | '[' :: rest => Json.items ']' item steps true rest
  | cs => .error (wrongType cs)

/-- Reads the null value. -/
def nothing (cs : List Char) : Except Fault (List Char) :=
  match Json.skipBlanks cs with
  | 'n' :: rest => Json.word "ull".toList rest
  | cs => .error (wrongType cs)

/-- Reads the end of a container in which nothing else may follow. -/
def finish (closing : Char) (cs : List Char) : Except Fault (List Char) :=
  match Json.skipBlanks cs with
  | [] => .error .truncated
  | c :: rest => if c = closing then .ok rest else .error .malformed

/-- The kind of that name, which has just been read. -/
def namedKind : String × List Char → Except Fault (NodeKind × List Char)
  | (name, rest) =>
    match NodeKind.ofName? name with
    | some kind => .ok (kind, rest)
    | none => .error .mismatched

/-- Reads the name of a kind. -/
def kindName (cs : List Char) : Except Fault (NodeKind × List Char) := do
  namedKind (← text cs)

/-- Reads a kind: its name, or an object with that name and null. -/
def kind (cs : List Char) : Except Fault (NodeKind × List Char) :=
  match Json.skipBlanks cs with
  | [] => .error .truncated
  | '"' :: rest => do namedKind (← Json.string .kept rest)
  | '\x7b' :: rest => do
    let (kind, rest) ← namedKind (← Json.name .kept rest)
    let rest ← Json.colon rest
    let rest ← nothing rest
    let rest ← finish '\x7d' rest
    .ok (kind, rest)
  | _ => .error .malformed

/-- Reads what is stored under `value` for a node of a known kind. -/
def content (steps : Nat) (kind : NodeKind) (cs : List Char) : Except Fault (Node × List Char) :=
  match kind with
  | .text => (text cs).map fun (literal, rest) => (.text literal, rest)
  | .reference => (array text steps cs).map fun (path, rest) => (.reference path, rest)

/-- Passes over members up to the next one that counts, whose name is read as well, or past the end of the
object. -/
def field {φ : Type} (counts : String → Option φ) :
    Nat → Bool → List Char → Except Fault (Option φ × List Char)
  | 0, _, _ => .error .truncated
  | steps + 1, first, cs => do
    match ← Json.next '\x7d' first cs with
    | .close rest => .ok (none, rest)
    | .item cs =>
      let (name, rest) ← Json.name .kept cs
      match counts name with
      | some f => .ok (some f, rest)
      | none =>
        let rest ← Json.colon rest
        let (_, rest) ← Json.value .passedOver steps none rest
        field counts steps false rest

/-- Reads the rest of an object in which no member may count any more. -/
def noField {φ : Type} (counts : String → Option φ) (steps : Nat) (cs : List Char) :
    Except Fault (List Char) := do
  match ← field counts steps false cs with
  | (none, rest) => .ok rest
  | (some _, _) => .error .mismatched

/-- A member of a node that counts. -/
inductive NodeField where
  /-- The kind of the node. -/
  | kind
  /-- The literal or the path. -/
  | value
  deriving DecidableEq

/-- The member of a node that a name stands for. -/
def NodeField.ofName? (name : String) : Option NodeField :=
  if name = "kind" then some kind else if name = "value" then some value else none

/-- How many containers a value that is kept may hold inside one another. No more than 127 may be open at
once, and three are open around the value of a node. -/
def valueRoom : Nat := 124

/-- Reads a node from its members, behind the opening brace. -/
def nodeMembers (steps : Nat) (cs : List Char) : Except Fault (Node × List Char) := do
  match ← field NodeField.ofName? steps true cs with
  | (none, _) => .error .mismatched
  | (some .kind, rest) =>
    let rest ← Json.colon rest
    let (kind, rest) ← kind rest
    match ← field NodeField.ofName? steps false rest with
    | (some .value, rest) =>
      let rest ← Json.colon rest
      let (node, rest) ← content steps kind rest
      let rest ← noField NodeField.ofName? steps rest
      .ok (node, rest)
    | _ => .error .mismatched
  | (some .value, rest) =>
    let rest ← Json.colon rest
    let (value, rest) ← Json.value .kept steps (some valueRoom) rest
    match ← field NodeField.ofName? steps false rest with
    | (some .kind, rest) =>
      let rest ← Json.colon rest
      let (kind, rest) ← kind rest
      match Node.ofContent? kind value with
      | .error _ => .error .mismatched
      | .ok node =>
        let rest ← noField NodeField.ofName? steps rest
        .ok (node, rest)
    | _ => .error .mismatched

/-- Reads a node from an array of its kind and value, behind the opening bracket. -/
def nodeItems (steps : Nat) (cs : List Char) : Except Fault (Node × List Char) := do
  match ← Json.next ']' true cs with
  | .close _ => .error .mismatched
  | .item cs =>
    let (kind, rest) ← kindName cs
    match ← Json.next ']' false rest with
    | .close _ => .error .mismatched
    | .item cs =>
      let (node, rest) ← content steps kind cs
      let rest ← finish ']' rest
      .ok (node, rest)

/-- Reads a node. -/
def node (steps : Nat) (cs : List Char) : Except Fault (Node × List Char) :=
  match Json.skipBlanks cs with
  | '[' :: rest => nodeItems steps rest
  | '\x7b' :: rest => nodeMembers steps rest
  | cs => .error (wrongType cs)

/-- Reads the nodes of a template. -/
def nodes (steps : Nat) (cs : List Char) : Except Fault (List Node × List Char) :=
  array (node steps) steps cs

/-- The member of a template that counts. -/
def nodesField? (name : String) : Option Unit :=
  if name = "nodes" then some () else none

/-- Reads a template. -/
def template (steps : Nat) (cs : List Char) : Except Fault (Template × List Char) :=
  match Json.skipBlanks cs with
  | '[' :: rest => do
    match ← Json.next ']' true rest with
    | .close _ => .error .mismatched
    | .item cs =>
      let (nodes, rest) ← nodes steps cs
      let rest ← finish ']' rest
      .ok (⟨nodes⟩, rest)
  | '\x7b' :: rest => do
    match ← field nodesField? steps true rest with
    | (none, _) => .error .mismatched
    | (some (), rest) =>
      let rest ← Json.colon rest
      let (nodes, rest) ← nodes steps rest
      let rest ← noField nodesField? steps rest
      .ok (⟨nodes⟩, rest)
  | cs => .error (wrongType cs)

end Template.Reader

/-- The template that a JSON text stores. -/
def Template.ofJsonText? (s : String) : Except Fault Template :=
  Json.whole Template.Reader.template s

end Stencil
