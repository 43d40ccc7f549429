import Stencil.Proofs.Json.Written
import Stencil.Template.Reader
import Stencil.Template.Render

/-!
# Stored templates are reloaded

Every template is read back from what it is stored as, whichever nodes it has: from the JSON value, from the JSON text
by the reader of templates, and from the text by way of the value. The two members of a node may stand in either order
(`MemberOrder`). If the content stands first, the reader keeps it as a JSON value until it knows the kind, so there are
two ways through the reader of nodes, and both end in the same node (`reads_node`).
-/

namespace Stencil

/-- Which member of a stored node is written first. -/
inductive MemberOrder where
  | kindFirst
  | valueFirst

/-- The members of a stored node in one of the two orders. -/
def Node.membersIn (order : MemberOrder) (node : Node) : List (String × Json) :=
  match order with
  | .kindFirst => [("kind", .str node.kind.name), ("value", node.content)]
  | .valueFirst => [("value", node.content), ("kind", .str node.kind.name)]

/-- The JSON value of a template with the members of its nodes in any order, for each node its own. -/
def Template.toJsonIn (order : Nat → MemberOrder) (t : Template) : Json :=
  .obj [("nodes", .arr (t.nodes.mapIdx fun i node => .obj (node.membersIn (order i))))]

/-! ## From a JSON value -/

theorem mapM_ok_of_forall {ε α β : Type} {f : α → Except ε β} {g : α → β} {xs : List α}
    (h : ∀ x ∈ xs, f x = .ok (g x)) : xs.mapM f = .ok (xs.map g) := by
  induction xs with
  | nil => rfl
  | cons x xs ih =>
    have hx := h x List.mem_cons_self
    have hxs := ih fun y hy => h y (List.mem_cons_of_mem _ hy)
    rw [List.mapM_cons, hx, hxs]
    rfl

theorem map_zipIdx_fst {α β : Type} (f : α → β) (xs : List α) : xs.zipIdx.map (fun entry => f entry.1) = xs.map f := by
  have h := List.zipIdx_map_fst 0 xs
  calc
    xs.zipIdx.map (fun entry => f entry.1) = (xs.zipIdx.map Prod.fst).map f := by rw [List.map_map]; rfl
    _ = xs.map f := by rw [h]

namespace Node

theorem keys?_map_str (path : List String) : keys? (path.map .str) = .ok path := by
  rw [keys?, List.mapM_map]
  have h : path.mapM (fun key => (.ok key : Except LoadError String)) = .ok (path.map id) :=
    mapM_ok_of_forall fun _ _ => rfl
  rwa [List.map_id] at h

theorem ofContent?_content (node : Node) : ofContent? node.kind node.content = .ok node := by
  cases node with
  | text literal => rfl
  | reference path =>
    show (keys? (path.map .str)).map Node.reference = _
    rw [keys?_map_str]
    rfl

theorem mem_membersIn_iff {order : MemberOrder} {node : Node} {member : String × Json} :
    member ∈ node.membersIn order ↔ member = ("kind", .str node.kind.name) ∨ member = ("value", node.content) := by
  cases order with
  | kindFirst => simp [membersIn]
  | valueFirst => simp [membersIn, or_comm]

theorem ofJson?_membersIn (order : MemberOrder) (node : Node) : ofJson? (.obj (node.membersIn order)) = .ok node := by
  have hkind : Members.get? "kind" (node.membersIn order) = some (.str node.kind.name) := by
    cases order <;> simp [membersIn, Members.get?_cons]
  have hvalue : Members.get? "value" (node.membersIn order) = some node.content := by
    cases order <;> simp [membersIn, Members.get?_cons]
  have hnamed : NodeKind.ofJson? (.str node.kind.name) = .ok node.kind := by
    simp only [NodeKind.ofJson?, NodeKind.named, NodeKind.ofName?_name]
  simp only [ofJson?, hkind, hnamed, Json.ok_bind, hvalue, ofContent?_content]

end Node

namespace Template

theorem toJsonIn_eq (order : Nat → MemberOrder) (t : Template) :
    t.toJsonIn order =
      .obj [("nodes", .arr (t.nodes.zipIdx.map fun entry => .obj (entry.1.membersIn (order entry.2))))] := by
  rw [toJsonIn, List.mapIdx_eq_zipIdx_map]

theorem toJsonIn_kindFirst (t : Template) : t.toJsonIn (fun _ => .kindFirst) = t.toJson := by
  have hnodes := map_zipIdx_fst Node.toJson t.nodes
  rw [toJsonIn_eq, toJson, ← hnodes]
  rfl

theorem ofJson?_toJsonIn (order : Nat → MemberOrder) (t : Template) : ofJson? (t.toJsonIn order) = .ok t := by
  have hnodes : (t.nodes.zipIdx.map fun entry => Json.obj (entry.1.membersIn (order entry.2))).mapM Node.ofJson? =
      .ok (t.nodes.zipIdx.map Prod.fst) := by
    rw [List.mapM_map]
    exact mapM_ok_of_forall fun entry _ => Node.ofJson?_membersIn _ _
  rw [List.zipIdx_map_fst] at hnodes
  rw [toJsonIn_eq]
  simp only [ofJson?, Members.get?_cons, if_true, ofNodes?, hnodes]
  rfl

end Template

/-! ## From a text -/

namespace Template.Reader

open Json

theorem text_quote_append (s : String) (rest : List Char) : text ((quote s).toList ++ rest) = .ok (s, rest) := by
  simp only [text, skipBlanks_quote, string_flatMap_escapeChar]

theorem kind_quote_append (k : NodeKind) (rest : List Char) : kind ((quote k.name).toList ++ rest) = .ok (k, rest) := by
  simp only [kind, skipBlanks_quote, string_flatMap_escapeChar, ok_bind, namedKind, NodeKind.ofName?_name]

theorem reads_array {α β : Type} {read : Nat → List Char → Except Fault (α × List Char)} {write : β → List Char}
    {result : β → α} {xs : List β}
    (hitems : ∀ x ∈ xs, Opens (write x) ∧ ReadsCounted read (write x) (result x)) :
    ReadsCounted (fun steps => array (read steps) steps) (enclose '[' ']' (xs.map write)) (xs.map result) := by
  intro steps hsteps rest
  have hread := items_enclosed (.inl rfl) '[' hitems (Nat.le_of_lt hsteps) rest
  rw [enclose_append]
  simp only [array, skipBlanks_cons (show isBlank '[' = false by decide), hread]

theorem toList_compact_path (path : List String) :
    (arr (path.map .str)).compact.toList = enclose '[' ']' (path.map fun key => (quote key).toList) := by
  rw [toList_compact_arr, List.map_map]
  rfl

theorem reads_content (n : Node) : ReadsCounted (content · n.kind) n.content.compact.toList n := by
  intro steps hsteps rest
  cases n with
  | text literal =>
    simp only [content, Node.kind, Node.content, compact, text_quote_append]
    rfl
  | reference path =>
    have hkeys : ∀ key ∈ path, Opens (quote key).toList ∧
        ReadsCounted (fun _ => text) (quote key).toList (id key) := by
      intro key _
      exact ⟨opens_quote key, fun _ _ => text_quote_append key⟩
    have hread := reads_array hkeys
    rw [← toList_compact_path, List.map_id] at hread
    have hpath : array text steps ((arr (path.map .str)).compact.toList ++ rest) = .ok (path, rest) :=
      hread steps hsteps rest
    simp only [content, Node.kind, Node.content, hpath]
    rfl

/-- What is kept of the content is the JSON value that stands for it. -/
theorem reads_value_content {rules : Rules} {room inner : Option Nat} (henter : enter room = .ok inner) (n : Node) :
    ReadsCounted (value rules · room) n.content.compact.toList n.content := by
  cases n with
  | text literal =>
    simp only [Node.content, compact]
    exact reads_value_str literal
  | reference path =>
    have hkeys : ∀ key ∈ path, Opens (quote key).toList ∧
        ReadsCounted (value rules · inner) (quote key).toList (str key) := by
      intro key _
      exact ⟨opens_quote key, reads_value_str key⟩
    have hread := reads_value_arr henter hkeys
    rwa [← toList_compact_path] at hread

section Fields

variable {φ : Type} {counts : String → Option φ} {f : φ} {name : String} {steps : Nat}

theorem field_first (h : counts name = some f) (hsteps : 0 < steps) (value rest : List Char) :
    field counts steps true (memberText name value ++ rest) = .ok (some f, ':' :: (value ++ rest)) := by
  obtain ⟨steps, rfl⟩ := Nat.exists_eq_succ_of_ne_zero (Nat.ne_zero_of_lt hsteps)
  simp only [field, next_first (.inr rfl) (opens_memberText name value), ok_bind]
  simp only [memberText_append, name_quote_append, ok_bind, h]

theorem field_comma (h : counts name = some f) (hsteps : 0 < steps) (value rest : List Char) :
    field counts steps false (',' :: (memberText name value ++ rest)) = .ok (some f, ':' :: (value ++ rest)) := by
  obtain ⟨steps, rfl⟩ := Nat.exists_eq_succ_of_ne_zero (Nat.ne_zero_of_lt hsteps)
  simp only [field, next_comma (.inr rfl) (opens_memberText name value), ok_bind]
  simp only [memberText_append, name_quote_append, ok_bind, h]

theorem noField_close (counts : String → Option φ) (hsteps : 0 < steps) (rest : List Char) :
    noField counts steps ('\x7d' :: rest) = .ok rest := by
  obtain ⟨steps, rfl⟩ := Nat.exists_eq_succ_of_ne_zero (Nat.ne_zero_of_lt hsteps)
  simp only [noField, field, next_close (.inr rfl), ok_bind]

end Fields

section Nodes

variable {steps : Nat} {n : Node}

theorem nodeMembers_kindFirst (hsteps : n.content.compact.toList.length < steps) (rest : List Char) :
    nodeMembers steps (memberText "kind" (quote n.kind.name).toList ++
      ',' :: (memberText "value" n.content.compact.toList ++ '}' :: rest)) = .ok (n, rest) := by
  have hpos : 0 < steps := Nat.zero_lt_of_lt hsteps
  have hkind : NodeField.ofName? "kind" = some .kind := rfl
  have hvalue : NodeField.ofName? "value" = some .value := rfl
  simp only [nodeMembers, field_first hkind hpos, ok_bind, colon_cons, kind_quote_append, field_comma hvalue hpos]
  simp only [reads_content n steps hsteps _, ok_bind, noField_close _ hpos]

/-- The content waits as a JSON value for the kind. -/
theorem nodeMembers_valueFirst (hsteps : n.content.compact.toList.length < steps) (rest : List Char) :
    nodeMembers steps (memberText "value" n.content.compact.toList ++
      ',' :: (memberText "kind" (quote n.kind.name).toList ++ '}' :: rest)) = .ok (n, rest) := by
  have hpos : 0 < steps := Nat.zero_lt_of_lt hsteps
  have hkind : NodeField.ofName? "kind" = some .kind := rfl
  have hvalue : NodeField.ofName? "value" = some .value := rfl
  have henter : enter (some valueRoom) = .ok (some 123) := rfl
  have hkept (rest : List Char) : value .kept steps (some valueRoom) (n.content.compact.toList ++ rest) =
      .ok (n.content, rest) := reads_value_content henter n steps hsteps rest
  simp only [nodeMembers, field_first hvalue hpos, ok_bind, colon_cons, hkept, field_comma hkind hpos]
  simp only [kind_quote_append, ok_bind, Node.ofContent?_content, noField_close _ hpos]

/-- A node is read in either order of its members. -/
theorem reads_node (order : MemberOrder) (n : Node) :
    ReadsCounted node (obj (n.membersIn order)).compact.toList n := by
  intro steps hsteps rest
  have hbrace : isBlank '{' = false := by decide
  rw [toList_compact_obj] at hsteps ⊢
  have hmember : memberText "value" n.content.compact.toList ∈
      (n.membersIn order).map fun member => memberText member.1 member.2.compact.toList :=
    List.mem_map.mpr ⟨("value", n.content), Node.mem_membersIn_iff.mpr (.inr rfl), rfl⟩
  have hcontent : n.content.compact.toList.length < steps :=
    Nat.lt_trans (length_lt_of_memberText_mem hmember '{' '}') hsteps
  cases order with
  | kindFirst =>
    have hread := nodeMembers_kindFirst hcontent rest
    simp only [Node.membersIn, List.map_cons, List.map_nil, enclose_pair, node, skipBlanks_cons hbrace]
    exact hread
  | valueFirst =>
    have hread := nodeMembers_valueFirst hcontent rest
    simp only [Node.membersIn, List.map_cons, List.map_nil, enclose_pair, node, skipBlanks_cons hbrace]
    exact hread

end Nodes

theorem opens_obj (members : List (String × Json)) : Opens (obj members).compact.toList := by
  rw [toList_compact_obj]
  exact opens_enclose (.inr rfl) _ _

/-- The text of a node with its members in the order for its place. -/
def nodeText (order : Nat → MemberOrder) (entry : Node × Nat) : List Char :=
  (obj (entry.1.membersIn (order entry.2))).compact.toList

theorem toList_compact_toJsonIn (order : Nat → MemberOrder) (t : Template) :
    (t.toJsonIn order).compact.toList =
      enclose '{' '}' [memberText "nodes" (enclose '[' ']' (t.nodes.zipIdx.map (nodeText order)))] := by
  rw [toJsonIn_eq, toList_compact_obj]
  simp only [List.map_cons, List.map_nil, toList_compact_arr, List.map_map]
  rfl

theorem reads_template (order : Nat → MemberOrder) (t : Template) :
    ReadsCounted template (t.toJsonIn order).compact.toList t := by
  intro steps hsteps rest
  rw [toList_compact_toJsonIn] at hsteps ⊢
  have hnodes : ∀ entry ∈ t.nodes.zipIdx, Opens (nodeText order entry) ∧
      ReadsCounted node (nodeText order entry) entry.1 := by
    intro entry _
    exact ⟨opens_obj _, reads_node _ _⟩
  have hlength : (enclose '[' ']' (t.nodes.zipIdx.map (nodeText order))).length < steps :=
    Nat.lt_trans (length_lt_of_memberText_mem List.mem_cons_self '{' '}') hsteps
  have hread (rest : List Char) : array (node steps) steps
      (enclose '[' ']' (t.nodes.zipIdx.map (nodeText order)) ++ rest) = .ok (t.nodes, rest) := by
    have h := reads_array hnodes steps hlength rest
    rwa [List.zipIdx_map_fst] at h
  have hpos : 0 < steps := Nat.zero_lt_of_lt hsteps
  have hbrace : isBlank '{' = false := by decide
  have hfield : nodesField? "nodes" = some () := rfl
  simp only [template, enclose_singleton, skipBlanks_cons hbrace, field_first hfield hpos, ok_bind, colon_cons, nodes]
  simp only [hread, ok_bind, noField_close _ hpos]

end Template.Reader

/-! ## From a text by way of a JSON value -/

section Values

open Json Template.Reader

variable {rules : Rules}

/-- The members of a JSON value are in the order of their names, whatever order they are written in. -/
theorem Node.ofList_membersIn (order : MemberOrder) (n : Node) :
    Members.ofList (n.membersIn order) = [("kind", .str n.kind.name), ("value", n.content)] := by
  have hlt : "kind" < "value" := by decide
  have hnot : ¬"value" < "kind" := by decide
  have hne : "value" ≠ "kind" := by decide
  cases order with
  | kindFirst => simp [Members.ofList, Members.insert, Members.alter, Node.membersIn, hnot, hne]
  | valueFirst => simp [Members.ofList, Members.insert, Members.alter, Node.membersIn, hlt]

theorem reads_value_node (order : MemberOrder) (n : Node) :
    ReadsCounted (value rules · none) (obj (n.membersIn order)).compact.toList n.toJson := by
  have hroom : enter none = .ok none := rfl
  have hmembers : ∀ member ∈ n.membersIn order,
      ReadsCounted (value rules · none) member.2.compact.toList member.2 := by
    have hkind : ReadsCounted (value rules · none) (str n.kind.name).compact.toList (str n.kind.name) := by
      rw [compact]
      exact reads_value_str _
    have hvalue : ReadsCounted (value rules · none) n.content.compact.toList n.content := reads_value_content hroom n
    intro member hmember
    rcases Node.mem_membersIn_iff.mp hmember with rfl | rfl
    · exact hkind
    · exact hvalue
  have hread := reads_value_obj Prod.fst hroom hmembers
  have hmap : (n.membersIn order).map (fun member => (member.1, member.2)) = n.membersIn order := List.map_id _
  rwa [← toList_compact_obj, hmap, Node.ofList_membersIn] at hread

theorem reads_value_toJsonIn (order : Nat → MemberOrder) (t : Template) :
    ReadsCounted (value rules · none) (t.toJsonIn order).compact.toList t.toJson := by
  have hnodes : ∀ entry ∈ t.nodes.zipIdx, Opens (nodeText order entry) ∧
      ReadsCounted (value rules · none) (nodeText order entry) entry.1.toJson := by
    intro entry _
    exact ⟨opens_obj _, reads_value_node _ _⟩
  have hroom : enter none = .ok none := rfl
  have hlist := reads_value_arr hroom hnodes
  rw [map_zipIdx_fst] at hlist
  have hmembers : ∀ nodes ∈ [enclose '[' ']' (t.nodes.zipIdx.map (nodeText order))],
      ReadsCounted (value rules · none) nodes (arr (t.nodes.map Node.toJson)) := by
    intro nodes hnodes
    rwa [List.mem_singleton.mp hnodes]
  have hread := reads_value_obj (fun _ => "nodes") hroom hmembers
  rw [toList_compact_toJsonIn]
  exact hread

end Values

namespace Template

variable (order : Nat → MemberOrder) (t : Template)

theorem ofJsonText?_compact_toJsonIn : ofJsonText? (t.toJsonIn order).compact = .ok t :=
  Json.whole_eq_ok (Reader.reads_template order t)

theorem ofText?_compact_toJsonIn : Json.ofText? (t.toJsonIn order).compact = .ok t.toJson :=
  Json.whole_eq_ok (reads_value_toJsonIn order t)

/-- Every template is loaded from what it is stored as, and from that with the members of any nodes exchanged: from the
text, from the value, and from the value that the text stands for. So a stored template is rendered as its source. -/
theorem loads_of_stored :
    (∀ t : Template, ofJsonText? t.jsonText = .ok t ∧ ofJson? t.toJson = .ok t) ∧
    (∀ (t : Template) (order : Nat → MemberOrder),
      ofJsonText? (t.toJsonIn order).compact = .ok t ∧
      ofJson? (t.toJsonIn order) = .ok t ∧
      Json.ofText? (t.toJsonIn order).compact = .ok t.toJson) ∧
    ∀ (source : String) (γ : Type) [Context γ] (context : γ) (order : Nat → MemberOrder),
      (ofJsonText? (parse source).jsonText).map (·.render context) = .ok (evaluate source context) ∧
      (ofJson? (parse source).toJson).map (·.render context) = .ok (evaluate source context) ∧
      (ofJsonText? ((parse source).toJsonIn order).compact).map (·.render context) = .ok (evaluate source context) ∧
      (ofJson? ((parse source).toJsonIn order)).map (·.render context) = .ok (evaluate source context) := by
  have hstored (t : Template) : ofJsonText? t.jsonText = .ok t ∧ ofJson? t.toJson = .ok t := by
    rw [jsonText, ← toJsonIn_kindFirst]
    exact ⟨ofJsonText?_compact_toJsonIn _ t, ofJson?_toJsonIn _ t⟩
  refine ⟨hstored, fun t order => ?_, fun source γ _ context order => ?_⟩
  · exact ⟨ofJsonText?_compact_toJsonIn order t, ofJson?_toJsonIn order t, ofText?_compact_toJsonIn order t⟩
  · obtain ⟨htext, hjson⟩ := hstored (parse source)
    rw [htext, hjson, ofJsonText?_compact_toJsonIn, ofJson?_toJsonIn]
    exact ⟨rfl, rfl, rfl, rfl⟩

example : ((mk [.text "\"\n", .reference []]).toJsonIn fun _ => .valueFirst).compact =
    "\x7b\"nodes\":[\x7b\"value\":\"\\\"\\n\",\"kind\":\"text\"\x7d,\x7b\"value\":[],\"kind\":\"reference\"\x7d]\x7d" := by
  rfl

end Template

end Stencil
