import Stencil.Template.Render
import Mathlib.Data.List.Basic

/-!
# Contexts with the same values

A template looks at a context only through the texts of what its references lead to (`Template.render_congr`). A text
from a map of texts and the JSON string with that text have the same text and no children, so two contexts whose values
agree as JSON render every template alike (`SameValues.render_eq`), whatever types they are of.
-/

namespace Stencil

/-! ## Found values as JSON -/

/-- A found value as a JSON value. -/
def Found.toJson : Found → Json
  | json value => value
  | str value => .str value

namespace Found

theorem text_toJson (found : Found) : (json found.toJson).text = found.text := by
  cases found with
  | json value => rfl
  | str value => simp [toJson, text, Json.display]

theorem get?_toJson (found : Found) (key : String) : (json found.toJson).get? key = found.get? key := by
  cases found with
  | json value => rfl
  | str value => rfl

theorem follow?_nil (found : Found) : found.follow? [] = some found := rfl

theorem follow?_cons (found : Found) (key : String) (path : List String) :
    found.follow? (key :: path) = (found.get? key).bind fun child => child.follow? path := rfl

/-- What a path leads to from a found value has the text of what it leads to from the JSON value. -/
theorem map_text_follow?_toJson (found : Found) (path : List String) :
    ((json found.toJson).follow? path).map text = (found.follow? path).map text := by
  cases path with
  | nil => rw [follow?_nil, follow?_nil, Option.map_some, Option.map_some, text_toJson]
  | cons key path => rw [follow?_cons, follow?_cons, get?_toJson]

end Found

/-! ## What rendering looks at -/

namespace Template

variable {γ δ : Type} [Context γ] [Context δ] {context : γ} {other : δ}

/-- A template is rendered alike if each of its references has the same text. -/
theorem render_congr {t : Template}
    (h : ∀ path ∈ t.references, (resolve? context path).map Found.text = (resolve? other path).map Found.text) :
    t.render context = t.render other := by
  have hnode : ∀ node ∈ t.nodes, node.render context = node.render other := by
    intro node hnode
    cases node with
    | text literal => rfl
    | reference path =>
      have hpath : path ∈ t.references := List.mem_filterMap.mpr ⟨.reference path, hnode, rfl⟩
      rw [Node.render, Node.render, h path hpath]
  rw [render, render, List.map_congr_left hnode]

end Template

/-- The two contexts have values under the same keys, and these are the same as JSON. -/
def SameValues {γ δ : Type} [Context γ] [Context δ] (context : γ) (other : δ) : Prop :=
  ∀ key, (Context.get? context key).map Found.toJson = (Context.get? other key).map Found.toJson

section SameValues

variable {γ δ : Type} [Context γ] [Context δ] {context : γ} {other : δ}

theorem SameValues.map_text_resolve? (h : SameValues context other) (path : List String) :
    (resolve? context path).map Found.text = (resolve? other path).map Found.text := by
  cases path with
  | nil => rfl
  | cons first rest =>
    have hfirst := h first
    have hfollow (found? : Option Found) : (found?.bind fun found => found.follow? rest).map Found.text =
        (found?.map Found.toJson).bind fun value => ((Found.json value).follow? rest).map Found.text := by
      cases found? with
      | none => rfl
      | some found => exact (found.map_text_follow?_toJson rest).symm
    rw [resolve?, resolve?, hfollow, hfollow, hfirst]

/-- Contexts with the same values render every template alike. -/
theorem SameValues.render_eq (h : SameValues context other) (t : Template) :
    t.render context = t.render other :=
  Template.render_congr fun path _ => h.map_text_resolve? path

end SameValues

/-! ## Contexts without values -/

/-- The literal of a node. -/
def Node.literal? : Node → Option String
  | .text literal => some literal
  | .reference _ => none

/-- All literals of a template, one behind the other. -/
def Template.literals (t : Template) : String :=
  String.join (t.nodes.filterMap Node.literal?)

theorem Node.render_of_get?_eq_none {γ : Type} [Context γ] {context : γ}
    (h : ∀ key, Context.get? context key = none) (node : Node) : node.render context = node.literal?.getD "" := by
  cases node with
  | text literal => rfl
  | reference path =>
    have hresolve : resolve? context path = none := by
      cases path with
      | nil => rfl
      | cons first rest => rw [resolve?, h first, Option.bind_none]
    rw [Node.render, hresolve, Option.map_none, literal?]

theorem Template.render_of_get?_eq_none {γ : Type} [Context γ] {context : γ}
    (h : ∀ key, Context.get? context key = none) (t : Template) : t.render context = t.literals := by
  unfold render literals
  induction t.nodes with
  | nil => rfl
  | cons node rest ih =>
    rw [List.map_cons, String.join_cons, ih, Node.render_of_get?_eq_none h]
    cases hliteral : node.literal? with
    | none => rw [List.filterMap_cons_none hliteral, Option.getD_none, String.empty_append]
    | some literal => rw [List.filterMap_cons_some hliteral, String.join_cons, Option.getD_some]

/-! ## The types of contexts -/

/-- The object with texts as its values. -/
def Json.ofTexts (members : Members String) : Json :=
  .obj (members.map fun member => (member.1, .str member.2))

theorem sameValues_members (members : Members Json) : SameValues members (Json.obj members) := by
  intro key
  rfl

theorem sameValues_hashMap {members : Members Json} {hash : Std.HashMap String Json}
    (h : ∀ key, hash[key]? = members.get? key) : SameValues hash (Json.obj members) := by
  intro key
  show (hash[key]?.map Found.json).map Found.toJson = ((members.get? key).map Found.json).map Found.toJson
  rw [h]

theorem sameValues_ofTexts {γ : Type} [Context γ] {context : γ} {members : Members String}
    (h : ∀ key, Context.get? context key = (members.get? key).map Found.str) :
    SameValues context (Json.ofTexts members) := by
  intro key
  have hobject : Context.get? (Json.ofTexts members) key = ((members.get? key).map Json.str).map Found.json := by
    rw [← Members.get?_map]
    rfl
  rw [h, hobject, Option.map_map, Option.map_map, Option.map_map]
  rfl

/-- The type of a context does not matter for what is rendered. An object, its members and a hash map with the same
values render alike; so do maps of texts and the object with these texts as strings; and so does any context that is
borrowed or optional. Contexts without keys, and values that are neither objects nor arrays, leave the literals
alone. -/
theorem Template.render_eq_of_same_values (t : Template) :
    (∀ (members : Members Json) (hash : Std.HashMap String Json), (∀ key, hash[key]? = members.get? key) →
      t.render members = t.render (Json.obj members) ∧ t.render hash = t.render (Json.obj members)) ∧
    (∀ (members : Members String) (hash : Std.HashMap String String) (tree : Std.TreeMap String String),
      (∀ key, hash[key]? = members.get? key) → (∀ key, tree[key]? = members.get? key) →
      t.render hash = t.render (Json.ofTexts members) ∧ t.render tree = t.render (Json.ofTexts members)) ∧
    (∀ (γ : Type) [Context γ] (context : γ),
      t.render (Borrowed.mk context) = t.render context ∧ t.render (some context) = t.render context ∧
      t.render (none : Option γ) = t.literals) ∧
    t.render () = t.literals ∧ t.render Json.null = t.literals ∧ (∀ value, t.render (Json.bool value) = t.literals) ∧
    (∀ value, t.render (Json.num value) = t.literals) ∧ (∀ value, t.render (Json.str value) = t.literals) := by
  refine ⟨?_, ?_, ?_, ?_, ?_, ?_, ?_, ?_⟩
  · intro members hash hhash
    exact ⟨(sameValues_members members).render_eq t, (sameValues_hashMap hhash).render_eq t⟩
  · intro members hash tree hhash htree
    have hget : ∀ key, Context.get? hash key = (members.get? key).map Found.str := by
      intro key
      rw [← hhash]
      rfl
    have hget' : ∀ key, Context.get? tree key = (members.get? key).map Found.str := by
      intro key
      rw [← htree]
      rfl
    exact ⟨(sameValues_ofTexts hget).render_eq t, (sameValues_ofTexts hget').render_eq t⟩
  · intro γ _ context
    have hborrowed : SameValues (Borrowed.mk context) context := fun _ => rfl
    have hsome : SameValues (some context) context := fun _ => rfl
    exact ⟨hborrowed.render_eq t, hsome.render_eq t, render_of_get?_eq_none (fun _ => rfl) t⟩
  · exact render_of_get?_eq_none (fun _ => rfl) t
  · exact render_of_get?_eq_none (fun _ => rfl) t
  · exact fun value => render_of_get?_eq_none (fun _ => rfl) t
  · exact fun value => render_of_get?_eq_none (fun _ => rfl) t
  · exact fun value => render_of_get?_eq_none (fun _ => rfl) t

theorem Template.render_eq_of_same_values_nested :
    (∀ key, ((∅ : Std.HashMap String Json).insert "a" (.obj [("b", .str "1")]))[key]? =
      Members.get? key [("a", .obj [("b", .str "1")])]) ∧
    (mk [.text "x", .reference ["a", "b"]]).render
      ((∅ : Std.HashMap String Json).insert "a" (.obj [("b", .str "1")])) = "x1" ∧
    (∀ key, ((∅ : Std.HashMap String String).insert "a" "1")[key]? = Members.get? key [("a", "1")]) ∧
    (∀ key, ((∅ : Std.TreeMap String String).insert "a" "1")[key]? = Members.get? key [("a", "1")]) ∧
    (mk [.text "x", .reference ["a", "b"], .reference ["a"]]).render
      (some ((∅ : Std.TreeMap String String).insert "a" "1")) = "x1" ∧
    (mk [.text "x", .reference ["a", "b"], .text "y", .reference []]).render (Json.str "1") = "xy" := by
  have hhash {α : Type} (value : α) (key : String) :
      ((∅ : Std.HashMap String α).insert "a" value)[key]? = Members.get? key [("a", value)] := by
    rw [Std.HashMap.getElem?_insert, Members.get?_cons]
    by_cases h : key = "a"
    · simp [h]
    · have hne : ("a" == key) = false := beq_eq_false_iff_ne.mpr fun heq => h heq.symm
      simp [h, hne, Members.get?_nil]
  have htree : ∀ key, ((∅ : Std.TreeMap String String).insert "a" "1")[key]? = Members.get? key [("a", "1")] := by
    intro key
    rw [Std.TreeMap.getElem?_insert, Members.get?_cons]
    by_cases h : key = "a"
    · simp [h]
    · have hne : ¬"a" = key := fun heq => h heq.symm
      simp [h, hne, Members.get?_nil]
  obtain ⟨hjson, -, -⟩ := render_eq_of_same_values (mk [.text "x", .reference ["a", "b"]])
  obtain ⟨-, htexts, hsome, -⟩ := render_eq_of_same_values (mk [.text "x", .reference ["a", "b"], .reference ["a"]])
  obtain ⟨-, -, -, -, -, -, -, hstring⟩ :=
    render_eq_of_same_values (mk [.text "x", .reference ["a", "b"], .text "y", .reference []])
  refine ⟨hhash _, ?_, hhash _, htree, ?_, ?_⟩
  · rw [(hjson _ _ (hhash _)).2]
    decide
  · rw [(hsome _ _).2.1, (htexts _ _ _ (hhash _) htree).2]
    decide
  · rw [hstring]
    decide

end Stencil
