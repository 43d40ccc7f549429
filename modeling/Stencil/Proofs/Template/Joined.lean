import Stencil.Template.Render

/-!
# Joining texts

Several lists of nodes are written alike and rendered alike: a text may be empty, and it may be cut into
several texts. `joinTexts` picks one of them, in which neighbouring texts are joined and empty ones are left
out. Texts may be joined in any order (`joinTexts_joinTexts_append`, `joinTexts_append_joinTexts`), and joining
them changes nothing that is written for the nodes (`join_map_joinTexts`).
-/

namespace Stencil.Template

/-- Puts a text before nodes. It is joined with the text that they begin with, and left out if it is empty. -/
def consText (literal : String) : List Node → List Node
  | .text next :: rest => .text (literal ++ next) :: rest
  | nodes => if literal = "" then nodes else .text literal :: nodes

/-- Joins neighbouring texts and leaves out empty ones. -/
def joinTexts : List Node → List Node
  | [] => []
  | .text literal :: rest => consText literal (joinTexts rest)
  | .reference path :: rest => .reference path :: joinTexts rest

@[simp] theorem joinTexts_nil : joinTexts [] = [] := rfl

@[simp] theorem joinTexts_text (literal : String) (nodes : List Node) :
    joinTexts (.text literal :: nodes) = consText literal (joinTexts nodes) := rfl

@[simp] theorem joinTexts_reference (path : List String) (nodes : List Node) :
    joinTexts (.reference path :: nodes) = .reference path :: joinTexts nodes := rfl

@[simp] theorem consText_empty (nodes : List Node) : consText "" nodes = nodes := by
  cases nodes with
  | nil => rfl
  | cons node rest =>
    cases node with
    | text next => rw [consText, String.empty_append]
    | reference path => rfl

@[simp] theorem consText_text (literal next : String) (nodes : List Node) :
    consText literal (.text next :: nodes) = .text (literal ++ next) :: nodes := rfl

theorem consText_nil {literal : String} (h : literal ≠ "") : consText literal [] = [.text literal] :=
  if_neg h

theorem consText_reference {literal : String} (h : literal ≠ "") (path : List String) (nodes : List Node) :
    consText literal (.reference path :: nodes) = .text literal :: .reference path :: nodes :=
  if_neg h

/-- A text before a reference is a node of its own, whatever stands behind the reference. -/
theorem consText_reference_eq_append (literal : String) (path : List String) (nodes : List Node) :
    consText literal (.reference path :: nodes) = consText literal [] ++ .reference path :: nodes := by
  by_cases h : literal = ""
  · rw [h, consText_empty, consText_empty, List.nil_append]
  · rw [consText_reference h, consText_nil h, List.singleton_append]

/-! ## The order of joining -/

/-- Two texts are put before nodes as one. -/
theorem consText_consText (literal next : String) (nodes : List Node) :
    consText literal (consText next nodes) = consText (literal ++ next) nodes := by
  by_cases hnext : next = ""
  · rw [hnext, consText_empty, String.append_empty]
  · have happend : literal ++ next ≠ "" := fun h => hnext (String.append_eq_empty_iff.mp h).2
    cases nodes with
    | nil => rw [consText_nil hnext, consText_nil happend, consText_text]
    | cons node rest =>
      cases node with
      | text last => rw [consText_text, consText_text, consText_text, String.append_assoc]
      | reference path => rw [consText_reference hnext, consText_reference happend, consText_text]

theorem joinTexts_consText_append (literal : String) (nodes others : List Node) :
    joinTexts (consText literal nodes ++ others) = consText literal (joinTexts (nodes ++ others)) := by
  by_cases h : literal = ""
  · rw [h, consText_empty, consText_empty]
  · cases nodes with
    | nil => rw [consText_nil h, List.singleton_append, joinTexts_text, List.nil_append]
    | cons node rest =>
      cases node with
      | text next =>
        rw [consText_text, List.cons_append, List.cons_append, joinTexts_text, joinTexts_text, consText_consText]
      | reference path => rw [consText_reference h, List.cons_append, joinTexts_text]

/-- The nodes in front may be joined first. -/
theorem joinTexts_joinTexts_append (nodes others : List Node) :
    joinTexts (joinTexts nodes ++ others) = joinTexts (nodes ++ others) := by
  induction nodes with
  | nil => rfl
  | cons node rest ih =>
    cases node with
    | text literal => rw [joinTexts_text, joinTexts_consText_append, ih, List.cons_append, joinTexts_text]
    | reference path =>
      rw [joinTexts_reference, List.cons_append, List.cons_append, joinTexts_reference, joinTexts_reference, ih]

theorem joinTexts_joinTexts (nodes : List Node) : joinTexts (joinTexts nodes) = joinTexts nodes := by
  have h := joinTexts_joinTexts_append nodes []
  rwa [List.append_nil, List.append_nil] at h

/-- The nodes behind may be joined first. -/
theorem joinTexts_append_joinTexts (nodes others : List Node) :
    joinTexts (nodes ++ joinTexts others) = joinTexts (nodes ++ others) := by
  induction nodes with
  | nil => exact joinTexts_joinTexts others
  | cons node rest ih =>
    cases node with
    | text literal => rw [List.cons_append, List.cons_append, joinTexts_text, joinTexts_text, ih]
    | reference path => rw [List.cons_append, List.cons_append, joinTexts_reference, joinTexts_reference, ih]

/-! ## What is written for the nodes -/

section Writing

variable {write : Node → String} (hwrite : ∀ literal, write (.text literal) = literal)

include hwrite

theorem join_map_consText (literal : String) (nodes : List Node) :
    String.join ((consText literal nodes).map write) = literal ++ String.join (nodes.map write) := by
  by_cases h : literal = ""
  · rw [h, consText_empty, String.empty_append]
  · cases nodes with
    | nil => rw [consText_nil h, List.map_cons, String.join_cons, hwrite]
    | cons node rest =>
      cases node with
      | text next =>
        rw [consText_text, List.map_cons, List.map_cons, String.join_cons, String.join_cons, hwrite, hwrite,
          String.append_assoc]
      | reference path => rw [consText_reference h, List.map_cons, String.join_cons, hwrite]

/-- Joining texts changes nothing that is written for the nodes, if texts are written as they are. -/
theorem join_map_joinTexts (nodes : List Node) :
    String.join ((joinTexts nodes).map write) = String.join (nodes.map write) := by
  induction nodes with
  | nil => rfl
  | cons node rest ih =>
    cases node with
    | text literal =>
      rw [joinTexts_text, join_map_consText hwrite, ih, List.map_cons, String.join_cons, hwrite]
    | reference path => rw [joinTexts_reference, List.map_cons, List.map_cons, String.join_cons, String.join_cons, ih]

end Writing

theorem source_joinTexts (nodes : List Node) : (mk (joinTexts nodes)).source = (mk nodes).source :=
  join_map_joinTexts (fun _ => rfl) nodes

theorem render_joinTexts {γ : Type} [Context γ] (context : γ) (nodes : List Node) :
    (mk (joinTexts nodes)).render context = (mk nodes).render context :=
  join_map_joinTexts (fun _ => rfl) nodes

end Stencil.Template
