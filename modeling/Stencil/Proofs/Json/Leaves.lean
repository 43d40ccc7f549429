import Stencil.Json.Printer
import Mathlib.Logic.Relation

/-!
# The leaves of an array

The text of an array does not show how its items are nested: it is the texts of its leaves with commas between them
(`intercalate_leaves`). Every value inside of an array has a leaf, an empty array and null an empty one, so the commas
can be counted leaf by leaf. What keeps the leaves keeps the text (`Grouping`).
-/

namespace Stencil

/-- Induction over the values inside of a value. -/
@[elab_as_elim]
theorem Json.inductionOn {motive : Json → Prop} (value : Json) (null : motive .null)
    (bool : ∀ value, motive (.bool value)) (num : ∀ value, motive (.num value)) (str : ∀ value, motive (.str value))
    (arr : ∀ items, (∀ item ∈ items, motive item) → motive (.arr items))
    (obj : ∀ members, (∀ member ∈ members, motive member.2) → motive (.obj members)) : motive value :=
  @Json.rec motive (fun items => ∀ item ∈ items, motive item) (fun members => ∀ member ∈ members, motive member.2)
    (fun member => motive member.2) null bool num str arr obj (fun _ hmem => absurd hmem List.not_mem_nil)
    (fun _ _ hitem hitems => List.forall_mem_cons.mpr ⟨hitem, hitems⟩) (fun _ hmem => absurd hmem List.not_mem_nil)
    (fun _ _ hmember hmembers => List.forall_mem_cons.mpr ⟨hmember, hmembers⟩) (fun _ _ hvalue => hvalue) value

namespace Json

mutual

/-- The leaves of a value that stands inside of an array. -/
def leaves : Json → List String
  | null => [""]
  | arr [] => [""]
  | arr (item :: items) => leaves item ++ leavesItems items
  | value => [value.display]

/-- The leaves of several values, in order. -/
def leavesItems : List Json → List String
  | [] => []
  | item :: items => leaves item ++ leavesItems items

end

theorem leavesItems_eq_flatMap (items : List Json) : leavesItems items = items.flatMap leaves := by
  induction items with
  | nil => rw [leavesItems, List.flatMap_nil]
  | cons item items ih => rw [leavesItems, List.flatMap_cons, ih]

theorem leaves_arr {items : List Json} (h : items ≠ []) : (arr items).leaves = items.flatMap leaves := by
  cases items with
  | nil => exact absurd rfl h
  | cons item items => rw [leaves, leavesItems_eq_flatMap, List.flatMap_cons]

theorem leaves_ne_nil (value : Json) : value.leaves ≠ [] := by
  induction value using Json.inductionOn with
  | null | bool | num | str | obj => simp [leaves]
  | arr items ih =>
    cases items with
    | nil => simp [leaves]
    | cons item items =>
      have hitem : item.leaves ≠ [] := ih item List.mem_cons_self
      simp [leaves, hitem]

/-- Parts that are joined one by one can be joined all at once, if none of them is empty. -/
theorem intercalate_flatMap {α : Type} {parts : α → List String} {xs : List α} (h : ∀ x ∈ xs, parts x ≠ [])
    (sep : String) :
    sep.intercalate (xs.flatMap parts) = sep.intercalate (xs.map fun x => sep.intercalate (parts x)) := by
  induction xs with
  | nil => rw [List.flatMap_nil, List.map_nil]
  | cons x xs ih =>
    have hx : parts x ≠ [] := h x List.mem_cons_self
    have hxs : ∀ y ∈ xs, parts y ≠ [] := fun y hy => h y (List.mem_cons_of_mem x hy)
    rw [List.flatMap_cons, List.map_cons]
    by_cases hnil : xs = []
    · rw [hnil, List.flatMap_nil, List.append_nil, List.map_nil, String.intercalate_singleton]
    · obtain ⟨y, hy⟩ := List.exists_mem_of_ne_nil xs hnil
      have hrest : xs.flatMap parts ≠ [] := fun hempty => hxs y hy (List.flatMap_eq_nil_iff.mp hempty y hy)
      have hmap : (xs.map fun x => sep.intercalate (parts x)) ≠ [] := fun hempty => hnil (List.map_eq_nil_iff.mp hempty)
      rw [String.intercalate_append_of_ne_nil hx hrest, String.intercalate_cons_of_ne_nil hmap, ih hxs]

/-- What a value contributes to the text of an array is its leaves with commas between them. -/
theorem intercalate_leaves (value : Json) :
    ",".intercalate value.leaves = if value.isNull then "" else value.display := by
  induction value using Json.inductionOn with
  | null => simp [leaves, isNull]
  | bool | num | str | obj => simp [leaves, isNull]
  | arr items ih =>
    by_cases hnil : items = []
    · subst hnil
      simp [leaves, isNull, display, displayItems]
    · have hparts : items.map (fun item => ",".intercalate item.leaves) = displayItems items := by
        rw [displayItems_eq_map]
        exact List.map_congr_left ih
      rw [leaves_arr hnil, intercalate_flatMap (fun item _ => leaves_ne_nil item), hparts]
      rfl

theorem display_arr (items : List Json) : (arr items).display = ",".intercalate (arr items).leaves :=
  (intercalate_leaves (arr items)).symm

/-! ## Values inside of arrays -/

/-- A value is the other one, or an item of it, or an item of an array that is nested in it. -/
inductive Within (value : Json) : Json → Prop where
  | here : Within value value
  | item {items : List Json} {item : Json} (hmem : item ∈ items) (h : Within value item) : Within value (arr items)

/-- However deep a value is nested in an array, its leaves are among those of the array, next to one another. -/
theorem Within.leaves_eq {value other : Json} (h : value.Within other) :
    ∃ before after, other.leaves = before ++ value.leaves ++ after := by
  induction h with
  | here => exact ⟨[], [], by rw [List.nil_append, List.append_nil]⟩
  | @item items item hmem _ ih =>
    obtain ⟨before, after, hitem⟩ := ih
    obtain ⟨first, last, rfl⟩ := List.append_of_mem hmem
    have hitems : first ++ item :: last ≠ [] := by simp
    refine ⟨first.flatMap leaves ++ before, after ++ last.flatMap leaves, ?_⟩
    rw [leaves_arr hitems, List.flatMap_append, List.flatMap_cons, hitem]
    simp only [List.append_assoc]

/-! ## Grouping -/

/-- Neighbouring items of an array are put into an array of their own, in this array or in one that is nested in it. -/
inductive Grouping : Json → Json → Prop where
  | here (before group after : List Json) (hne : group ≠ []) :
      Grouping (arr (before ++ group ++ after)) (arr (before ++ arr group :: after))
  | inside (before : List Json) {item other : Json} (after : List Json) (h : Grouping item other) :
      Grouping (arr (before ++ item :: after)) (arr (before ++ other :: after))

theorem Grouping.leaves_eq {value other : Json} (h : Grouping value other) : value.leaves = other.leaves := by
  induction h with
  | here before group after hne =>
    have hitems : before ++ group ++ after ≠ [] := by simp [hne]
    have hgrouped : before ++ arr group :: after ≠ [] := by simp
    rw [leaves_arr hitems, leaves_arr hgrouped, List.flatMap_append, List.flatMap_append, List.flatMap_append,
      List.flatMap_cons, leaves_arr hne, List.append_assoc]
  | @inside before item other after h ih =>
    have hitem : before ++ item :: after ≠ [] := by simp
    have hother : before ++ other :: after ≠ [] := by simp
    rw [leaves_arr hitem, leaves_arr hother, List.flatMap_append, List.flatMap_append, List.flatMap_cons,
      List.flatMap_cons, ih]

theorem Grouping.display_eq {value other : Json} (h : Grouping value other) : value.display = other.display := by
  have hleaves := h.leaves_eq
  cases h with
  | here before group after hne => rw [display_arr, display_arr, hleaves]
  | inside before after h => rw [display_arr, display_arr, hleaves]

/-- The text of an array is its leaves with commas between them, so neighbouring items may be grouped to arrays and
groups may be resolved, wherever they are nested and as often as one likes. -/
theorem display_arr_eq_intercalate_leaves :
    (∀ items, (arr items).display = ",".intercalate (arr items).leaves) ∧ (arr []).display = "" ∧
    ∀ value other, Relation.EqvGen Grouping value other → value.display = other.display := by
  refine ⟨display_arr, rfl, ?_⟩
  intro value other h
  induction h with
  | rel value other h => exact h.display_eq
  | refl value => rfl
  | symm value other _ ih => exact ih.symm
  | trans value middle other _ _ ih ih' => exact ih.trans ih'

theorem display_arr_eq_intercalate_leaves_regrouped :
    let value := arr [arr [str "a", null], arr [], str "b"]
    let other := arr [str "a", arr [null, arr [arr []], str "b"]]
    Relation.EqvGen Grouping value other ∧ value.display = other.display ∧ value.display = "a,,,b" := by
  intro value other
  have hresolved : Grouping (arr [str "a", null, arr [], str "b"]) value :=
    .here [] [str "a", null] [arr [], str "b"] (List.cons_ne_nil _ _)
  have houter : Grouping (arr [str "a", null, arr [], str "b"]) (arr [str "a", arr [null, arr [], str "b"]]) :=
    .here [str "a"] [null, arr [], str "b"] [] (List.cons_ne_nil _ _)
  have hinner : Grouping (arr [str "a", arr [null, arr [], str "b"]]) other :=
    .inside [str "a"] [] (.here [null] [arr []] [str "b"] (List.cons_ne_nil _ _))
  have h : Relation.EqvGen Grouping value other :=
    .trans _ _ _ (.symm _ _ (.rel _ _ hresolved)) (.trans _ _ _ (.rel _ _ houter) (.rel _ _ hinner))
  obtain ⟨hleaves, -, hgrouped⟩ := display_arr_eq_intercalate_leaves
  refine ⟨h, hgrouped value other h, ?_⟩
  rw [hleaves]
  rfl

end Json

end Stencil
