import Stencil.Proofs.Context.Index
import Stencil.Proofs.Context.SameValues

/-!
# Paths through values

Where a path leads to from a JSON value is said key by key (`Json.Child`), and a path is followed exactly to where it
leads (`resolve?_eq_some_iff`), its first key no different from the others.
-/

namespace Stencil

namespace Json

/-- The child of a value under a key: in an object the value of a member under its name, in an array an item under its
index in decimal digits. Indices are numbers of 64 bits. No other value has children. -/
inductive Child : Json → String → Json → Prop where
  | member {members : List (String × Json)} {name : String} {value : Json}
      (h : Members.get? name members = some value) : Child (.obj members) name value
  | item {items : List Json} {i : UInt64} {value : Json} (h : items[i.toNat]? = some value) :
      Child (.arr items) i.toNat.repr value

/-- A path leads from a value to what is reached by its keys one after the other. -/
inductive LeadsTo : Json → List String → Json → Prop where
  | here (value : Json) : LeadsTo value [] value
  | step {value child target : Json} {key : String} {path : List String} (hchild : value.Child key child)
      (hpath : child.LeadsTo path target) : LeadsTo value (key :: path) target

theorem child_arr_iff {items : List Json} {key : String} {value : Json} :
    (arr items).Child key value ↔ ∃ i : UInt64, key = i.toNat.repr ∧ items[i.toNat]? = some value := by
  constructor
  · intro h
    cases h with
    | @item _ i _ h => exact ⟨i, rfl, h⟩
  · rintro ⟨i, rfl, h⟩
    exact .item h

theorem child_obj_iff {members : List (String × Json)} {key : String} {value : Json} :
    (obj members).Child key value ↔ Members.get? key members = some value := by
  constructor
  · intro h
    cases h with
    | member h => exact h
  · exact .member

theorem leadsTo_nil_iff {value target : Json} : value.LeadsTo [] target ↔ target = value := by
  constructor
  · intro h
    cases h
    rfl
  · rintro rfl
    exact .here target

theorem leadsTo_cons_iff {value target : Json} {key : String} {path : List String} :
    value.LeadsTo (key :: path) target ↔ ∃ child, value.Child key child ∧ child.LeadsTo path target := by
  constructor
  · intro h
    cases h with
    | @step _ child _ _ _ hchild hpath => exact ⟨child, hchild, hpath⟩
  · rintro ⟨child, hchild, hpath⟩
    exact .step hchild hpath

end Json

namespace Found

theorem get?_json_eq_some_iff {value : Json} {key : String} {found : Found} :
    (json value).get? key = some found ↔ ∃ child, found = json child ∧ value.Child key child := by
  cases value with
  | obj members =>
    simp only [get?, Option.map_eq_some_iff, Json.child_obj_iff]
    constructor
    · rintro ⟨child, hget, rfl⟩
      exact ⟨child, rfl, hget⟩
    · rintro ⟨child, rfl, hget⟩
      exact ⟨child, hget, rfl⟩
  | arr items =>
    simp only [get?, Option.bind_eq_some_iff, Option.map_eq_some_iff, index?_eq_some_iff, Json.child_arr_iff]
    constructor
    · rintro ⟨i, ⟨hlt, rfl⟩, child, hget, rfl⟩
      have hindex : (UInt64.ofNatLT i hlt).toNat = i := UInt64.toNat_ofNatLT
      exact ⟨child, rfl, UInt64.ofNatLT i hlt, by rw [hindex], by rw [hindex]; exact hget⟩
    · rintro ⟨child, rfl, i, rfl, hget⟩
      exact ⟨i.toNat, ⟨i.toNat_lt, rfl⟩, child, hget, rfl⟩
  | null | bool | num | str =>
    constructor
    · intro h
      cases h
    · rintro ⟨child, -, hchild⟩
      cases hchild

theorem follow?_json_eq_some_iff {value : Json} {path : List String} {found : Found} :
    (json value).follow? path = some found ↔ ∃ target, found = json target ∧ value.LeadsTo path target := by
  induction path generalizing value with
  | nil =>
    simp only [follow?_nil, Option.some.injEq, Json.leadsTo_nil_iff]
    constructor
    · rintro rfl
      exact ⟨value, rfl, rfl⟩
    · rintro ⟨target, rfl, rfl⟩
      rfl
  | cons key path ih =>
    simp only [follow?_cons, Option.bind_eq_some_iff, get?_json_eq_some_iff, Json.leadsTo_cons_iff]
    constructor
    · rintro ⟨-, ⟨child, rfl, hchild⟩, hrest⟩
      obtain ⟨target, rfl, hpath⟩ := ih.mp hrest
      exact ⟨target, rfl, child, hchild, hpath⟩
    · rintro ⟨target, rfl, child, hchild, hpath⟩
      exact ⟨json child, ⟨child, rfl, hchild⟩, ih.mpr ⟨target, rfl, hpath⟩⟩

end Found

variable {root : Json} {path : List String}

/-- The first key of a path is looked up no differently from the others. -/
theorem resolve?_json (hne : path ≠ []) : resolve? root path = (Found.json root).follow? path := by
  cases path with
  | nil => exact absurd rfl hne
  | cons first rest => rfl

/-- A path with keys is resolved to where it leads. -/
theorem resolve?_eq_some_iff {found : Found} (hne : path ≠ []) :
    resolve? root path = some found ↔ ∃ target, found = .json target ∧ root.LeadsTo path target := by
  rw [resolve?_json hne, Found.follow?_json_eq_some_iff]

theorem render_reference_of_leadsTo {target : Json} (hne : path ≠ []) (h : root.LeadsTo path target) :
    (Node.reference path).render root = target.display := by
  have hresolve : resolve? root path = some (.json target) := (resolve?_eq_some_iff hne).mpr ⟨target, rfl, h⟩
  rw [Node.render, hresolve]
  rfl

theorem render_reference_of_forall_not (hne : path ≠ []) (h : ∀ target, ¬ root.LeadsTo path target) :
    (Node.reference path).render root = "" := by
  have hresolve : resolve? root path = none := by
    rw [Option.eq_none_iff_forall_ne_some]
    intro found hfound
    obtain ⟨target, -, hpath⟩ := (resolve?_eq_some_iff hne).mp hfound
    exact h target hpath
  rw [Node.render, hresolve]
  rfl

end Stencil
