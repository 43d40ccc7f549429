import Stencil.Proofs.Context.Path

/-!
# Values after a replacement

A value that a path leads to can be replaced (`Json.replaceAt`). Paths through that place then lead on from the new
value, and paths that part from it lead where they did before (`resolve?_replaceAt`): two different keys never lead to
the same child, neither in an object nor in an array.
-/

namespace Stencil

/-- The value with a new value in place of the one that the path leads to. In an array the item is replaced whose index
is written as the key. -/
def Json.replaceAt : Json → List String → Json → Json
  | _, [], new => new
  | .obj members, key :: path, new =>
    .obj (members.map fun member => (member.1, if member.1 = key then member.2.replaceAt path new else member.2))
  | .arr items, key :: path, new =>
    .arr (items.mapIdx fun i item => if i.repr = key then item.replaceAt path new else item)
  | value, _ :: _, _ => value

namespace Found

variable {value child new : Json} {key : String} {path : List String}

/-! ## One key -/

theorem get?_members_replaceAt (members : Members Json) (key : String) (path : List String) (new : Json)
    (name : String) :
    Members.get? name (members.map fun member =>
      (member.1, if member.1 = key then member.2.replaceAt path new else member.2)) =
      (members.get? name).map fun value => if name = key then value.replaceAt path new else value :=
  Members.get?_mapNamed (fun name value => if name = key then Json.replaceAt value path new else value) members name

theorem get?_replaceAt_self (h : (json value).get? key = some (json child)) :
    (json (value.replaceAt (key :: path) new)).get? key = some (json (child.replaceAt path new)) := by
  cases value with
  | obj members =>
    obtain ⟨member, hmember, hchild⟩ := Option.map_eq_some_iff.mp h
    cases hchild
    rw [Json.replaceAt, get?, get?_members_replaceAt, hmember, Option.map_some, if_pos rfl, Option.map_some]
  | arr items =>
    obtain ⟨i, hi, hfound⟩ := Option.bind_eq_some_iff.mp h
    obtain ⟨item, hitem, hchild⟩ := Option.map_eq_some_iff.mp hfound
    cases hchild
    obtain ⟨-, hkey⟩ := index?_eq_some_iff.mp hi
    rw [Json.replaceAt, get?, hi, Option.bind_some, List.getElem?_mapIdx, hitem, Option.map_some, if_pos hkey.symm,
      Option.map_some]
  | null | bool | num | str => cases h

theorem get?_replaceAt_of_ne {other : String} (h : other ≠ key) :
    (json (value.replaceAt (key :: path) new)).get? other = (json value).get? other := by
  cases value with
  | obj members =>
    rw [Json.replaceAt, get?, get?, get?_members_replaceAt]
    simp only [if_neg h, Option.map_id_fun', id_eq]
  | arr items =>
    rw [Json.replaceAt, get?, get?]
    cases hi : index? other with
    | none => rfl
    | some i =>
      obtain ⟨-, rfl⟩ := index?_eq_some_iff.mp hi
      rw [Option.bind_some, Option.bind_some, List.getElem?_mapIdx]
      simp only [if_neg h, Option.map_id_fun', id_eq]
  | null | bool | num | str => rfl

/-! ## Paths -/

/-- A path is followed through the replaced value on to the new one. -/
theorem follow?_replaceAt_append {found : Found} (h : (json value).follow? path = some found) (rest : List String) :
    (json (value.replaceAt path new)).follow? (path ++ rest) = (json new).follow? rest := by
  induction path generalizing value with
  | nil => rw [Json.replaceAt, List.nil_append]
  | cons key path ih =>
    rw [follow?_cons, Option.bind_eq_some_iff] at h
    obtain ⟨step, hstep, hpath⟩ := h
    obtain ⟨child, rfl, -⟩ := get?_json_eq_some_iff.mp hstep
    rw [List.cons_append, follow?_cons, get?_replaceAt_self hstep, Option.bind_some, ih hpath]

/-- A path that parts from the one to the replaced value does so at some key, and up to there both go through the same
children. So the induction is on one path and takes the other one along. -/
theorem follow?_replaceAt_of_not_prefix {found : Found} (h : (json value).follow? path = some found)
    {other : List String} (hpath : ¬ path <+: other) (hother : ¬ other <+: path) :
    (json (value.replaceAt path new)).follow? other = (json value).follow? other := by
  induction path generalizing value other with
  | nil => exact absurd List.nil_prefix hpath
  | cons key path ih =>
    cases other with
    | nil => exact absurd List.nil_prefix hother
    | cons first other =>
      rw [follow?_cons, follow?_cons]
      by_cases hkey : first = key
      · subst hkey
        rw [follow?_cons, Option.bind_eq_some_iff] at h
        obtain ⟨step, hstep, hrest⟩ := h
        obtain ⟨child, rfl, -⟩ := get?_json_eq_some_iff.mp hstep
        have hpath' : ¬ path <+: other := fun h => hpath (List.cons_prefix_cons.mpr ⟨rfl, h⟩)
        have hother' : ¬ other <+: path := fun h => hother (List.cons_prefix_cons.mpr ⟨rfl, h⟩)
        rw [get?_replaceAt_self hstep, hstep, Option.bind_some, Option.bind_some, ih hrest hpath' hother']
      · rw [get?_replaceAt_of_ne hkey]

end Found

theorem ne_nil_of_resolve? {γ : Type} [Context γ] {context : γ} {path : List String} {found : Found}
    (h : resolve? context path = some found) : path ≠ [] := by
  rintro rfl
  cases h

/-- After a value that a path leads to has been replaced, longer paths lead on from the new value, and every path that
is not comparable with the first one leads where it did before. So templates without comparable references are rendered
as before. -/
theorem resolve?_replaceAt {root : Json} {path : List String} {found : Found} (h : resolve? root path = some found)
    (new : Json) :
    (∀ rest, resolve? (root.replaceAt path new) (path ++ rest) = (Found.json new).follow? rest) ∧
    resolve? (root.replaceAt path new) path = some (.json new) ∧
    (∀ other, ¬ path <+: other → ¬ other <+: path →
      resolve? (root.replaceAt path new) other = resolve? root other) ∧
    ∀ t : Template, (∀ other ∈ t.references, ¬ path <+: other ∧ ¬ other <+: path) →
      t.render (root.replaceAt path new) = t.render root := by
  have hne : path ≠ [] := ne_nil_of_resolve? h
  rw [resolve?_json hne] at h
  have hlonger (rest : List String) :
      resolve? (root.replaceAt path new) (path ++ rest) = (Found.json new).follow? rest := by
    rw [resolve?_json (List.append_ne_nil_of_left_ne_nil hne rest), Found.follow?_replaceAt_append h]
  have hapart (other : List String) (hpath : ¬ path <+: other) (hother : ¬ other <+: path) :
      resolve? (root.replaceAt path new) other = resolve? root other := by
    have hne' : other ≠ [] := by
      rintro rfl
      exact hother List.nil_prefix
    rw [resolve?_json hne', resolve?_json hne', Found.follow?_replaceAt_of_not_prefix h hpath hother]
  refine ⟨hlonger, ?_, hapart, ?_⟩
  · have hhere := hlonger []
    rwa [List.append_nil] at hhere
  · intro t hreferences
    apply Template.render_congr
    intro other hmem
    obtain ⟨hpath, hother⟩ := hreferences other hmem
    rw [hapart other hpath hother]

theorem resolve?_replaceAt_item :
    let root : Json := .obj [("a", .arr [.str "x", .obj [("b", .null)]]), ("c", .str "y")]
    let changed : Json := .obj [("a", .arr [.str "x", .obj [("b", .arr [.str "z"])]]), ("c", .str "y")]
    let t : Template := ⟨[.reference ["a", "0"], .reference ["a", "01", "b"], .reference ["c"]]⟩
    resolve? root ["a", "1", "b"] = some (.json .null) ∧ root.replaceAt ["a", "1", "b"] (.arr [.str "z"]) = changed ∧
    resolve? changed ["a", "1", "b", "0"] = some (.json (.str "z")) ∧
    resolve? changed ["a", "0"] = resolve? root ["a", "0"] ∧
    (∀ other ∈ t.references, ¬ ["a", "1", "b"] <+: other ∧ ¬ other <+: ["a", "1", "b"]) ∧
    t.render changed = t.render root := by
  intro root changed t
  have hresolve : resolve? root ["a", "1", "b"] = some (.json .null) := rfl
  have hchanged : root.replaceAt ["a", "1", "b"] (.arr [.str "z"]) = changed := rfl
  have hapart : ∀ other ∈ t.references, ¬ ["a", "1", "b"] <+: other ∧ ¬ other <+: ["a", "1", "b"] := by decide
  obtain ⟨hlonger, -, hother, hrender⟩ := resolve?_replaceAt hresolve (.arr [.str "z"])
  rw [hchanged] at hlonger hother hrender
  exact ⟨hresolve, hchanged, hlonger ["0"], hother ["a", "0"] (by decide) (by decide), hapart, hrender t hapart⟩

end Stencil
