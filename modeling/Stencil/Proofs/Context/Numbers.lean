import Stencil.Proofs.Context.Path
import Stencil.Proofs.Json.Leaves
import Stencil.Proofs.Number.Value
import Mathlib.Data.List.Forall2

/-!
# Contexts with numbers of either kind

A whole number may be held as such or as a double. Lookups do not see the difference, and neither does the text of what
is found (`Json.Alike.display_eq`), unless there is an object in it: there the numbers are written as JSON, which keeps
the two kinds apart.
-/

namespace Stencil

/-- The values are the same, except that numbers which are alike may stand for one another in any places. -/
inductive Json.Alike : Json → Json → Prop where
  | null : Alike .null .null
  | bool (value : Bool) : Alike (.bool value) (.bool value)
  | num {a b : Number} (h : a.Alike b) : Alike (.num a) (.num b)
  | str (value : String) : Alike (.str value) (.str value)
  | arr {items others : List Json} (h : List.Forall₂ Alike items others) : Alike (.arr items) (.arr others)
  | obj {members others : List (String × Json)} (hnames : members.map Prod.fst = others.map Prod.fst)
      (hvalues : List.Forall₂ Alike (members.map Prod.snd) (others.map Prod.snd)) : Alike (.obj members) (.obj others)

/-- The value is an object or an array that contains one at some depth. -/
def Json.HoldsObject (value : Json) : Prop :=
  ∃ members, (Json.obj members).Within value

/-! ## Lookups -/

theorem rel_bind {α β γ δ : Type} {R : α → β → Prop} {S : γ → δ → Prop} {a? : Option α} {b? : Option β}
    {f : α → Option γ} {g : β → Option δ} (h : Option.Rel R a? b?) (hfg : ∀ a b, R a b → Option.Rel S (f a) (g b)) :
    Option.Rel S (a?.bind f) (b?.bind g) := by
  cases h with
  | none => exact .none
  | some h => exact hfg _ _ h

theorem rel_getElem? {α β : Type} {R : α → β → Prop} {xs : List α} {ys : List β} (h : List.Forall₂ R xs ys) (i : Nat) :
    Option.Rel R xs[i]? ys[i]? := by
  induction h generalizing i with
  | nil => exact .none
  | cons hxy _ ih =>
    cases i with
    | zero => exact .some hxy
    | succ i => exact ih i

theorem Members.rel_get? {α β : Type} {R : α → β → Prop} {members : Members α} {others : Members β}
    (hnames : members.map Prod.fst = others.map Prod.fst)
    (hvalues : List.Forall₂ R (members.map Prod.snd) (others.map Prod.snd)) (name : String) :
    Option.Rel R (members.get? name) (others.get? name) := by
  induction members generalizing others with
  | nil =>
    cases others with
    | nil => exact .none
    | cons other others => cases hnames
  | cons member members ih =>
    cases others with
    | nil => cases hnames
    | cons other others =>
      obtain ⟨hname, hnames⟩ := List.cons.inj hnames
      obtain ⟨hvalue, hvalues⟩ := List.forall₂_cons.mp hvalues
      rw [get?_cons, get?_cons, ← hname]
      by_cases h : name = member.1
      · rw [if_pos h, if_pos h]
        exact .some hvalue
      · rw [if_neg h, if_neg h]
        exact ih hnames hvalues

namespace Found

/-- The found values are JSON values that are alike. -/
inductive Alike : Found → Found → Prop where
  | json {value other : Json} (h : value.Alike other) : Alike (.json value) (.json other)

theorem rel_map_json {value? other? : Option Json} (h : Option.Rel Json.Alike value? other?) :
    Option.Rel Alike (value?.map json) (other?.map json) := by
  cases h with
  | none => exact .none
  | some h => exact .some (.json h)

theorem Alike.rel_get? {found other : Found} (h : found.Alike other) (key : String) :
    Option.Rel Alike (found.get? key) (other.get? key) := by
  cases h with
  | json h =>
    cases h with
    | null | bool | num | str => exact .none
    | arr hitems =>
      rw [get?, get?]
      cases index? key with
      | none => exact .none
      | some i => exact rel_map_json (rel_getElem? hitems i)
    | obj hnames hvalues => exact rel_map_json (Members.rel_get? hnames hvalues key)

theorem Alike.rel_follow? {found other : Found} (h : found.Alike other) (path : List String) :
    Option.Rel Alike (found.follow? path) (other.follow? path) := by
  induction path generalizing found other with
  | nil => exact .some h
  | cons key path ih =>
    rw [follow?_cons, follow?_cons]
    exact rel_bind (h.rel_get? key) fun child other hchild => ih hchild

end Found

theorem Json.Alike.rel_resolve? {root other : Json} (h : root.Alike other) (path : List String) :
    Option.Rel Found.Alike (resolve? root path) (resolve? other path) := by
  by_cases hne : path = []
  · subst hne
    exact .none
  · rw [resolve?_json hne, resolve?_json hne]
    exact (Found.Alike.json h).rel_follow? path

/-! ## Texts -/

namespace Json

theorem Alike.isNull_eq {value other : Json} (h : value.Alike other) : value.isNull = other.isNull := by
  cases h <;> rfl

theorem HoldsObject.of_mem {items : List Json} {item : Json} (hmem : item ∈ items) (h : item.HoldsObject) :
    (arr items).HoldsObject := by
  obtain ⟨members, hwithin⟩ := h
  exact ⟨members, .item hmem hwithin⟩

/-- Values that are alike have the same text if there is no object in them. -/
theorem Alike.display_eq {value other : Json} (h : value.Alike other) (hobject : ¬ value.HoldsObject) :
    value.display = other.display := by
  induction value using Json.inductionOn generalizing other with
  | null | bool | str =>
    cases h
    rfl
  | num a =>
    cases h with
    | num hnumber => rw [display, display, hnumber.display_eq]
  | arr items ih =>
    cases h with
    | @arr _ others hitems =>
      have hplain : ∀ item ∈ items, ¬ item.HoldsObject := fun item hmem h => hobject (h.of_mem hmem)
      have hdisplay : displayItems items = displayItems others := by
        rw [displayItems_eq_map, displayItems_eq_map, ← List.forall₂_eq_eq_eq, List.forall₂_map_left_iff,
          List.forall₂_map_right_iff]
        refine List.Forall₂.imp ?_ ((List.forall₂_and_left items others).mpr ⟨fun item hmem => hmem, hitems⟩)
        rintro item other ⟨hmem, hitem⟩
        rw [hitem.isNull_eq, ih item hmem hitem (hplain item hmem)]
      rw [display, display, hdisplay]
  | obj members =>
    exact absurd ⟨members, .here⟩ hobject

end Json

theorem Json.Alike.map_text_resolve? {root other : Json} (h : root.Alike other) {path : List String}
    (hobject : ∀ value, resolve? root path = some (.json value) → ¬ value.HoldsObject) :
    (resolve? root path).map Found.text = (resolve? other path).map Found.text := by
  have hrel := h.rel_resolve? path
  generalize resolve? root path = found? at hrel hobject
  generalize resolve? other path = other? at hrel
  cases hrel with
  | none => rfl
  | some hfound =>
    cases hfound with
    | @json value other hvalue =>
      have htext : (Found.json value).text = (Found.json other).text := hvalue.display_eq (hobject value rfl)
      rw [Option.map_some, Option.map_some, htext]

/-- It makes no difference to a text whether a whole number of at most fifteen digits is held as such or as a double,
zero of either sign included, as long as no reference leads to an object or to an array that contains one. Such a
number is displayed as its decimal digits, and in an array they are the leaf that stands for it. -/
theorem evaluate_eq_of_alike :
    (∀ (source : String) (root other : Json), root.Alike other →
      (∀ path ∈ (Template.parse source).references, ∀ value, resolve? root path = some (.json value) →
        ¬ value.HoldsObject) → evaluate source root = evaluate source other) ∧
    ∀ (a : Number) (n : Int), |n| < 10 ^ 15 → a.value = n → (Json.num a).display = n.repr ∧
      ∀ items, (Json.num a).Within (.arr items) → ∃ before after,
        (Json.arr items).leaves = before ++ n.repr :: after ∧
        (Json.arr items).display = ",".intercalate (before ++ n.repr :: after) := by
  refine ⟨?_, ?_⟩
  · intro source root other h hobject
    exact Template.render_congr fun path hpath => h.map_text_resolve? (hobject path hpath)
  · intro a n hlt hvalue
    have hdisplay : (Json.num a).display = n.repr := by
      rw [Json.display, Number.display_eq_repr hlt hvalue]
    refine ⟨hdisplay, ?_⟩
    intro items hwithin
    obtain ⟨before, after, hleaves⟩ := hwithin.leaves_eq
    have hleaf : (Json.num a).leaves = [n.repr] := by simp [Json.leaves, hdisplay]
    rw [hleaf, List.append_assoc, List.singleton_append] at hleaves
    exact ⟨before, after, hleaves, by rw [Json.display_arr, hleaves]⟩

theorem evaluate_eq_of_alike_three_and_zero :
    let three : Double := ⟨false, 0x18000000000000, -51, by decide, by decide, by decide, by decide⟩
    let root : Json := .obj [("a", .arr [.num (.int 3), .arr [.num (.double (.zero true))]]), ("o", .obj [])]
    let other : Json := .obj [("a", .arr [.num (.double three), .arr [.num (.int 0)]]), ("o", .obj [])]
    root.Alike other ∧
    (∀ path ∈ (Template.parse "<\x7ba\x7d>").references, ∀ value, resolve? root path = some (.json value) →
      ¬ value.HoldsObject) ∧
    evaluate "<\x7ba\x7d>" root = evaluate "<\x7ba\x7d>" other ∧ evaluate "<\x7ba\x7d>" other = "<3,0>" ∧
    |(3 : Int)| < 10 ^ 15 ∧ (Number.double three).value = (3 : Int) ∧ (Json.num (.double three)).display = "3" ∧
    (Json.num (.double three)).Within (.arr [.null, .arr [.num (.double three)]]) ∧
    ∃ before after,
      (Json.arr [.null, .arr [.num (.double three)]]).display = ",".intercalate (before ++ "3" :: after) := by
  intro three root other
  have hthree : three.value = (3 : Int) := Double.toInt?_eq_some_iff.mp (by decide)
  have hzero : (Double.zero true).value = (0 : Int) := Double.toInt?_eq_some_iff.mp (by decide)
  have halike : root.Alike other := by
    have hempty : (Json.obj []).Alike (.obj []) := .obj rfl .nil
    refine .obj rfl (.cons (.arr (.cons (.num ?_) (.cons (.arr (.cons (.num ?_) .nil)) .nil))) (.cons hempty .nil))
    · exact .inr ⟨3, by decide, rfl, hthree⟩
    · exact .inr ⟨0, by decide, hzero, rfl⟩
  have hparse : Template.parse "<\x7ba\x7d>" = ⟨[.text "<", .reference ["a"], .text ">"]⟩ := by
    decide +kernel
  have hobject : ∀ path ∈ (Template.parse "<\x7ba\x7d>").references, ∀ value,
      resolve? root path = some (.json value) → ¬ value.HoldsObject := by
    rw [hparse]
    intro path hpath value hvalue
    obtain rfl : path = ["a"] := List.mem_singleton.mp hpath
    cases hvalue
    rintro ⟨members, hwithin⟩
    cases hwithin with
    | item hmem hwithin =>
      rcases List.mem_pair.mp hmem with rfl | rfl
      · cases hwithin
      · cases hwithin with
        | item hmem hwithin =>
          obtain rfl := List.mem_singleton.mp hmem
          cases hwithin
  have hwithin : (Json.num (.double three)).Within (.arr [.null, .arr [.num (.double three)]]) :=
    .item (List.mem_cons_of_mem _ List.mem_cons_self) (.item List.mem_cons_self .here)
  obtain ⟨hevaluate, hnumber⟩ := evaluate_eq_of_alike
  obtain ⟨hdisplay, hleaf⟩ := hnumber (.double three) 3 (by decide) hthree
  obtain ⟨before, after, -, htext⟩ := hleaf _ hwithin
  refine ⟨halike, hobject, hevaluate _ root other halike hobject, ?_, by decide, hthree, hdisplay, hwithin, before,
    after, htext⟩
  rw [evaluate, hparse]
  decide

end Stencil
