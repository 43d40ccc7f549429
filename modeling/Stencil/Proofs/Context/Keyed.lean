import Stencil.Proofs.Context.Index
import Mathlib.Data.List.Induction
import Std.Data.String.ToNat

/-!
# Arrays as objects

To a lookup, an array is an object whose names are the indices in decimal digits (`Json.byIndex`). So what can be said
about the keys of arrays is known from objects: there is one name for each item, and no others.
-/

namespace Stencil

namespace Members

variable {α : Type}

theorem ofList_append_singleton (named : List (String × α)) (member : String × α) :
    ofList (named ++ [member]) = (ofList named).insert member.1 member.2 := by
  rw [ofList, ofList, List.foldl_append, List.foldl_cons, List.foldl_nil]

theorem get?_ofList_append_singleton (named : List (String × α)) (member : String × α) (key : String) :
    (ofList (named ++ [member])).get? key = if key = member.1 then some member.2 else (ofList named).get? key := by
  rw [ofList_append_singleton, insert, get?_alter (sorted_ofList named)]

end Members

/-- The object that has the items of an array under their indices in decimal digits. -/
def Json.byIndex (items : List Json) : Json :=
  .obj (Members.ofList (items.mapIdx fun i item => (i.repr, item)))

/-! ## Lookups -/

/-- The names are the indices in decimal digits. An item that is added behind the others takes none of their names, so
the induction is from behind. -/
theorem get?_ofList_mapIdx_eq_some_iff {items : List Json} {key : String} {value : Json} :
    (Members.ofList (items.mapIdx fun i item => (i.repr, item))).get? key = some value ↔
      ∃ i : Nat, key = i.repr ∧ items[i]? = some value := by
  induction items using List.reverseRecOn with
  | nil => simp [Members.ofList, Members.get?_nil]
  | append_singleton items item ih =>
    rw [List.mapIdx_concat, Members.get?_ofList_append_singleton]
    by_cases hkey : key = items.length.repr
    · rw [if_pos hkey]
      subst hkey
      constructor
      · intro hvalue
        exact ⟨items.length, rfl, by rw [List.getElem?_concat_length, hvalue]⟩
      · rintro ⟨i, hi, hvalue⟩
        rw [← Nat.repr_injective hi, List.getElem?_concat_length] at hvalue
        exact hvalue
    · rw [if_neg hkey, ih]
      have hne {i : Nat} (hi : key = i.repr) : i ≠ items.length := by
        rintro rfl
        exact hkey hi
      constructor
      · rintro ⟨i, hi, hvalue⟩
        have hlt : i < items.length := (List.getElem?_eq_some_iff.mp hvalue).1
        exact ⟨i, hi, by rw [List.getElem?_append_left hlt, hvalue]⟩
      · rintro ⟨i, hi, hvalue⟩
        have hlt : i < (items ++ [item]).length := (List.getElem?_eq_some_iff.mp hvalue).1
        have hlast := hne hi
        rw [List.length_append, List.length_singleton] at hlt
        rw [List.getElem?_append_left (by omega)] at hvalue
        exact ⟨i, hi, hvalue⟩

namespace Found

variable {items : List Json} {key : String}

theorem get?_byIndex_eq_some_iff {found : Found} :
    (json (.byIndex items)).get? key = some found ↔ ∃ i : Nat, key = i.repr ∧ items[i]?.map json = some found := by
  rw [Json.byIndex, get?, Option.map_eq_some_iff]
  simp only [get?_ofList_mapIdx_eq_some_iff, Option.map_eq_some_iff]
  constructor
  · rintro ⟨value, ⟨i, hi, hvalue⟩, hfound⟩
    exact ⟨i, hi, value, hvalue, hfound⟩
  · rintro ⟨i, hi, value, hvalue, hfound⟩
    exact ⟨value, ⟨i, hi, hvalue⟩, hfound⟩

/-- All indices of the array are numbers of 64 bits, so no key of an item is refused for its size. -/
theorem get?_arr_eq_some_iff (hlength : items.length < UInt64.size) {found : Found} :
    (json (.arr items)).get? key = some found ↔ ∃ i : Nat, key = i.repr ∧ items[i]?.map json = some found := by
  rw [get?, Option.bind_eq_some_iff]
  constructor
  · rintro ⟨i, hi, hfound⟩
    exact ⟨i, (index?_eq_some_iff.mp hi).2, hfound⟩
  · rintro ⟨i, hi, hfound⟩
    obtain ⟨value, hvalue, -⟩ := Option.map_eq_some_iff.mp hfound
    have hlt : i < items.length := (List.getElem?_eq_some_iff.mp hvalue).1
    exact ⟨i, index?_eq_some_iff.mpr ⟨by omega, hi⟩, hfound⟩

theorem get?_arr_repr (hlength : items.length < UInt64.size) (i : Nat) :
    (json (.arr items)).get? i.repr = items[i]?.map json := by
  apply Option.ext
  intro found
  rw [get?_arr_eq_some_iff hlength]
  constructor
  · rintro ⟨j, hj, hfound⟩
    rwa [Nat.repr_injective hj]
  · intro hfound
    exact ⟨i, rfl, hfound⟩

theorem get?_arr_eq_none_iff (hlength : items.length < UInt64.size) :
    (json (.arr items)).get? key = none ↔
      key = "" ∨ (∃ c ∈ key.toList, c.isDigit = false) ∨ (key.toList.head? = some '0' ∧ key ≠ "0") ∨
        ∃ n : Nat, items.length ≤ n ∧ key = n.repr := by
  by_cases hdecimal : ∃ n : Nat, key = n.repr
  · obtain ⟨hne, hdigits, hhead⟩ := exists_eq_repr_iff.mp hdecimal
    obtain ⟨n, rfl⟩ := hdecimal
    rw [get?_arr_repr hlength, Option.map_eq_none_iff, List.getElem?_eq_none_iff]
    constructor
    · intro hle
      exact .inr (.inr (.inr ⟨n, hle, rfl⟩))
    · rintro (hempty | ⟨c, hc, hdigit⟩ | ⟨hzero, hsingle⟩ | ⟨m, hle, hm⟩)
      · exact absurd hempty hne
      · rw [hdigits c hc] at hdigit
        cases hdigit
      · rcases hhead with hhead | hhead
        · exact absurd hhead hsingle
        · exact absurd hzero hhead
      · rwa [Nat.repr_injective hm]
  · have habsent : (json (.arr items)).get? key = none := by
      rw [Option.eq_none_iff_forall_ne_some]
      intro found hfound
      obtain ⟨n, hn, -⟩ := (get?_arr_eq_some_iff hlength).mp hfound
      exact hdecimal ⟨n, hn⟩
    refine iff_of_true habsent ?_
    rw [exists_eq_repr_iff] at hdecimal
    by_cases hne : key = ""
    · exact .inl hne
    · by_cases hdigits : ∀ c ∈ key.toList, c.isDigit = true
      · have hhead : ¬(key = "0" ∨ key.toList.head? ≠ some '0') := fun hhead => hdecimal ⟨hne, hdigits, hhead⟩
        rw [not_or, not_not] at hhead
        exact .inr (.inr (.inl hhead.symm))
      · push Not at hdigits
        obtain ⟨c, hc, hdigit⟩ := hdigits
        exact .inr (.inl ⟨c, hc, eq_false_of_ne_true hdigit⟩)

/-- An array has the same children as the object that has its items under their indices in decimal digits. So an item
has one key and no other, and no key is taken for another: it is absent if it is empty, if a character of it is no digit
from 0 to 9, if a zero stands in front, or if its number is not an index of the array, however large that number is. -/
theorem get?_arr_eq_get?_byIndex (items : List Json) (hlength : items.length < UInt64.size) :
    (∀ key, (json (.arr items)).get? key = (json (.byIndex items)).get? key) ∧
    (∀ (i : Nat) (hi : i < items.length), (json (.arr items)).get? i.repr = some (json items[i]) ∧
      ∀ key, index? key = some i ↔ key = i.repr) ∧
    ∀ key, (json (.arr items)).get? key = none ↔
      key = "" ∨ (∃ c ∈ key.toList, c.isDigit = false) ∨ (key.toList.head? = some '0' ∧ key ≠ "0") ∨
        ∃ n : Nat, items.length ≤ n ∧ key = n.repr := by
  refine ⟨?_, ?_, ?_⟩
  · intro key
    apply Option.ext
    intro found
    rw [get?_arr_eq_some_iff hlength, get?_byIndex_eq_some_iff]
  · intro i hi
    refine ⟨by rw [get?_arr_repr hlength, List.getElem?_eq_getElem hi, Option.map_some], ?_⟩
    intro key
    rw [index?_eq_some_iff]
    exact and_iff_right (by omega)
  · intro key
    exact get?_arr_eq_none_iff hlength

theorem get?_arr_eq_get?_byIndex_two_items :
    [Json.null, Json.str "b"].length < UInt64.size ∧
    (json (.arr [.null, .str "b"])).get? "1" = some (json (.str "b")) ∧
    (json (.byIndex [.null, .str "b"])).get? "1" = some (json (.str "b")) ∧
    (json (.arr [.null, .str "b"])).get? "01" = none ∧
    (json (.arr [.null, .str "b"])).get? "+1" = none ∧
    (json (.arr [.null, .str "b"])).get? "18446744073709551617" = none := by
  obtain ⟨hsame, hitem, habsent⟩ := get?_arr_eq_get?_byIndex [.null, .str "b"] (by decide)
  have hone : (json (.arr [.null, .str "b"])).get? "1" = some (json (.str "b")) := (hitem 1 (by decide)).1
  refine ⟨by decide, hone, by rw [← hsame, hone], ?_, ?_, ?_⟩
  · exact (habsent "01").mpr (.inr (.inr (.inl ⟨rfl, by decide⟩)))
  · exact (habsent "+1").mpr (.inr (.inl ⟨'+', by simp, rfl⟩))
  · exact (habsent "18446744073709551617").mpr (.inr (.inr (.inr ⟨18446744073709551617, by decide, rfl⟩)))

end Found

end Stencil
