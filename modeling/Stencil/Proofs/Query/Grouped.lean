import Stencil.Query.Values
import Mathlib.Data.List.Induction

/-!
# Names with several values

The object of a query string is built pair by pair, and what a name has changes its shape on the way: nothing, one
string, an array. The invariant is that at each point a name has what its values so far make together (`grouped?`), so
no value is lost, moved or nested.
-/

namespace Stencil.Query

/-- The values that a name has in a list of pairs, in order. -/
def valuesOf (name : String) (pairs : List (String × String)) : List String :=
  (pairs.filter fun pair => pair.1 = name).map Prod.snd

/-- What values are stored as together: one as itself, more of them as an array, and none not at all. -/
def grouped? : List String → Option Json
  | [] => none
  | [value] => some (.str value)
  | values => some (.arr (values.map .str))

/-! ## The values of a name -/

theorem valuesOf_append_singleton (name : String) (pairs : List (String × String)) (pair : String × String) :
    valuesOf name (pairs ++ [pair]) = valuesOf name pairs ++ if pair.1 = name then [pair.2] else [] := by
  unfold valuesOf
  by_cases h : pair.1 = name
  · simp [h]
  · simp [h]

theorem valuesOf_eq_nil_iff {name : String} {pairs : List (String × String)} :
    valuesOf name pairs = [] ↔ name ∉ pairs.map Prod.fst := by
  unfold valuesOf
  rw [List.map_eq_nil_iff, List.filter_eq_nil_iff, List.mem_map]
  constructor
  · rintro h ⟨pair, hpair, rfl⟩
    exact h pair hpair (decide_eq_true rfl)
  · intro h pair hpair hname
    exact h ⟨pair, hpair, of_decide_eq_true hname⟩

theorem grouped?_eq_none_iff {values : List String} : grouped? values = none ↔ values = [] := by
  match values with
  | [] => simp [grouped?]
  | [value] => simp [grouped?]
  | first :: second :: more => simp [grouped?]

theorem two_le_length_of_grouped? {values : List String} {items : List Json} (h : grouped? values = some (.arr items)) :
    2 ≤ items.length := by
  match values with
  | [] => simp [grouped?] at h
  | [value] => simp [grouped?] at h
  | first :: second :: more =>
    simp only [grouped?, Option.some.injEq, Json.arr.injEq] at h
    simp [← h]

/-- One more value is added behind the others, whatever their shape. -/
theorem grouped?_append_singleton (values : List String) (value : String) :
    grouped? (values ++ [value]) = some (addValue value (grouped? values)) := by
  match values with
  | [] => rfl
  | [first] => rfl
  | first :: second :: more => simp [grouped?, addValue]

/-! ## The object -/

theorem members_append_singleton (pairs : List (String × String)) (pair : String × String) :
    members (pairs ++ [pair]) = (members pairs).alter pair.1 (addValue pair.2) := by
  simp [members]

theorem sorted_members (pairs : List (String × String)) : (members pairs).Sorted :=
  Members.Sorted.foldl_alter List.Pairwise.nil Prod.fst (fun pair => addValue pair.2) pairs

/-- A name has what its values make together. The pairs are taken in one by one, so the induction is from behind. -/
theorem get?_members (pairs : List (String × String)) (name : String) :
    (members pairs).get? name = grouped? (valuesOf name pairs) := by
  induction pairs using List.reverseRecOn with
  | nil => rfl
  | append_singleton pairs pair ih =>
    rw [members_append_singleton, Members.get?_alter (sorted_members pairs), valuesOf_append_singleton]
    by_cases h : name = pair.1
    · subst h
      rw [if_pos rfl, if_pos rfl, ih, grouped?_append_singleton]
    · have hne : pair.1 ≠ name := fun heq => h heq.symm
      rw [if_neg h, if_neg hne, List.append_nil, ih]

theorem mem_names_members_iff {pairs : List (String × String)} {name : String} :
    name ∈ (members pairs).map Prod.fst ↔ name ∈ pairs.map Prod.fst := by
  have habsent : (members pairs).get? name = none ↔ name ∉ pairs.map Prod.fst := by
    rw [get?_members, grouped?_eq_none_iff, valuesOf_eq_nil_iff]
  rw [Members.get?_eq_none_iff] at habsent
  exact not_iff_not.mp habsent

/-- The object of a query string has exactly the names of its pairs, each once, and each with its values in order: a
single one as a string, several as an array. No array has fewer than two items. -/
theorem values_eq_grouped (query : String) :
    ∃ found : Members Json, values query = .obj found ∧ found.Sorted ∧
      (∀ name, name ∈ found.map Prod.fst ↔ name ∈ (pairs query).map Prod.fst) ∧
      (∀ name, found.get? name = grouped? (valuesOf name (pairs query))) ∧
      (∀ name items, found.get? name = some (.arr items) → 2 ≤ items.length) := by
  refine ⟨members (pairs query), rfl, sorted_members _, ?_, ?_, ?_⟩
  · intro name
    exact mem_names_members_iff
  · intro name
    exact get?_members (pairs query) name
  · intro name items h
    rw [get?_members] at h
    exact two_le_length_of_grouped? h

theorem values_eq_grouped_two_spellings :
    ∃ found : Members Json, values "a=1&b&%61=+2" = .obj found ∧ found.get? "a" = some (.arr [.str "1", .str " 2"]) ∧
      found.get? "b" = some (.str "") ∧ found.get? "%61" = none := by
  obtain ⟨found, hfound, -, -, hget, -⟩ := values_eq_grouped "a=1&b&%61=+2"
  have hpairs : pairs "a=1&b&%61=+2" = [("a", "1"), ("b", ""), ("a", " 2")] := by decide
  rw [hpairs] at hget
  refine ⟨found, hfound, ?_, ?_, ?_⟩
  · rw [hget]
    rfl
  · rw [hget]
    rfl
  · rw [hget]
    rfl
end Stencil.Query
