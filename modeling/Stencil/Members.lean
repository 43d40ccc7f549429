/-!
# Members

The members of an object: values under names, one value a name, in the order of the names by code point.
The order is kept by every operation, so two collections with the same values under the same names are the
same list and have the same text.
-/

namespace Stencil

/-- Values under names, in the order of the names. -/
abbrev Members (α : Type) := List (String × α)

namespace Members

variable {α : Type}

/-- The value under a name. -/
def get? (name : String) (members : Members α) : Option α :=
  members.lookup name

/-- Puts under `name` what `f` makes of the value that is there now. -/
def alter (name : String) (f : Option α → α) : Members α → Members α
  | [] => [(name, f none)]
  | (other, value) :: rest =>
    if name < other then (name, f none) :: (other, value) :: rest
    else if name = other then (name, f (some value)) :: rest
    else (other, value) :: alter name f rest

/-- Puts a value under a name, in place of what was there. -/
def insert (name : String) (value : α) (members : Members α) : Members α :=
  members.alter name fun _ => value

/-- The members of a list of named values; of several values under one name the last one counts. -/
def ofList (named : List (String × α)) : Members α :=
  named.foldl (fun members (name, value) => members.insert name value) []

/-- The names are in order, and none occurs twice. -/
def Sorted (members : Members α) : Prop :=
  members.Pairwise fun a b => a.1 < b.1

theorem get?_nil (name : String) : get? name ([] : Members α) = none := rfl

theorem get?_cons (name other : String) (value : α) (rest : Members α) :
    get? name ((other, value) :: rest) = if name = other then some value else get? name rest := by
  by_cases h : name = other
  · simp [get?, h]
  · simp [get?, List.lookup_cons, h, beq_eq_false_iff_ne.mpr h]

theorem get?_eq_none_iff {name : String} {members : Members α} :
    members.get? name = none ↔ name ∉ members.map Prod.fst := by
  induction members with
  | nil => simp [get?_nil]
  | cons m rest ih =>
    obtain ⟨other, value⟩ := m
    rw [get?_cons, List.map_cons, List.mem_cons]
    by_cases h : name = other
    · simp [h]
    · simp [h, ih]

theorem get?_mapNamed {β : Type} (f : String → α → β) (members : Members α) (name : String) :
    Members.get? name (members.map fun member => (member.1, f member.1 member.2)) =
      (members.get? name).map (f name) := by
  induction members with
  | nil => rfl
  | cons m rest ih =>
    obtain ⟨other, value⟩ := m
    rw [List.map_cons, get?_cons, get?_cons, ih]
    by_cases h : name = other
    · rw [if_pos h, if_pos h, h, Option.map_some]
    · rw [if_neg h, if_neg h]

theorem get?_map {β : Type} (f : α → β) (members : Members α) (name : String) :
    Members.get? name (members.map fun member => (member.1, f member.2)) = (members.get? name).map f :=
  get?_mapNamed (fun _ => f) members name

/-- A name that comes before all others is absent. -/
theorem get?_eq_none {name : String} {members : Members α} (h : ∀ m ∈ members, name < m.1) :
    members.get? name = none := by
  induction members with
  | nil => rfl
  | cons m rest ih =>
    obtain ⟨other, value⟩ := m
    have hne : name ≠ other := by
      rintro rfl
      exact String.lt_irrefl _ (h _ List.mem_cons_self)
    rw [get?_cons, if_neg hne]
    exact ih fun m hm => h m (List.mem_cons_of_mem _ hm)

/-- Every member after `alter` is under the altered name or was there before. -/
theorem fst_of_mem_alter {name : String} {f : Option α → α} {members : Members α} {m : String × α}
    (h : m ∈ members.alter name f) : m.1 = name ∨ m ∈ members := by
  induction members with
  | nil => exact .inl (by simp_all [alter])
  | cons other rest ih =>
    obtain ⟨other, value⟩ := other
    rw [alter] at h
    split at h
    · rcases List.mem_cons.mp h with rfl | h
      · exact .inl rfl
      · exact .inr h
    · split at h
      · rcases List.mem_cons.mp h with rfl | h
        · exact .inl rfl
        · exact .inr (List.mem_cons_of_mem _ h)
      · rcases List.mem_cons.mp h with rfl | h
        · exact .inr List.mem_cons_self
        · exact (ih h).imp_right (List.mem_cons_of_mem _)

theorem Sorted.alter {name : String} {f : Option α → α} {members : Members α} (h : Sorted members) :
    Sorted (members.alter name f) := by
  induction members with
  | nil => exact List.pairwise_singleton _ _
  | cons other rest ih =>
    obtain ⟨other, value⟩ := other
    obtain ⟨hlt, hrest⟩ := List.pairwise_cons.mp h
    rw [Members.alter]
    split
    · rename_i hname
      refine List.pairwise_cons.mpr ⟨fun m hm => ?_, h⟩
      rcases List.mem_cons.mp hm with rfl | hm
      · exact hname
      · exact String.lt_trans hname (hlt m hm)
    · rename_i hname
      split
      · rename_i heq
        subst heq
        exact List.pairwise_cons.mpr ⟨hlt, hrest⟩
      · rename_i hne
        refine List.pairwise_cons.mpr ⟨fun m hm => ?_, ih hrest⟩
        rcases fst_of_mem_alter hm with h | hm
        · exact h ▸ Std.lt_of_le_of_ne (String.not_lt.mp hname) fun h => hne h.symm
        · exact hlt m hm

/-- Names are kept in order by any number of changes. -/
theorem Sorted.foldl_alter {β : Type} {members : Members α} (h : Sorted members) (name : β → String)
    (f : β → Option α → α) (changes : List β) :
    Sorted (changes.foldl (fun members change => members.alter (name change) (f change)) members) := by
  induction changes generalizing members with
  | nil => exact h
  | cons change changes ih => exact ih h.alter

theorem sorted_ofList (named : List (String × α)) : Sorted (ofList named) :=
  Sorted.foldl_alter List.Pairwise.nil Prod.fst (fun member _ => member.2) named

/-- `alter` changes the value under its name and no other. -/
theorem get?_alter {name : String} {f : Option α → α} {members : Members α} (h : Sorted members)
    (key : String) :
    (members.alter name f).get? key =
      if key = name then some (f (members.get? name)) else members.get? key := by
  induction members with
  | nil => simp [Members.alter, get?_cons, get?_nil]
  | cons other rest ih =>
    obtain ⟨other, value⟩ := other
    obtain ⟨hlt, hrest⟩ := List.pairwise_cons.mp h
    rw [Members.alter]
    split
    · rename_i hname
      have habsent : get? name ((other, value) :: rest) = none := by
        refine get?_eq_none fun m hm => ?_
        rcases List.mem_cons.mp hm with rfl | hm
        · exact hname
        · exact String.lt_trans hname (hlt m hm)
      rw [get?_cons, habsent]
    · split
      · rename_i heq
        subst heq
        by_cases hk : key = name <;> simp [get?_cons, hk]
      · rename_i hne
        rw [get?_cons, ih hrest, get?_cons name, if_neg hne, get?_cons]
        by_cases hk : key = other
        · subst hk
          simp [Ne.symm hne]
        · simp [hk]

/-- The name of a sorted collection's first member comes before every name that is not in it. -/
theorem Sorted.get?_eq_none {name : String} {value : α} {rest : Members α}
    (h : Sorted ((name, value) :: rest)) : rest.get? name = none :=
  Members.get?_eq_none (List.pairwise_cons.mp h).1

/-- Sorted collections with the same values under the same names are the same list. -/
theorem Sorted.ext {members others : Members α} (h : Sorted members) (ho : Sorted others)
    (hget : ∀ name, members.get? name = others.get? name) : members = others := by
  induction members generalizing others with
  | nil =>
    cases others with
    | nil => rfl
    | cons o rest =>
      obtain ⟨name, value⟩ := o
      simpa [get?_nil, get?_cons] using hget name
  | cons m rest ih =>
    obtain ⟨name, value⟩ := m
    cases others with
    | nil => simpa [get?_nil, get?_cons] using hget name
    | cons o rest' =>
      obtain ⟨name', value'⟩ := o
      have hname : name = name' := by
        rcases String.le_total name name' with hle | hle
        · refine Classical.byContradiction fun hne => ?_
          have hlt := Std.lt_of_le_of_ne hle hne
          have habsent : get? name ((name', value') :: rest') = none := by
            refine Members.get?_eq_none fun m hm => ?_
            rcases List.mem_cons.mp hm with rfl | hm
            · exact hlt
            · exact String.lt_trans hlt ((List.pairwise_cons.mp ho).1 m hm)
          simpa [get?_cons, habsent] using hget name
        · refine Classical.byContradiction fun hne => ?_
          have hlt := Std.lt_of_le_of_ne hle (Ne.symm hne)
          have habsent : get? name' ((name, value) :: rest) = none := by
            refine Members.get?_eq_none fun m hm => ?_
            rcases List.mem_cons.mp hm with rfl | hm
            · exact hlt
            · exact String.lt_trans hlt ((List.pairwise_cons.mp h).1 m hm)
          simpa [get?_cons, habsent] using hget name'
      subst hname
      have hvalue : value = value' := by simpa [get?_cons] using hget name
      subst hvalue
      have hrest : ∀ key, get? key rest = get? key rest' := by
        intro key
        by_cases hk : key = name
        · rw [hk, h.get?_eq_none, ho.get?_eq_none]
        · simpa [get?_cons, hk] using hget key
      rw [ih (List.pairwise_cons.mp h).2 (List.pairwise_cons.mp ho).2 hrest]

end Members

end Stencil
