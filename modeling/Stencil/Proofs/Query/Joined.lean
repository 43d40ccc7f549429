import Stencil.Proofs.Query.Grouped
import Stencil.Proofs.Text.Offset

/-!
# Query strings side by side

Two query strings with `&` between them have the pairs of both (`pairs_ampersand`). Their object can be told from the
two objects alone: how a name's values are stored says what they are (`listed_of_grouped?`), so the values that a name
has in the second object are added behind those that it has in the first (`members_append`).
-/

namespace Stencil.Query

/-- The values that are stored together. -/
def listed : Json → List Json
  | .arr values => values
  | single => [single]

/-- What a name has in two objects together. -/
def joinValue : Option Json → Json → Json
  | none, value => value
  | some before, value => .arr (listed before ++ listed value)

/-- The members of two objects together, those of the second behind those of the first. -/
def joinMembers (found other : Members Json) : Members Json :=
  other.foldl (fun joined member => joined.alter member.1 fun before => joinValue before member.2) found

/-- Nothing but `&`. -/
def ampersands (n : Nat) : String :=
  String.ofList (List.replicate n '&')

/-! ## Values of a name in two objects -/

/-- What is stored tells its values, since a string is never stored as an array. -/
theorem listed_of_grouped? {values : List String} {value : Json} (h : grouped? values = some value) :
    listed value = values.map .str := by
  match values with
  | [] => cases h
  | [first] =>
    cases h
    rfl
  | first :: second :: more =>
    cases h
    rfl

theorem grouped?_append_eq_joinValue (values : List String) {others : List String} {value : Json}
    (h : grouped? others = some value) :
    grouped? (values ++ others) = some (joinValue (grouped? values) value) := by
  have hothers : others ≠ [] := by
    rintro rfl
    cases h
  cases hvalues : grouped? values with
  | none =>
    rw [grouped?_eq_none_iff.mp hvalues, List.nil_append, h]
    rfl
  | some before =>
    have hbefore : values ≠ [] := by
      rintro rfl
      cases hvalues
    rw [joinValue, listed_of_grouped? hvalues, listed_of_grouped? h, ← List.map_append]
    match values, others with
    | [], _ => exact absurd rfl hbefore
    | _, [] => exact absurd rfl hothers
    | [first], second :: more => rfl
    | first :: second :: more, third :: rest => rfl

theorem valuesOf_append (name : String) (pairs others : List (String × String)) :
    valuesOf name (pairs ++ others) = valuesOf name pairs ++ valuesOf name others := by
  rw [valuesOf, List.filter_append, List.map_append, valuesOf, valuesOf]

/-! ## Two objects -/

variable {found other : Members Json}

theorem sorted_joinMembers (h : found.Sorted) : (joinMembers found other).Sorted :=
  h.foldl_alter Prod.fst (fun member before => joinValue before member.2) other

/-- The names of the second object differ from each other, so each is joined once with what the first has. -/
theorem get?_joinMembers (h : found.Sorted) (hother : other.Sorted) (name : String) :
    (joinMembers found other).get? name =
      match other.get? name with
      | none => found.get? name
      | some value => some (joinValue (found.get? name) value) := by
  induction other generalizing found with
  | nil => rfl
  | cons member rest ih =>
    obtain ⟨key, value⟩ := member
    have hrest : Members.Sorted rest := (List.pairwise_cons.mp hother).2
    have hcons : joinMembers found ((key, value) :: rest) =
        joinMembers (found.alter key fun before => joinValue before value) rest := rfl
    rw [hcons, ih h.alter hrest, Members.get?_alter h, Members.get?_cons]
    by_cases hname : name = key
    · subst hname
      rw [hother.get?_eq_none, if_pos rfl, if_pos rfl]
    · rw [if_neg hname, if_neg hname]

theorem members_append (pairs others : List (String × String)) :
    members (pairs ++ others) = joinMembers (members pairs) (members others) := by
  have hpairs := sorted_members pairs
  refine (sorted_members _).ext (sorted_joinMembers hpairs) ?_
  intro name
  rw [get?_joinMembers hpairs (sorted_members others), get?_members, get?_members, get?_members, valuesOf_append]
  cases hothers : grouped? (valuesOf name others) with
  | none => rw [grouped?_eq_none_iff.mp hothers, List.append_nil]
  | some value => rw [grouped?_append_eq_joinValue _ hothers]

theorem mem_names_joinMembers_iff (h : found.Sorted) (hother : other.Sorted) {name : String} :
    name ∈ (joinMembers found other).map Prod.fst ↔ name ∈ found.map Prod.fst ∨ name ∈ other.map Prod.fst := by
  rw [← not_iff_not, not_or, ← Members.get?_eq_none_iff, ← Members.get?_eq_none_iff, ← Members.get?_eq_none_iff,
    get?_joinMembers h hother]
  cases other.get? name with
  | none => simp
  | some value => simp

theorem joinMembers_comm (h : found.Sorted) (hother : other.Sorted)
    (hnames : ∀ name ∈ found.map Prod.fst, name ∉ other.map Prod.fst) :
    joinMembers other found = joinMembers found other := by
  refine (sorted_joinMembers hother).ext (sorted_joinMembers h) ?_
  intro name
  rw [get?_joinMembers hother h, get?_joinMembers h hother]
  by_cases hname : name ∈ found.map Prod.fst
  · rw [Members.get?_eq_none_iff.mpr (hnames name hname)]
    cases found.get? name <;> rfl
  · rw [Members.get?_eq_none_iff.mpr hname]
    cases other.get? name <;> rfl

/-! ## Two query strings -/

theorem pairs_empty : pairs "" = [] := rfl

theorem pairs_ampersand (a b : String) : pairs (a ++ "&" ++ b) = pairs a ++ pairs b := by
  have hencode : Text.encode (a ++ "&" ++ b) = Text.encode a ++ '&'.toUInt8 :: Text.encode b := by
    show Text.bytesOf (a ++ "&" ++ b).toList = Text.bytesOf a.toList ++ '&'.toUInt8 :: Text.bytesOf b.toList
    rw [String.toList_append, String.toList_append, Text.bytesOf_append, Text.bytesOf_append, List.append_assoc]
    rfl
  unfold pairs
  rw [hencode, List.splitOn_append_cons_of_beq _ _ (beq_self_eq_true _), List.filter_append, List.map_append]

theorem ampersands_succ (n : Nat) : ampersands (n + 1) = "&" ++ ampersands n := by
  apply String.ext
  simp [ampersands, List.replicate_succ]

theorem pairs_ampersands_append (n : Nat) (b : String) : pairs (ampersands n ++ b) = pairs b := by
  induction n with
  | zero => exact congrArg pairs String.empty_append
  | succ n ih =>
    have hfirst := pairs_ampersand "" (ampersands n ++ b)
    rwa [String.empty_append, pairs_empty, List.nil_append, ih, ← String.append_assoc, ← ampersands_succ] at hfirst

theorem pairs_append_ampersands (a : String) (n : Nat) : pairs (a ++ ampersands n) = pairs a := by
  cases n with
  | zero => exact congrArg pairs String.append_empty
  | succ n =>
    have hrest := pairs_ampersands_append n ""
    rw [String.append_empty, pairs_empty] at hrest
    rw [ampersands_succ, ← String.append_assoc, pairs_ampersand, hrest, List.append_nil]

/-- The object of two query strings with `&` between them is made of their two objects. It has the names of both. A name
of one of them has the same value as there, and a name of both the values of the first and then those of the second. If
they share no name, the order does not matter, and it never matters how many `&` stand between them or around them. -/
theorem values_ampersand (a b : String) :
    ∃ found other joined : Members Json, values a = .obj found ∧ values b = .obj other ∧
      values (a ++ "&" ++ b) = .obj joined ∧ joined = joinMembers found other ∧ joined.Sorted ∧
      (∀ name, name ∈ joined.map Prod.fst ↔ name ∈ found.map Prod.fst ∨ name ∈ other.map Prod.fst) ∧
      (∀ name, name ∉ other.map Prod.fst → joined.get? name = found.get? name) ∧
      (∀ name, name ∉ found.map Prod.fst → joined.get? name = other.get? name) ∧
      (∀ name value value', found.get? name = some value → other.get? name = some value' →
        joined.get? name = some (.arr (listed value ++ listed value'))) ∧
      ((∀ name ∈ found.map Prod.fst, name ∉ other.map Prod.fst) →
        values (a ++ "&" ++ b) = values (b ++ "&" ++ a)) ∧
      (∀ n, values (a ++ ampersands (n + 1) ++ b) = values (a ++ "&" ++ b)) ∧
      ∀ m n, values (ampersands m ++ a ++ ampersands n) = values a := by
  have hfound := sorted_members (pairs a)
  have hother := sorted_members (pairs b)
  have hjoined (a b : String) :
      values (a ++ "&" ++ b) = .obj (joinMembers (members (pairs a)) (members (pairs b))) := by
    rw [values, pairs_ampersand, members_append]
  refine ⟨members (pairs a), members (pairs b), _, rfl, rfl, hjoined a b, rfl, sorted_joinMembers hfound,
    fun name => mem_names_joinMembers_iff hfound hother, ?_, ?_, ?_, ?_, ?_, ?_⟩
  · intro name hname
    rw [get?_joinMembers hfound hother, Members.get?_eq_none_iff.mpr hname]
  · intro name hname
    rw [get?_joinMembers hfound hother, Members.get?_eq_none_iff.mpr hname]
    cases (members (pairs b)).get? name <;> rfl
  · intro name value value' hvalue hvalue'
    rw [get?_joinMembers hfound hother, hvalue, hvalue']
    rfl
  · intro hnames
    rw [hjoined, hjoined, joinMembers_comm hfound hother hnames]
  · intro n
    rw [values, values, ampersands_succ, ← String.append_assoc, String.append_assoc, pairs_ampersand, pairs_ampersand,
      pairs_ampersands_append]
  · intro m n
    rw [values, values, pairs_append_ampersands, pairs_ampersands_append]

theorem values_ampersand_shared_name :
    ∃ found other joined : Members Json, values "a=1&b=2" = .obj found ∧ values "&%62=3&b=4&&c" = .obj other ∧
      values "a=1&b=2&&%62=3&b=4&&c" = .obj joined ∧
      (found.get? "b" = some (.str "2") ∧ other.get? "b" = some (.arr [.str "3", .str "4"])) ∧
      joined.get? "b" = some (.arr [.str "2", .str "3", .str "4"]) ∧
      ("a" ∉ other.map Prod.fst ∧ joined.get? "a" = some (.str "1")) ∧
      ("c" ∉ found.map Prod.fst ∧ joined.get? "c" = some (.str "")) ∧
      values "x&y" = values "y&x" := by
  obtain ⟨found, other, joined, hfound, hother, hjoined, -, -, -, hfirst, hsecond, hboth, -⟩ :=
    values_ampersand "a=1&b=2" "&%62=3&b=4&&c"
  have hmembers : members (pairs "a=1&b=2") = [("a", .str "1"), ("b", .str "2")] := by rfl
  have hothers : members (pairs "&%62=3&b=4&&c") = [("b", .arr [.str "3", .str "4"]), ("c", .str "")] := by rfl
  obtain rfl : found = [("a", .str "1"), ("b", .str "2")] := by
    rw [values, hmembers] at hfound
    exact (Json.obj.inj hfound).symm
  obtain rfl : other = [("b", .arr [.str "3", .str "4"]), ("c", .str "")] := by
    rw [values, hothers] at hother
    exact (Json.obj.inj hother).symm
  obtain ⟨single, another, -, hsingle, hanother, -, -, -, -, -, -, -, hcomm, -⟩ := values_ampersand "x" "y"
  obtain rfl : [("x", .str "")] = single := Json.obj.inj hsingle
  obtain rfl : [("y", .str "")] = another := Json.obj.inj hanother
  have ha : "a" ∉ [("b", Json.arr [.str "3", .str "4"]), ("c", .str "")].map Prod.fst := by decide
  have hc : "c" ∉ [("a", Json.str "1"), ("b", .str "2")].map Prod.fst := by decide
  exact ⟨_, _, joined, hfound, hother, hjoined, ⟨rfl, rfl⟩, hboth "b" _ _ rfl rfl, ⟨ha, hfirst "a" ha⟩,
    ⟨hc, hsecond "c" hc⟩, hcomm (by decide)⟩

end Stencil.Query
