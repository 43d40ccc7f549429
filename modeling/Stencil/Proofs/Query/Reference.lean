import Stencil.Proofs.Query.Grouped
import Stencil.Proofs.Template.Placeholder

/-!
# References to query values

The object of a query string is flat, but a name with several values has an array, and its items have keys. So a path
with one key stands for all values of a name, and one with two keys for a single value of a name that has several
(`Picks`). No other path leads anywhere, not even if its keys with dots between them are a name of the query string.
-/

namespace Stencil.Query

/-- A key picks one of several values by its index in decimal digits. -/
def Picks (values : List String) (key value : String) : Prop :=
  2 ≤ values.length ∧ ∃ i : UInt64, key = i.toNat.repr ∧ values[i.toNat]? = some value

/-! ## Values that are stored together -/

theorem displayItems_map_str (values : List String) : Json.displayItems (values.map .str) = values := by
  rw [Json.displayItems_eq_map, List.map_map]
  simp [Function.comp_def, Json.isNull, Json.display]

/-- However many values there are, together they have the text of all of them with commas between them. -/
theorem display_grouped? (values : List String) :
    ((grouped? values).map Json.display).getD "" = ",".intercalate values := by
  match values with
  | [] => rfl
  | [value] => rw [grouped?, Option.map_some, Option.getD_some, Json.display, String.intercalate_singleton]
  | first :: second :: more =>
    have hgrouped : grouped? (first :: second :: more) = some (.arr ((first :: second :: more).map .str)) := rfl
    rw [hgrouped, Option.map_some, Option.getD_some, Json.display, displayItems_map_str]

theorem child_grouped?_iff {values : List String} {key : String} {target : Json} :
    (∃ child, grouped? values = some child ∧ child.Child key target) ↔
      ∃ value, target = .str value ∧ Picks values key value := by
  match values with
  | [] =>
    simp [grouped?, Picks]
  | [value] =>
    constructor
    · rintro ⟨child, hchild, hkey⟩
      obtain rfl := Option.some.inj hchild
      cases hkey
    · rintro ⟨value, -, hlength, -⟩
      exact absurd hlength (by simp)
  | first :: second :: more =>
    have hgrouped : grouped? (first :: second :: more) = some (.arr ((first :: second :: more).map .str)) := rfl
    simp only [hgrouped, Option.some.injEq, exists_eq_left', Json.child_arr_iff, List.getElem?_map,
      Option.map_eq_some_iff, Picks]
    constructor
    · rintro ⟨i, hkey, value, hvalue, rfl⟩
      exact ⟨value, rfl, by simp, i, hkey, hvalue⟩
    · rintro ⟨value, rfl, -, i, hkey, hvalue⟩
      exact ⟨i, hkey, value, hvalue, rfl⟩

/-! ## Paths -/

variable {query name : String}

theorem leadsTo_values_cons_iff {path : List String} {target : Json} :
    (values query).LeadsTo (name :: path) target ↔
      ∃ child, grouped? (valuesOf name (pairs query)) = some child ∧ child.LeadsTo path target := by
  simp only [values, Json.leadsTo_cons_iff, Json.child_obj_iff, get?_members]

theorem render_values_singleton :
    (Node.reference [name]).render (values query) = ",".intercalate (valuesOf name (pairs query)) := by
  have hresolve (object : Members Json) : resolve? (Json.obj object) [name] = (object.get? name).map .json :=
    Option.bind_fun_some _
  rw [Node.render, values, hresolve, get?_members, Option.map_map, ← display_grouped?]
  rfl

theorem resolve?_values_pair_iff {key : String} {found : Found} :
    resolve? (values query) [name, key] = some found ↔
      ∃ value, found = .json (.str value) ∧ Picks (valuesOf name (pairs query)) key value := by
  have hpair (target : Json) : (values query).LeadsTo [name, key] target ↔
      ∃ value, target = .str value ∧ Picks (valuesOf name (pairs query)) key value := by
    rw [leadsTo_values_cons_iff]
    simp only [Json.leadsTo_cons_iff, Json.leadsTo_nil_iff, exists_eq_right', child_grouped?_iff]
  simp only [resolve?_eq_some_iff (List.cons_ne_nil name [key]), hpair]
  constructor
  · rintro ⟨-, rfl, value, rfl, hpicks⟩
    exact ⟨value, rfl, hpicks⟩
  · rintro ⟨value, rfl, hpicks⟩
    exact ⟨.str value, rfl, value, rfl, hpicks⟩

/-- A value of a query string has no children, so no path has more than two keys. -/
theorem resolve?_values_of_three (first second third : String) (more : List String) :
    resolve? (values query) (first :: second :: third :: more) = none := by
  rw [Option.eq_none_iff_forall_ne_some]
  intro found hfound
  obtain ⟨target, -, hpath⟩ := (resolve?_eq_some_iff (List.cons_ne_nil _ _)).mp hfound
  obtain ⟨child, hchild, hrest⟩ := leadsTo_values_cons_iff.mp hpath
  obtain ⟨single, hsingle, hmore⟩ := Json.leadsTo_cons_iff.mp hrest
  obtain ⟨value, rfl, -⟩ := child_grouped?_iff.mp ⟨child, hchild, hsingle⟩
  obtain ⟨_, hnone, -⟩ := Json.leadsTo_cons_iff.mp hmore
  cases hnone

/-! ## How many values there are -/

theorem length_filter_splitOn_le (sep : UInt8) (bytes : List UInt8) :
    ((bytes.splitOn sep).filter (· ≠ [])).length ≤ bytes.length := by
  induction bytes with
  | nil => simp
  | cons b bytes ih =>
    rw [List.splitOn_cons_eq_if_modifyHead]
    split
    · rw [List.filter_cons_of_neg (by simp), List.length_cons]
      omega
    · obtain ⟨first, more, hsplit⟩ := List.exists_cons_of_ne_nil (List.splitOn_ne_nil sep bytes)
      rw [hsplit] at ih ⊢
      rw [List.modifyHead_cons, List.filter_cons_of_pos (by simp), List.length_cons, List.length_cons]
      have hmore : (more.filter (· ≠ [])).length ≤ ((first :: more).filter (· ≠ [])).length :=
        ((List.sublist_cons_self first more).filter _).length_le
      omega

/-- A query string has no more values than bytes. -/
theorem length_valuesOf_le (name query : String) :
    (valuesOf name (pairs query)).length ≤ query.utf8ByteSize := by
  have hpieces : (pairs query).length ≤ (Text.encode query).length := by
    rw [pairs, List.length_map]
    exact length_filter_splitOn_le '&'.toUInt8 (Text.encode query)
  have hbytes : (Text.encode query).length = query.utf8ByteSize := (Text.utf8ByteSize_eq query).symm
  have hvalues : (valuesOf name (pairs query)).length ≤ (pairs query).length := by
    rw [valuesOf, List.length_map]
    exact List.length_filter_le _ _
  omega

/-- The indices of all values are numbers of 64 bits, unless the query string is longer than those can count. -/
theorem picks_of_getElem? {i : Nat} {value : String} (hquery : query.utf8ByteSize ≤ UInt64.size)
    (hlength : 2 ≤ (valuesOf name (pairs query)).length) (h : (valuesOf name (pairs query))[i]? = some value) :
    Picks (valuesOf name (pairs query)) i.repr value := by
  have hvalues := length_valuesOf_le name query
  obtain ⟨hi, -⟩ := List.getElem?_eq_some_iff.mp h
  have hi : i < UInt64.size := by omega
  have hindex : (UInt64.ofNatLT i hi).toNat = i := UInt64.toNat_ofNatLT
  refine ⟨hlength, UInt64.ofNatLT i hi, ?_, ?_⟩
  · rw [hindex]
  · rw [hindex, h]

/-! ## What a reference stands for -/

theorem resolve?_values_eq_none {path : List String} (hone : path.length ≠ 1)
    (htwo : ∀ name key value, path = [name, key] → ¬ Picks (valuesOf name (pairs query)) key value) :
    resolve? (values query) path = none := by
  match path with
  | [] => rfl
  | [name] => exact absurd rfl hone
  | [name, key] =>
    rw [Option.eq_none_iff_forall_ne_some]
    intro found hfound
    obtain ⟨value, -, hpicks⟩ := resolve?_values_pair_iff.mp hfound
    exact htwo name key value rfl hpicks
  | first :: second :: third :: more => exact resolve?_values_of_three first second third more

/-- What references stand for against a query string. One key stands for all values of a name. Two keys stand for one
value, if the name has several and the second key picks one of them, and a query string of a size that 64 bits can count
has no value that cannot be picked. All other paths lead nowhere. Evaluating a text puts these in the places of its
placeholders. -/
theorem render_reference_values (query : String) :
    (∀ name, (Node.reference [name]).render (values query) = ",".intercalate (valuesOf name (pairs query))) ∧
    (∀ name key found, resolve? (values query) [name, key] = some found ↔
      ∃ value, found = .json (.str value) ∧ Picks (valuesOf name (pairs query)) key value) ∧
    (∀ name key value, Picks (valuesOf name (pairs query)) key value →
      (Node.reference [name, key]).render (values query) = value) ∧
    (query.utf8ByteSize ≤ UInt64.size → ∀ (name : String) (i : Nat) (value : String),
      2 ≤ (valuesOf name (pairs query)).length → (valuesOf name (pairs query))[i]? = some value →
      Picks (valuesOf name (pairs query)) i.repr value) ∧
    (∀ path : List String, path.length ≠ 1 →
      (∀ name key value, path = [name, key] → ¬ Picks (valuesOf name (pairs query)) key value) →
      resolve? (values query) path = none ∧ (Node.reference path).render (values query) = "") ∧
    (∀ source, Template.replacePlaceholders (fun path => (Node.reference path).source) source = source ∧
      evaluate source (values query) =
        Template.replacePlaceholders (fun path => (Node.reference path).render (values query)) source) := by
  refine ⟨fun name => render_values_singleton, fun name key found => resolve?_values_pair_iff, ?_,
    fun hquery name i value => picks_of_getElem? hquery, ?_, ?_⟩
  · intro name key value hpicks
    have hresolve : resolve? (values query) [name, key] = some (.json (.str value)) :=
      resolve?_values_pair_iff.mpr ⟨value, rfl, hpicks⟩
    rw [Node.render, hresolve, Option.map_some, Option.getD_some, Found.text, Json.display]
  · intro path hone htwo
    have hresolve : resolve? (values query) path = none := resolve?_values_eq_none hone htwo
    refine ⟨hresolve, ?_⟩
    rw [Node.render, hresolve]
    rfl
  · intro source
    exact ⟨Template.replacePlaceholders_source source, Template.evaluate_eq_replacePlaceholders source _⟩

theorem render_reference_values_two_of_a_name :
    Picks ["1", "4"] "1" "4" ∧ (∀ value, ¬ Picks ["1", "4"] "b" value) ∧
    evaluate "\x7ba\x7d|\x7ba.1\x7d|\x7ba.b\x7d|\x7bb.0\x7d" (values "a=1&b=2&a.b=3&%61=4") = "1,4|4||" := by
  have hpairs : pairs "a=1&b=2&a.b=3&%61=4" = [("a", "1"), ("b", "2"), ("a.b", "3"), ("a", "4")] := by decide
  have hchunks : Template.readChunks "\x7ba\x7d|\x7ba.1\x7d|\x7ba.b\x7d|\x7bb.0\x7d".toList =
      [.text "", .reference ["a"], .text "|", .reference ["a", "1"], .text "|", .reference ["a", "b"], .text "|",
        .reference ["b", "0"]] := by decide
  have hpicks : Picks ["1", "4"] "1" "4" := ⟨by decide, 1, by decide, by decide⟩
  have hnone : ∀ value, ¬ Picks ["1", "4"] "b" value := by
    rintro value ⟨-, i, hkey, -⟩
    have hindex : index? "b" = some i.toNat := index?_eq_some_iff.mpr ⟨i.toNat_lt, hkey⟩
    exact absurd hindex (by rw [show index? "b" = none from by decide]; simp)
  obtain ⟨hall, -, hone, -, hnowhere, hsource⟩ := render_reference_values "a=1&b=2&a.b=3&%61=4"
  rw [hpairs] at hall hone hnowhere
  have hpicked := hone "a" "1" "4" hpicks
  have hdotted := (hnowhere ["a", "b"] (by decide) (by
    rintro _ _ value ⟨⟩
    exact hnone value)).2
  have hsingle := (hnowhere ["b", "0"] (by decide) (by
    rintro _ _ value ⟨⟩ ⟨hlength, -⟩
    exact absurd hlength (by decide))).2
  refine ⟨hpicks, hnone, ?_⟩
  rw [(hsource _).2, Template.replacePlaceholders, hchunks]
  simp only [List.map_cons, List.map_nil, Node.fill, hall, hpicked, hdotted, hsingle]
  decide

end Stencil.Query
