import Stencil.Proofs.Template.Placeholder

/-!
# Static templates

What stands in the places of the references comes on top of the literals, so a text that is written with something in
these places is the literals alone only if nothing stands there (`join_map_fill_eq_literals_iff`). A source and a
rendering are both written so. In a source every reference leaves at least its braces behind, and a context can be made
for any one path that has a key, so only a template without references is rendered as its source, and only such a one
is rendered alike in all contexts.
-/

namespace Stencil

/-- Objects inside each other, one for each key of the path, around the value. -/
def Json.nested (path : List String) (value : Json) : Json :=
  path.foldr (fun key inner => .obj [(key, inner)]) value

theorem Json.leadsTo_nested (path : List String) (value : Json) : (nested path value).LeadsTo path value := by
  induction path with
  | nil => exact .here value
  | cons key path ih =>
    have hmember : Members.get? key [(key, nested path value)] = some (nested path value) := by
      rw [Members.get?_cons, if_pos rfl]
    exact .step (.member hmember) ih

namespace Template

variable {γ : Type} [Context γ]

/-! ## Literals and what stands between them -/

theorem literals_text (literal : String) (nodes : List Node) :
    (mk (.text literal :: nodes)).literals = literal ++ (mk nodes).literals := by
  unfold literals
  exact String.join_cons

theorem literals_reference (path : List String) (nodes : List Node) :
    (mk (.reference path :: nodes)).literals = (mk nodes).literals := rfl

theorem references_text (literal : String) (nodes : List Node) :
    (mk (.text literal :: nodes)).references = (mk nodes).references := rfl

theorem references_reference (path : List String) (nodes : List Node) :
    (mk (.reference path :: nodes)).references = path :: (mk nodes).references := rfl

section Filling

variable (write : List String → String)

theorem length_literals_le (nodes : List Node) :
    (mk nodes).literals.length ≤ (String.join (nodes.map (Node.fill write))).length := by
  induction nodes with
  | nil => exact Nat.le_refl _
  | cons node rest ih =>
    rw [List.map_cons, String.join_cons, String.length_append]
    cases node with
    | text literal =>
      rw [literals_text, String.length_append]
      exact Nat.add_le_add_left ih _
    | reference path =>
      rw [literals_reference]
      omega

theorem join_map_fill_eq_literals_iff (nodes : List Node) :
    String.join (nodes.map (Node.fill write)) = (mk nodes).literals ↔
      ∀ path ∈ (mk nodes).references, write path = "" := by
  induction nodes with
  | nil => simp [literals, references]
  | cons node rest ih =>
    rw [List.map_cons, String.join_cons]
    cases node with
    | text literal =>
      rw [literals_text, references_text, ← ih]
      exact String.append_right_inj literal
    | reference path =>
      rw [literals_reference, references_reference, List.forall_mem_cons, ← ih]
      show write path ++ _ = _ ↔ _
      constructor
      · intro h
        -- what follows is at least as long as its literals, so nothing is left for this reference
        have hle := length_literals_le write rest
        have hlength := congrArg String.length h
        rw [String.length_append] at hlength
        have hwrite : write path = "" := String.length_eq_zero_iff.mp (by omega)
        rw [hwrite, String.empty_append] at h
        exact ⟨hwrite, h⟩
      · rintro ⟨hwrite, hrest⟩
        rw [hwrite, String.empty_append, hrest]

end Filling

theorem render_eq_literals_iff (t : Template) (context : γ) :
    t.render context = t.literals ↔ ∀ path ∈ t.references, (Node.reference path).render context = "" := by
  rw [render, ← Node.fill_render context]
  exact join_map_fill_eq_literals_iff _ t.nodes

theorem isStatic_iff {t : Template} : t.isStatic = true ↔ t.references = [] :=
  List.isEmpty_iff

theorem source_eq_literals_iff (t : Template) : t.source = t.literals ↔ t.isStatic = true := by
  have hfill := join_map_fill_eq_literals_iff (fun path => (Node.reference path).source) t.nodes
  rw [Node.fill_source] at hfill
  rw [isStatic_iff, List.eq_nil_iff_forall_not_mem]
  refine hfill.trans (forall_congr' fun path => ?_)
  have hbraces : (Node.reference path).source ≠ "" := by
    intro h
    have hlength := congrArg String.length h
    rw [Node.source, String.length_append, String.length_append] at hlength
    have hopen : ("\x7b" : String).length = 1 := rfl
    have hempty : ("" : String).length = 0 := rfl
    omega
  exact imp_congr_right fun _ => iff_false_intro hbraces

theorem render_of_isStatic {t : Template} (h : t.isStatic = true) (context : γ) : t.render context = t.source := by
  rw [(source_eq_literals_iff t).mpr h, render_eq_literals_iff, isStatic_iff.mp h]
  exact fun path hpath => absurd hpath List.not_mem_nil

/-! ## References of a parsed template -/

theorem isCanonical_of_mem_references {s : String} {path : List String} (h : path ∈ (parse s).references) :
    (Node.reference path).IsCanonical := by
  obtain ⟨node, hnode, hpath⟩ := List.mem_filterMap.mp h
  rw [nodes_parse_eq_readChunks] at hnode
  cases node with
  | text literal => cases hpath
  | reference keys =>
    cases hpath
    exact (canonical_readChunks s.toList).isCanonical _ hnode

theorem isStatic_of_nodes_eq_consText {t : Template} {literal : String} (h : t.nodes = consText literal []) :
    t.isStatic = true := by
  rw [isStatic_iff, references, h]
  by_cases hempty : literal = ""
  · rw [hempty, consText_empty, List.filterMap_nil]
  · rw [consText_nil hempty]
    rfl

/-- Without braces of one kind there is no placeholder. -/
theorem isStatic_parse_of_not_mem {s : String} (h : '{' ∉ s.toList ∨ '}' ∉ s.toList) :
    (parse s).isStatic = true := by
  have hnodes : (parse s).nodes = consText s [] := by
    rcases h with hopen | hclose
    · have hread := joinTexts_readChunks_append hopen []
      rw [List.append_nil, readChunks_nil, joinTexts_nil, String.ofList_toList] at hread
      rw [nodes_parse_eq_readChunks, hread]
    · exact nodes_parse_of_not_mem hclose
  exact isStatic_of_nodes_eq_consText hnodes

/-- A reference of a parsed template has a key, so it can be given a text where the null value gives it none. -/
theorem exists_evaluate_ne {s : String} (h : (parse s).isStatic = false) :
    ∃ context other : Json, evaluate s context ≠ evaluate s other := by
  have hreferences : (parse s).references ≠ [] := by
    intro hnil
    rw [isStatic_iff.mpr hnil] at h
    cases h
  obtain ⟨path, hpath⟩ := List.exists_mem_of_ne_nil _ hreferences
  have hne : path ≠ [] := (isCanonical_of_mem_references hpath).1
  have hnull : evaluate s Json.null = (parse s).literals := render_of_get?_eq_none (fun _ => rfl) (parse s)
  refine ⟨Json.nested path (.str "x"), Json.null, ?_⟩
  rw [hnull]
  intro hsame
  have hempty := (render_eq_literals_iff (parse s) _).mp hsame path hpath
  rw [render_reference_of_leadsTo hne (Json.leadsTo_nested path _), Json.display] at hempty
  exact absurd hempty (by decide)

/-- A template is static exactly if it is rendered as its source where nothing has a value, and exactly if it is
rendered alike in all contexts. -/
theorem isStatic_parse_iff (s : String) :
    ((parse s).isStatic = true ↔ (parse s).render () = s) ∧
    ((parse s).isStatic = true ↔ ∀ context other : Json, (parse s).render context = (parse s).render other) ∧
    ('{' ∉ s.toList ∨ '}' ∉ s.toList → ∀ (γ : Type) [Context γ] (context : γ), evaluate s context = s) ∧
    ((parse s).isStatic = false → ∃ context other : Json, evaluate s context ≠ evaluate s other) := by
  have hunit : (parse s).render () = (parse s).literals := render_of_get?_eq_none (fun _ => rfl) (parse s)
  have hsource : (parse s).source = s := source_parse s
  refine ⟨?_, ⟨?_, ?_⟩, ?_, exists_evaluate_ne⟩
  · rw [← source_eq_literals_iff, hsource, hunit]
    exact eq_comm
  · intro hstatic context other
    rw [render_of_isStatic hstatic, render_of_isStatic hstatic]
  · intro hsame
    by_contra hstatic
    obtain ⟨context, other, hne⟩ := exists_evaluate_ne (Bool.eq_false_iff.mpr hstatic)
    exact hne (hsame context other)
  · intro hbrace γ _ context
    show (parse s).render context = s
    rw [render_of_isStatic (isStatic_parse_of_not_mem hbrace), hsource]

theorem isStatic_parse_iff_stray_braces :
    ((parse "x\x7d\x7b\x7ba\x7d").isStatic = true ∧ (parse "x\x7d\x7b\x7ba\x7d").render () = "x\x7d\x7b\x7ba\x7d" ∧
      (parse "x\x7d\x7b\x7ba\x7d").render (Json.obj [("a", .str "1")]) =
        (parse "x\x7d\x7b\x7ba\x7d").render Json.null) ∧
    ('}' ∉ "\x7ba\x7b".toList ∧ evaluate "\x7ba\x7b" (Json.obj [("a", .str "1")]) = "\x7ba\x7b") ∧
    ((parse "\x7b\x7ba\x7d\x7b.\x7d").isStatic = false ∧
      ∃ context other : Json,
        evaluate "\x7b\x7ba\x7d\x7b.\x7d" context ≠ evaluate "\x7b\x7ba\x7d\x7b.\x7d" other) := by
  have hstatic : (parse "x\x7d\x7b\x7ba\x7d").isStatic = true := by
    rw [isStatic, references, nodes_parse_eq_readChunks]
    decide
  have hreference : (parse "\x7b\x7ba\x7d\x7b.\x7d").isStatic = false := by
    rw [isStatic, references, nodes_parse_eq_readChunks]
    decide
  have hclose : '}' ∉ "\x7ba\x7b".toList := by decide
  obtain ⟨hself, halike, -, -⟩ := isStatic_parse_iff "x\x7d\x7b\x7ba\x7d"
  exact ⟨⟨hstatic, hself.mp hstatic, halike.mp hstatic _ _⟩,
    ⟨hclose, (isStatic_parse_iff _).2.2.1 (.inr hclose) Json _⟩,
    hreference, (isStatic_parse_iff _).2.2.2 hreference⟩

-- no text is parsed as a reference without keys, for which this does not hold
example : (mk [.reference []]).isStatic = false ∧ ∀ context : Json, (mk [.reference []]).render context = "" :=
  ⟨by decide, fun _ => rfl⟩

end Template

end Stencil
