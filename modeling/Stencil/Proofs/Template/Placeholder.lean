import Stencil.Proofs.Context.Path
import Stencil.Proofs.Template.Canonical

/-!
# Values by placeholders

Every path that can be written between braces is read back from there, so a placeholder addresses whatever its path
leads to. It is rendered for itself: text around it stays as it is (`evaluate_between`), as long as no `{` before it and
no `}` behind it can make up another placeholder.
-/

namespace Stencil

/-- A literal as it is, or something in the place of a reference, chosen by its path. -/
def Node.fill (write : List String → String) : Node → String
  | .text literal => literal
  | .reference path => write path

theorem Node.fill_source : Node.fill (fun path => (Node.reference path).source) = Node.source := by
  funext node
  cases node with
  | text literal => rfl
  | reference path => rfl

theorem Node.fill_render {γ : Type} [Context γ] (context : γ) :
    Node.fill (fun path => (Node.reference path).render context) = Node.render context := by
  funext node
  cases node with
  | text literal => rfl
  | reference path => rfl

namespace Template

/-- A text with something in the place of each placeholder. -/
def replacePlaceholders (write : List String → String) (s : String) : String :=
  String.join ((readChunks s.toList).map (Node.fill write))

/-- With its references in their places, a text is what it was. -/
theorem replacePlaceholders_source (s : String) :
    replacePlaceholders (fun path => (Node.reference path).source) s = s := by
  have hsource : (mk (readChunks s.toList)).source = s := by
    rw [source_readChunks, String.ofList_toList]
  rw [replacePlaceholders, Node.fill_source]
  exact hsource

variable {γ : Type} [Context γ] {path : List String} {before after : String}

/-- Evaluating a text puts in the place of each placeholder what its reference is rendered as, and changes nothing
else. -/
theorem evaluate_eq_replacePlaceholders (s : String) (context : γ) :
    evaluate s context = replacePlaceholders (fun path => (Node.reference path).render context) s := by
  have hparse : parse s = mk (joinTexts (readChunks s.toList)) := congrArg mk (nodes_parse_eq_readChunks s)
  rw [evaluate, hparse, render_joinTexts, replacePlaceholders, Node.fill_render]
  rfl

theorem nodes_parse_between (hpath : (Node.reference path).IsCanonical) (hbefore : '{' ∉ before.toList)
    (hafter : '}' ∉ after.toList) :
    (parse (before ++ (Node.reference path).source ++ after)).nodes =
      consText before (.reference path :: consText after []) := by
  obtain ⟨dotted, hne, hchars, hdotted⟩ := exists_ofDotted_eq hpath
  have hcut : (before ++ (Node.reference path).source ++ after).toList =
      before.toList ++ '{' :: (dotted ++ '}' :: after.toList) := by
    rw [← hdotted, Node.source_ofDotted]
    simp
  have hplaceholder : IsPlaceholder (before ++ (Node.reference path).source ++ after).toList before.toList dotted
      after.toList := ⟨hcut, hbefore, hne, hchars⟩
  rw [nodes_parse_eq_readChunks, joinTexts_readChunks_placeholder hplaceholder, joinTexts_readChunks_last hafter,
    hdotted, String.ofList_toList, String.ofList_toList]

/-- A placeholder is rendered between the texts around it. -/
theorem evaluate_between (context : γ) (hpath : (Node.reference path).IsCanonical) (hbefore : '{' ∉ before.toList)
    (hafter : '}' ∉ after.toList) :
    evaluate (before ++ (Node.reference path).source ++ after) context =
      before ++ (Node.reference path).render context ++ after := by
  have hwrite : ∀ literal, Node.render context (.text literal) = literal := fun _ => rfl
  rw [evaluate, render, nodes_parse_between hpath hbefore hafter, join_map_consText hwrite, List.map_cons,
    String.join_cons, join_map_consText hwrite, List.map_nil, String.join_nil, String.append_empty,
    String.append_assoc]

theorem evaluate_source (context : γ) (hpath : (Node.reference path).IsCanonical) :
    evaluate (Node.reference path).source context = (Node.reference path).render context := by
  have hbetween : evaluate ("" ++ (Node.reference path).source ++ "") context =
      "" ++ (Node.reference path).render context ++ "" := evaluate_between context hpath (by simp) (by simp)
  rwa [String.empty_append, String.append_empty, String.empty_append, String.append_empty] at hbetween

/-- Between braces, a path addresses the value that it leads to. It is rendered as the text of that value, or as
nothing if it leads nowhere, and the texts around it stay as they are. -/
theorem evaluate_path (root : Json) {path : List String} (hne : path ≠ []) (hempty : path ≠ [""])
    (hkeys : ∀ key ∈ path, ∀ c ∈ key.toList, isKeyChar c = true) :
    let placeholder := "\x7b" ++ ".".intercalate path ++ "\x7d"
    (∀ value, root.LeadsTo path value → evaluate placeholder root = value.display) ∧
    ((∀ value, ¬ root.LeadsTo path value) → evaluate placeholder root = "") ∧
    ∀ before after : String, '{' ∉ before.toList → '}' ∉ after.toList →
      evaluate (before ++ placeholder ++ after) root = before ++ evaluate placeholder root ++ after := by
  intro placeholder
  have hpath : (Node.reference path).IsCanonical := ⟨hne, hempty, hkeys⟩
  have halone : evaluate placeholder root = (Node.reference path).render root := evaluate_source root hpath
  refine ⟨?_, ?_, ?_⟩
  · intro value hvalue
    rw [halone, render_reference_of_leadsTo hne hvalue]
  · intro hnowhere
    rw [halone, render_reference_of_forall_not hne hnowhere]
  · intro before after hbefore hafter
    rw [halone]
    exact evaluate_between root hpath hbefore hafter

theorem evaluate_path_nested_items :
    let root : Json := .obj [("a-b", .arr [.null, .obj [("", .arr [.str "x", .null])]])]
    (root.LeadsTo ["a-b", "1", ""] (.arr [.str "x", .null]) ∧ evaluate "\x7ba-b.1.\x7d" root = "x,") ∧
    ((∀ value, ¬ root.LeadsTo ["a-b", "01"] value) ∧
      evaluate "\x7da\x7d\x7ba-b.01\x7d\x7bb" root = "\x7da\x7d\x7bb") := by
  intro root
  have hitem : root.LeadsTo ["a-b", "1", ""] (.arr [.str "x", .null]) :=
    .step (.member rfl) (.step (.item (i := 1) rfl) (.step (.member rfl) (.here _)))
  have hnowhere : ∀ value, ¬ root.LeadsTo ["a-b", "01"] value := by
    intro value hvalue
    have hresolve : resolve? root ["a-b", "01"] = none := by rfl
    rw [(resolve?_eq_some_iff (by simp)).mpr ⟨value, rfl, hvalue⟩] at hresolve
    cases hresolve
  have hitems : ["a-b", "1", ""] ≠ [] := List.cons_ne_nil _ _
  have hzero : ["a-b", "01"] ≠ [] := List.cons_ne_nil _ _
  obtain ⟨hpresent, -, -⟩ := evaluate_path root hitems (by simp) (by simp [isKeyChar])
  obtain ⟨-, habsent, haround⟩ := evaluate_path root hzero (by simp) (by simp [isKeyChar])
  refine ⟨⟨hitem, ?_⟩, hnowhere, ?_⟩
  · exact hpresent _ hitem
  · have hbetween := haround "\x7da\x7d" "\x7bb" (by decide) (by decide)
    rw [habsent hnowhere] at hbetween
    exact hbetween

end Template

end Stencil
