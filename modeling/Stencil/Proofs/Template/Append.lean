import Stencil.Proofs.Template.Chunks

/-!
# Templates side by side

Two template texts put one behind the other are read as they are one by one, with the text that ends the first
joined to the text that begins the second (`appendNodes`). The one exception is a `{` that the first leaves open
where the second has a `}` to close it.
-/

namespace Stencil.Template

/-- Puts nodes before others. A text that ends the former and a text that begins the latter become one. -/
def appendNodes (nodes others : List Node) : List Node :=
  match nodes.getLast?, others with
  | some (.text literal), .text next :: rest => nodes.dropLast ++ .text (literal ++ next) :: rest
  | _, _ => nodes ++ others

@[simp] theorem appendNodes_nil (others : List Node) : appendNodes [] others = others := rfl

/-- Only the last node can be joined with what follows. -/
theorem appendNodes_cons_cons (node next : Node) (nodes others : List Node) :
    appendNodes (node :: next :: nodes) others = node :: appendNodes (next :: nodes) others := by
  unfold appendNodes
  rw [List.getLast?_cons_cons, List.dropLast_cons_cons]
  split
  · rw [List.cons_append]
  · rw [List.cons_append]

theorem appendNodes_reference (path : List String) (nodes others : List Node) :
    appendNodes (.reference path :: nodes) others = .reference path :: appendNodes nodes others := by
  cases nodes with
  | nil => rfl
  | cons next more => exact appendNodes_cons_cons _ next more others

theorem appendNodes_singleton_text {literal : String} (h : literal ≠ "") (others : List Node) :
    appendNodes [.text literal] others = consText literal others := by
  cases others with
  | nil => exact (consText_nil h).symm
  | cons node rest =>
    cases node with
    | text next => rfl
    | reference path => exact (consText_reference h path rest).symm

/-- A text is put before nodes that are side by side by putting it before the first of them. -/
theorem consText_appendNodes (literal : String) (nodes others : List Node) :
    consText literal (appendNodes nodes others) = appendNodes (consText literal nodes) others := by
  by_cases h : literal = ""
  · rw [h, consText_empty, consText_empty]
  · cases nodes with
    | nil => rw [appendNodes_nil, consText_nil h, appendNodes_singleton_text h]
    | cons node more =>
      cases node with
      | reference path =>
        rw [appendNodes_reference, consText_reference h, consText_reference h, appendNodes_cons_cons,
          appendNodes_reference]
      | text next =>
        rw [consText_text]
        cases more with
        | cons second more => rw [appendNodes_cons_cons, appendNodes_cons_cons, consText_text]
        | nil =>
          cases others with
          | nil => rfl
          | cons other rest =>
            cases other with
            | text last =>
              show Node.text (literal ++ (next ++ last)) :: rest = .text (literal ++ next ++ last) :: rest
              rw [String.append_assoc]
            | reference path => rfl

/-- Nodes side by side are joined one by one, and then where they meet. -/
theorem joinTexts_append (nodes others : List Node) :
    joinTexts (nodes ++ others) = appendNodes (joinTexts nodes) (joinTexts others) := by
  induction nodes with
  | nil => rfl
  | cons node rest ih =>
    cases node with
    | text literal => rw [List.cons_append, joinTexts_text, joinTexts_text, ih, consText_appendNodes]
    | reference path => rw [List.cons_append, joinTexts_reference, joinTexts_reference, ih, appendNodes_reference]

/-- Joining where nodes meet changes nothing that is written for them, if texts are written as they are. -/
theorem join_map_appendNodes {write : Node → String} (hwrite : ∀ literal, write (.text literal) = literal)
    (nodes others : List Node) :
    String.join ((appendNodes nodes others).map write) =
      String.join (nodes.map write) ++ String.join (others.map write) := by
  unfold appendNodes
  split
  · rename_i literal next rest hlast
    have hnodes : nodes = nodes.dropLast ++ [.text literal] := (List.dropLast_append_getLast? _ hlast).symm
    rw [hnodes, List.dropLast_concat]
    simp only [List.map_append, List.map_cons, List.map_nil, String.join_append, String.join_cons, String.join_nil,
      hwrite, String.append_empty, String.append_assoc]
  · rw [List.map_append, String.join_append]

theorem render_appendNodes {γ : Type} [Context γ] (context : γ) (nodes others : List Node) :
    (mk (appendNodes nodes others)).render context = (mk nodes).render context ++ (mk others).render context :=
  join_map_appendNodes (fun _ => rfl) nodes others

/-! ## Texts side by side -/

section Texts

variable {a b : String} {γ : Type} [Context γ]

theorem nodes_parse_append (h : '{' ∉ afterLastClose a.toList ∨ '}' ∉ b.toList) :
    (parse (a ++ b)).nodes = appendNodes (parse a).nodes (parse b).nodes := by
  have hread : joinTexts (readChunks (a ++ b).toList) = joinTexts (readChunks a.toList ++ readChunks b.toList) := by
    rw [String.toList_append]
    rcases h with hclosed | hmem
    · exact joinTexts_readChunks_append_of_closed hclosed b.toList
    · exact joinTexts_readChunks_append_of_not_mem a.toList hmem
  rw [nodes_parse_eq_readChunks, nodes_parse_eq_readChunks, nodes_parse_eq_readChunks, hread, joinTexts_append]

theorem evaluate_append (context : γ) (h : '{' ∉ afterLastClose a.toList ∨ '}' ∉ b.toList) :
    evaluate (a ++ b) context = evaluate a context ++ evaluate b context := by
  have hparse : parse (a ++ b) = mk (appendNodes (parse a).nodes (parse b).nodes) :=
    congrArg mk (nodes_parse_append h)
  rw [evaluate, hparse, render_appendNodes]
  rfl

/-- Text without `}` is put out as it is, whatever template it stands behind. -/
theorem evaluate_append_of_not_mem (context : γ) (a : String) (h : '}' ∉ b.toList) :
    evaluate (a ++ b) context = evaluate a context ++ b := by
  have htext : evaluate b context = b := by
    rw [evaluate, render, nodes_parse_of_not_mem h, join_map_consText (fun _ => rfl), List.map_nil, String.join_nil,
      String.append_empty]
  rw [evaluate_append context (.inr h), htext]

end Texts

/-- Two texts are parsed side by side as one by one, and rendered so, if no `{` is open where they meet or nothing
behind it can close one. -/
theorem parse_append_eq_appendNodes (a b : String) (h : '{' ∉ afterLastClose a.toList ∨ '}' ∉ b.toList) :
    (parse (a ++ b)).nodes = appendNodes (parse a).nodes (parse b).nodes ∧
    ∀ (γ : Type) [Context γ] (context : γ),
      evaluate (a ++ b) context = evaluate a context ++ evaluate b context := by
  refine ⟨nodes_parse_append h, ?_⟩
  intro γ _ context
  exact evaluate_append context h

theorem parse_append_eq_appendNodes_open_brace :
    ('{' ∉ afterLastClose "x\x7d\x7bb\x7d c".toList ∧
      (parse ("x\x7d\x7bb\x7d c" ++ "d\x7be\x7d")).nodes =
        [.text "x\x7d", .reference ["b"], .text " cd", .reference ["e"]] ∧
      evaluate ("x\x7d\x7bb\x7d c" ++ "d\x7be\x7d") (Json.obj [("b", .str "1"), ("e", .str "2")]) = "x\x7d1 cd2") ∧
    ('}' ∉ "c\x7b".toList ∧ (parse ("\x7ba\x7d\x7bb" ++ "c\x7b")).nodes = [.reference ["a"], .text "\x7bbc\x7b"] ∧
      evaluate ("\x7ba\x7d\x7bb" ++ "c\x7b") (Json.obj [("a", .str "1")]) = "1\x7bbc\x7b") := by
  have hfirst : '{' ∉ afterLastClose "x\x7d\x7bb\x7d c".toList := by decide
  have hsecond : '}' ∉ "c\x7b".toList := by decide
  have hevaluate (s : String) (context : Json) :
      evaluate s context = (mk (joinTexts (readChunks s.toList))).render context := by
    rw [← nodes_parse_eq_readChunks]
    rfl
  obtain ⟨hnodes, hrender⟩ := parse_append_eq_appendNodes _ "d\x7be\x7d" (.inl hfirst)
  obtain ⟨hnodes', hrender'⟩ := parse_append_eq_appendNodes "\x7ba\x7d\x7bb" _ (.inr hsecond)
  refine ⟨⟨hfirst, ?_, ?_⟩, hsecond, ?_, ?_⟩
  · rw [hnodes, nodes_parse_eq_readChunks, nodes_parse_eq_readChunks]
    decide
  · rw [hrender, hevaluate, hevaluate]
    decide
  · rw [hnodes', nodes_parse_eq_readChunks, nodes_parse_eq_readChunks]
    decide
  · rw [hrender', hevaluate, hevaluate]
    decide

end Stencil.Template
