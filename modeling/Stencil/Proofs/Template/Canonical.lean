import Stencil.Proofs.Template.Chunks
import Mathlib.Data.List.Chain
import Mathlib.Data.Set.Function

/-!
# Which templates are parsed

Parsing and writing are inverse to each other: a parsed template is written as the text it was read from
(`source_parse`), and a list of nodes is parsed from some text exactly if it is canonical (`Canonical`), and then
from the text it is written as (`nodes_parse_source`).
-/

namespace Stencil

open Template (IsPlaceholder isKeyChar isReferenceChar)

namespace Node

/-- A node that is read as itself: a text in which there is nothing but text, or a reference whose keys can be
told from what stands between its braces. -/
def IsCanonical : Node → Prop
  | .text literal => literal ≠ "" ∧ (Template.parse literal).nodes = [.text literal]
  | .reference path => path ≠ [] ∧ path ≠ [""] ∧ ∀ key ∈ path, ∀ c ∈ key.toList, isKeyChar c = true

/-- Two nodes that stay two nodes if they are written one behind the other: they are not both texts, and no `{`
is left open in the first. -/
def MayPrecede : Node → Node → Prop
  | .text _, .text _ => False
  | .text literal, .reference _ => '{' ∉ Template.afterLastClose literal.toList
  | .reference _, _ => True

end Node

namespace Template

/-- The nodes of a parsed template. -/
structure Canonical (nodes : List Node) : Prop where
  isCanonical : ∀ node ∈ nodes, node.IsCanonical
  isChain : nodes.IsChain Node.MayPrecede

/-! ## Writing what was parsed -/

theorem source_cons (node : Node) (nodes : List Node) :
    (mk (node :: nodes)).source = node.source ++ (mk nodes).source := by
  rw [source, List.map_cons, String.join_cons, source]

theorem source_append (nodes others : List Node) :
    (mk (nodes ++ others)).source = (mk nodes).source ++ (mk others).source := by
  rw [source, List.map_append, String.join_append, source, source]

theorem source_singleton (node : Node) : (mk [node]).source = node.source := by
  rw [source_cons]
  exact String.append_empty

theorem source_chunkNodes (chunk : List Char) : (mk (chunkNodes chunk)).source = String.ofList chunk := by
  rcases chunkNodes_eq chunk with ⟨literal, dotted, hp, hnodes⟩ | hnodes
  · rw [hnodes, source_cons, source_singleton, Node.source_ofDotted, hp.eq_append]
    apply String.ext
    simp [Node.source]
  · rw [hnodes, source_singleton]
    rfl

theorem source_readChunks (cs : List Char) : (mk (readChunks cs)).source = String.ofList cs := by
  induction cs using chunks_induction with
  | nil => rfl
  | last cs h hne => rw [readChunks, chunks_last h hne, List.flatMap_singleton, source_chunkNodes]
  | close body rest h ih =>
    rw [readChunks_close h, source_append, source_chunkNodes, ih, ← String.ofList_append, List.append_assoc,
      List.singleton_append]

theorem source_parse (s : String) : (parse s).source = s := by
  have h : (mk (parse s).nodes).source = s := by
    rw [nodes_parse_eq_readChunks, source_joinTexts, source_readChunks, String.ofList_toList]
  exact h

/-- Parsing loses nothing: no two texts are parsed alike, since each is what its template is written as. -/
theorem source_parse_and_injective : (∀ s, (parse s).source = s) ∧ Function.Injective parse := by
  refine ⟨source_parse, ?_⟩
  intro s t h
  rw [← source_parse s, h, source_parse]

/-! ## The keys of a reference -/

theorem isKeyChar_of_isReferenceChar {c : Char} (h : isReferenceChar c = true) (hdot : c ≠ '.') :
    isKeyChar c = true := by
  rcases Bool.or_eq_true_iff.mp h with hkey | hc
  · exact hkey
  · exact absurd (beq_iff_eq.mp hc) hdot

theorem isReferenceChar_of_isKeyChar {c : Char} (h : isKeyChar c = true) : isReferenceChar c = true :=
  Bool.or_eq_true_iff.mpr (.inl h)

theorem isKeyChar_of_mem_splitOn {dotted : List Char} (h : ∀ c ∈ dotted, isReferenceChar c = true) :
    ∀ key ∈ dotted.splitOn '.', ∀ c ∈ key, isKeyChar c = true := by
  induction dotted with
  | nil =>
    intro key hkey c hc
    rw [List.splitOn_nil, List.mem_singleton] at hkey
    rw [hkey] at hc
    exact absurd hc List.not_mem_nil
  | cons d dotted ih =>
    intro key hkey c hc
    have ih := ih fun c hc => h c (List.mem_cons_of_mem d hc)
    rw [List.splitOn_cons_eq_if_modifyHead] at hkey
    split at hkey
    · rcases List.mem_cons.mp hkey with rfl | hmore
      · exact absurd hc List.not_mem_nil
      · exact ih key hmore c hc
    · rename_i hdot
      obtain ⟨first, more, hsplit⟩ := List.exists_cons_of_ne_nil (List.splitOn_ne_nil '.' dotted)
      rw [hsplit] at hkey ih
      rcases List.mem_cons.mp hkey with rfl | hmore
      · rcases List.mem_cons.mp hc with rfl | hfirst
        · exact isKeyChar_of_isReferenceChar (h c List.mem_cons_self) fun heq => hdot (beq_iff_eq.mpr heq)
        · exact ih first List.mem_cons_self c hfirst
      · exact ih key (List.mem_cons_of_mem first hmore) c hc

theorem isReferenceChar_of_mem_intercalate {keys : List (List Char)}
    (h : ∀ key ∈ keys, ∀ c ∈ key, isKeyChar c = true) :
    ∀ c ∈ ['.'].intercalate keys, isReferenceChar c = true := by
  induction keys with
  | nil => exact fun c hc => absurd hc List.not_mem_nil
  | cons key more ih =>
    intro c hc
    have ih := ih fun key hkey => h key (List.mem_cons_of_mem _ hkey)
    have hfirst : c ∈ key → isReferenceChar c = true := fun hc =>
      isReferenceChar_of_isKeyChar (h key List.mem_cons_self c hc)
    by_cases hmore : more = []
    · rw [hmore, List.intercalate_singleton] at hc
      exact hfirst hc
    · rw [List.intercalate_cons_of_ne_nil hmore, List.mem_append, List.mem_append] at hc
      rcases hc with (hkey | hdot) | hrest
      · exact hfirst hkey
      · rw [List.mem_singleton.mp hdot]
        rfl
      · exact ih c hrest

/-- What can stand between the braces of a placeholder is a canonical reference. -/
theorem isCanonical_ofDotted {dotted : List Char} (hne : dotted ≠ [])
    (hchars : ∀ c ∈ dotted, isReferenceChar c = true) : (Node.ofDotted (String.ofList dotted)).IsCanonical := by
  rw [Node.ofDotted_ofList]
  refine ⟨?_, ?_, ?_⟩
  · intro h
    exact List.splitOn_ne_nil '.' dotted (List.map_eq_nil_iff.mp h)
  · intro h
    have hsplit : dotted.splitOn '.' = [[]] := by
      have := congrArg (List.map String.toList) h
      simpa [Function.comp_def] using this
    have hdotted : ['.'].intercalate (dotted.splitOn '.') = dotted := List.intercalate_splitOn '.'
    rw [hsplit, List.intercalate_singleton] at hdotted
    exact hne hdotted.symm
  · intro key hkey c hc
    obtain ⟨part, hpart, rfl⟩ := List.mem_map.mp hkey
    rw [String.toList_ofList] at hc
    exact isKeyChar_of_mem_splitOn hchars part hpart c hc

/-- A canonical reference can stand between the braces of a placeholder. -/
theorem exists_ofDotted_eq {path : List String} (h : (Node.reference path).IsCanonical) :
    ∃ dotted, dotted ≠ [] ∧ (∀ c ∈ dotted, isReferenceChar c = true) ∧
      Node.ofDotted (String.ofList dotted) = .reference path := by
  obtain ⟨hnil, hempty, hchars⟩ := h
  have hkeys : ∀ key ∈ path.map String.toList, ∀ c ∈ key, isKeyChar c = true := by
    intro key hkey c hc
    obtain ⟨name, hname, rfl⟩ := List.mem_map.mp hkey
    exact hchars name hname c hc
  have hdot : ∀ key ∈ path.map String.toList, '.' ∉ key := fun key hkey hmem =>
    absurd (hkeys key hkey '.' hmem) (by decide)
  have hsplit : (['.'].intercalate (path.map String.toList)).splitOn '.' = path.map String.toList :=
    List.splitOn_intercalate '.' hdot fun h => hnil (List.map_eq_nil_iff.mp h)
  have hofList : (path.map String.toList).map String.ofList = path := by
    rw [List.map_map]
    exact (List.map_congr_left fun key _ => String.ofList_toList).trans (List.map_id path)
  refine ⟨['.'].intercalate (path.map String.toList), ?_, isReferenceChar_of_mem_intercalate hkeys, ?_⟩
  · intro h
    rw [h, List.splitOn_nil] at hsplit
    rw [← hsplit] at hofList
    exact hempty hofList.symm
  · rw [Node.ofDotted_ofList, hsplit, hofList]

/-! ## What is parsed is canonical -/

theorem canonical_nil : Canonical [] where
  isCanonical := fun _ hnode => absurd hnode List.not_mem_nil
  isChain := List.isChain_nil

theorem canonical_cons_iff {node : Node} {nodes : List Node} :
    Canonical (node :: nodes) ↔
      node.IsCanonical ∧ (∀ next ∈ nodes.head?, node.MayPrecede next) ∧ Canonical nodes := by
  constructor
  · rintro ⟨hnodes, hchain⟩
    obtain ⟨hnext, hrest⟩ := List.isChain_cons.mp hchain
    exact ⟨hnodes node List.mem_cons_self, hnext, fun other h => hnodes other (List.mem_cons_of_mem node h), hrest⟩
  · rintro ⟨hnode, hnext, hnodes, hchain⟩
    exact ⟨List.forall_mem_cons.mpr ⟨hnode, hnodes⟩, List.isChain_cons.mpr ⟨hnext, hchain⟩⟩

theorem isCanonical_text {cs : List Char} (hne : cs ≠ [])
    (h : joinTexts (readChunks cs) = consText (String.ofList cs) []) :
    (Node.text (String.ofList cs)).IsCanonical := by
  have hempty : String.ofList cs ≠ "" := fun hcs => hne (String.ofList_eq_empty_iff.mp hcs)
  refine ⟨hempty, ?_⟩
  rw [nodes_parse_eq_readChunks, String.toList_ofList, h, consText_nil hempty]

theorem joinTexts_readChunks_of_isCanonical {literal : String} (h : (Node.text literal).IsCanonical) :
    joinTexts (readChunks literal.toList) = [.text literal] := by
  rw [← nodes_parse_eq_readChunks]
  exact h.2

theorem canonical_placeholder {literal : List Char} {path : List String} {nodes : List Node}
    (hliteral : '{' ∉ literal) (hpath : (Node.reference path).IsCanonical) (h : Canonical nodes) :
    Canonical (consText (String.ofList literal) (.reference path :: nodes)) := by
  have hreference : Canonical (.reference path :: nodes) :=
    canonical_cons_iff.mpr ⟨hpath, fun _ _ => trivial, h⟩
  by_cases hne : literal = []
  · rw [hne, String.ofList_nil, consText_empty]
    exact hreference
  · have hread : joinTexts (readChunks literal) = consText (String.ofList literal) [] := by
      have := joinTexts_readChunks_append hliteral []
      rwa [List.append_nil, readChunks_nil, joinTexts_nil] at this
    have hempty : String.ofList literal ≠ "" := fun hcs => hne (String.ofList_eq_empty_iff.mp hcs)
    rw [consText_reference hempty]
    refine canonical_cons_iff.mpr ⟨isCanonical_text hne hread, ?_, hreference⟩
    intro next hnext
    obtain rfl := Option.some.inj hnext
    show '{' ∉ afterLastClose (String.ofList literal).toList
    rw [String.toList_ofList]
    exact fun hmem => hliteral ((List.rtakeWhile_suffix _ literal).subset hmem)

theorem isCanonical_text_close {body rest : List Char} (hbody : '}' ∉ body)
    (htext : chunkNodes (body ++ ['}']) = [.text (String.ofList (body ++ ['}']))])
    (hrest : joinTexts (readChunks rest) = consText (String.ofList rest) []) :
    (Node.text (String.ofList (body ++ '}' :: rest))).IsCanonical := by
  refine isCanonical_text (by simp) ?_
  rw [readChunks_close hbody, htext, List.singleton_append, joinTexts_text, hrest, consText_consText,
    ← String.ofList_append, List.append_assoc, List.singleton_append]

theorem mayPrecede_reference_of_close {body rest : List Char} (h : '{' ∉ afterLastClose rest)
    (path : List String) : (Node.text (String.ofList (body ++ '}' :: rest))).MayPrecede (.reference path) := by
  show '{' ∉ afterLastClose (String.ofList (body ++ '}' :: rest)).toList
  rw [String.toList_ofList, afterLastClose_append_close]
  exact h

/-- A chunk that is text may be put before the nodes of what follows. -/
theorem canonical_close {body : List Char} {nodes : List Node} (hbody : '}' ∉ body)
    (htext : chunkNodes (body ++ ['}']) = [.text (String.ofList (body ++ ['}']))]) (h : Canonical nodes) :
    Canonical (consText (String.ofList (body ++ ['}'])) nodes) := by
  have hchunk : (Node.text (String.ofList (body ++ ['}']))).IsCanonical :=
    isCanonical_text_close hbody htext rfl
  cases nodes with
  | nil =>
    rw [consText_nil hchunk.1]
    exact canonical_cons_iff.mpr ⟨hchunk, fun _ hnext => absurd hnext (by simp), canonical_nil⟩
  | cons node rest =>
    cases node with
    | text next =>
      obtain ⟨hnext, hprecede, hrest⟩ := canonical_cons_iff.mp h
      have hjoined : String.ofList (body ++ ['}']) ++ next = String.ofList (body ++ '}' :: next.toList) := by
        apply String.ext
        simp
      have hread : joinTexts (readChunks next.toList) = consText (String.ofList next.toList) [] := by
        rw [joinTexts_readChunks_of_isCanonical hnext, String.ofList_toList, consText_nil hnext.1]
      rw [consText_text, hjoined]
      refine canonical_cons_iff.mpr ⟨isCanonical_text_close hbody htext hread, ?_, hrest⟩
      intro other hother
      cases other with
      | text literal => exact hprecede _ hother
      | reference path => exact mayPrecede_reference_of_close (hprecede _ hother) path
    | reference path =>
      rw [consText_reference hchunk.1]
      refine canonical_cons_iff.mpr ⟨hchunk, ?_, h⟩
      intro next hnext
      obtain rfl := Option.some.inj hnext
      exact mayPrecede_reference_of_close List.not_mem_nil path

theorem canonical_readChunks (cs : List Char) : Canonical (joinTexts (readChunks cs)) := by
  induction cs using chunks_induction with
  | nil => exact canonical_nil
  | last cs h hne =>
    have hread := joinTexts_readChunks_last h
    rw [hread, consText_nil (isCanonical_text hne hread).1]
    exact canonical_cons_iff.mpr ⟨isCanonical_text hne hread, fun _ hnext => absurd hnext (by simp), canonical_nil⟩
  | close body rest hbody ih =>
    rw [readChunks_close hbody]
    rcases chunkNodes_eq (body ++ ['}']) with ⟨literal, dotted, hp, hnodes⟩ | hnodes
    · have hpath := isCanonical_ofDotted hp.dotted_ne_nil hp.isReferenceChar
      rw [hnodes]
      exact canonical_placeholder hp.open_not_mem hpath ih
    · rw [hnodes]
      exact canonical_close hbody hnodes ih

/-! ## What is canonical is parsed -/

theorem joinTexts_readChunks_source {nodes : List Node} (h : Canonical nodes) :
    joinTexts (readChunks (mk nodes).source.toList) = nodes := by
  induction nodes with
  | nil => rfl
  | cons node rest ih =>
    obtain ⟨hnode, hprecede, hrest⟩ := canonical_cons_iff.mp h
    have ih := ih hrest
    rw [source_cons, String.toList_append]
    cases node with
    | reference path =>
      obtain ⟨dotted, hne, hchars, hpath⟩ := exists_ofDotted_eq hnode
      have hplaceholder : IsPlaceholder ((Node.reference path).source.toList ++ (mk rest).source.toList) [] dotted
          (mk rest).source.toList := by
        refine ⟨?_, List.not_mem_nil, hne, hchars⟩
        rw [← hpath, Node.source_ofDotted]
        simp
      rw [joinTexts_readChunks_placeholder hplaceholder, ih, hpath, String.ofList_nil, consText_empty]
    | text literal =>
      have hread := joinTexts_readChunks_of_isCanonical hnode
      show joinTexts (readChunks (literal.toList ++ _)) = _
      cases rest with
      | nil =>
        show joinTexts (readChunks (literal.toList ++ "".toList)) = _
        rw [String.toList_empty, List.append_nil, hread]
      | cons next more =>
        have hnext := hprecede next rfl
        cases next with
        | text other => exact absurd hnext id
        | reference path =>
          have hclosed : '{' ∉ afterLastClose literal.toList := hnext
          rw [joinTexts_readChunks_append_of_closed hclosed, ← joinTexts_joinTexts_append, hread,
            ← joinTexts_append_joinTexts, ih, List.singleton_append, joinTexts_text, ← ih, joinTexts_joinTexts, ih,
            consText_reference hnode.1]

theorem nodes_parse_source {nodes : List Node} (h : Canonical nodes) :
    (parse (mk nodes).source).nodes = nodes := by
  rw [nodes_parse_eq_readChunks, joinTexts_readChunks_source h]

/-- Texts and templates with canonical nodes are the same, by parsing one way and by writing the other. -/
theorem bijOn_parse : (∀ s, Canonical (parse s).nodes) ∧
    (∀ nodes, Canonical nodes → (parse (mk nodes).source).nodes = nodes) ∧
    Set.BijOn parse Set.univ {t | Canonical t.nodes} := by
  have hparse (s : String) : Canonical (parse s).nodes := by
    rw [nodes_parse_eq_readChunks]
    exact canonical_readChunks s.toList
  have hinverse : Set.InvOn source parse Set.univ {t | Canonical t.nodes} := by
    refine ⟨?_, ?_⟩
    · exact fun s _ => source_parse s
    · exact fun t ht => congrArg mk (nodes_parse_source ht)
  exact ⟨hparse, fun nodes => nodes_parse_source,
    hinverse.bijOn (fun s _ => hparse s) (fun t _ => Set.mem_univ t.source)⟩

theorem bijOn_parse_stray_braces :
    Canonical [.text "a\x7d\x7b x\x7d", .reference ["b", ""], .text "\x7bc"] ∧
    (parse "a\x7d\x7b x\x7d\x7bb.\x7d\x7bc").nodes =
      [.text "a\x7d\x7b x\x7d", .reference ["b", ""], .text "\x7bc"] := by
  have hfirst : (Node.text "a\x7d\x7b x\x7d").IsCanonical := by
    refine ⟨by decide, ?_⟩
    rw [nodes_parse_eq_readChunks]
    decide
  have hreference : (Node.reference ["b", ""]).IsCanonical := ⟨by decide, by decide, by simp [isKeyChar]⟩
  have hlast : (Node.text "\x7bc").IsCanonical := by
    refine ⟨by decide, ?_⟩
    rw [nodes_parse_eq_readChunks]
    decide
  have hclosed : (Node.text "a\x7d\x7b x\x7d").MayPrecede (.reference ["b", ""]) := by
    show '{' ∉ afterLastClose "a\x7d\x7b x\x7d".toList
    decide
  have hcanonical : Canonical [.text "a\x7d\x7b x\x7d", .reference ["b", ""], .text "\x7bc"] := by
    refine ⟨?_, ?_⟩
    · simp [hfirst, hreference, hlast]
    · exact .cons_cons hclosed (.cons_cons trivial (.singleton _))
  exact ⟨hcanonical, bijOn_parse.2.1 _ hcanonical⟩

end Template

end Stencil
