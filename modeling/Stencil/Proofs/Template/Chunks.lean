import Stencil.Proofs.Template.Scan
import Mathlib.Data.List.DropRight

/-!
# Template text in chunks

A grammar of template text in which no place depends on another: the text is cut behind every `}` (`chunks`),
and what a chunk stands for can be told from the chunk alone (`chunkNodes`). The pieces of a text are longer
than its chunks, since a placeholder may be taken together with chunks before it, but the nodes are the same
once texts are joined (`joinTexts_pieces`).
-/

namespace Stencil.Template

/-- Cuts a text behind every `}`. -/
def chunks : List Char → List (List Char)
  | [] => []
  | c :: cs =>
    if c = '}' then [c] :: chunks cs
    else
      match chunks cs with
      | [] => [[c]]
      | chunk :: rest => (c :: chunk) :: rest

/-- What a chunk stands for: if it ends with `}` and there is a reference between its first `{` and its end, the text
before that `{` and the reference with its keys between the dots, else itself as text. -/
def chunkNodes (chunk : List Char) : List Node :=
  match cutAt? '{' chunk with
  | none => [.text (String.ofList chunk)]
  | some (literal, inner) =>
    if inner.getLast? = some '}' ∧ inner.dropLast ≠ [] ∧ inner.dropLast.all isReferenceChar then
      [.text (String.ofList literal), .reference ((inner.dropLast.splitOn '.').map String.ofList)]
    else
      [.text (String.ofList chunk)]

/-- The text behind the last `}`, or all of the text if there is none. -/
def afterLastClose (cs : List Char) : List Char :=
  cs.rtakeWhile (· != '}')

/-- What the chunks of a text stand for, in order. -/
def readChunks (cs : List Char) : List Node :=
  (chunks cs).flatMap chunkNodes

/-! ## Cutting into chunks -/

theorem chunks_close {body : List Char} (h : '}' ∉ body) (rest : List Char) :
    chunks (body ++ '}' :: rest) = (body ++ ['}']) :: chunks rest := by
  induction body with
  | nil => rw [List.nil_append, chunks, if_pos rfl, List.nil_append]
  | cons c body ih =>
    obtain ⟨hc, hbody⟩ := not_or.mp (List.mem_cons.not.mp h)
    rw [List.cons_append, chunks, if_neg (Ne.symm hc), ih hbody, List.cons_append]

theorem chunks_last {cs : List Char} (h : '}' ∉ cs) (hne : cs ≠ []) : chunks cs = [cs] := by
  induction cs with
  | nil => exact absurd rfl hne
  | cons c cs ih =>
    obtain ⟨hc, hcs⟩ := not_or.mp (List.mem_cons.not.mp h)
    rw [chunks, if_neg (Ne.symm hc)]
    by_cases hnil : cs = []
    · rw [hnil, chunks]
    · rw [ih hcs hnil]

/-- Induction on the chunks of a text, of which only the last may lack its `}`. -/
@[elab_as_elim]
theorem chunks_induction {motive : List Char → Prop} (nil : motive [])
    (last : ∀ cs, '}' ∉ cs → cs ≠ [] → motive cs)
    (close : ∀ body rest, '}' ∉ body → motive rest → motive (body ++ '}' :: rest)) (cs : List Char) : motive cs := by
  induction hlen : cs.length using Nat.strongRecOn generalizing cs with
  | _ n ih =>
    by_cases hmem : '}' ∈ cs
    · obtain ⟨body, rest, rfl, hbody⟩ := List.eq_append_cons_of_mem hmem
      refine close body rest hbody (ih rest.length ?_ rest rfl)
      rw [← hlen, List.length_append, List.length_cons]
      omega
    · by_cases hne : cs = []
      · rw [hne]
        exact nil
      · exact last cs hmem hne

theorem flatten_chunks (cs : List Char) : (chunks cs).flatten = cs := by
  induction cs using chunks_induction with
  | nil => rfl
  | last cs h hne => rw [chunks_last h hne, List.flatten_singleton]
  | close body rest h ih =>
    rw [chunks_close h, List.flatten_cons, ih, List.append_assoc, List.singleton_append]

/-- No chunk has a `}` before its end. -/
theorem close_not_mem_dropLast (cs : List Char) : ∀ chunk ∈ chunks cs, '}' ∉ chunk.dropLast := by
  induction cs using chunks_induction with
  | nil => exact fun _ hchunk => absurd hchunk List.not_mem_nil
  | last cs h hne =>
    intro chunk hchunk
    rw [chunks_last h hne, List.mem_singleton] at hchunk
    rw [hchunk]
    exact fun hmem => h (List.dropLast_subset cs hmem)
  | close body rest h ih =>
    intro chunk hchunk
    rw [chunks_close h] at hchunk
    rcases List.mem_cons.mp hchunk with rfl | hrest
    · rwa [List.dropLast_concat]
    · exact ih chunk hrest

/-- Every chunk but the last ends with `}`. -/
theorem getLast?_of_mem_dropLast (cs : List Char) :
    ∀ chunk ∈ (chunks cs).dropLast, chunk.getLast? = some '}' := by
  induction cs using chunks_induction with
  | nil => exact fun _ hchunk => absurd hchunk List.not_mem_nil
  | last cs h hne =>
    intro chunk hchunk
    rw [chunks_last h hne] at hchunk
    exact absurd hchunk List.not_mem_nil
  | close body rest h ih =>
    intro chunk hchunk
    rw [chunks_close h] at hchunk
    cases hchunks : chunks rest with
    | nil =>
      rw [hchunks] at hchunk
      exact absurd hchunk List.not_mem_nil
    | cons first more =>
      rw [hchunks, List.dropLast_cons_cons, ← hchunks] at hchunk
      rcases List.mem_cons.mp hchunk with rfl | hrest
      · exact List.getLast?_concat
      · exact ih chunk hrest

/-! ## What a chunk stands for -/

theorem chunkNodes_placeholder {chunk literal dotted : List Char} (h : IsPlaceholder chunk literal dotted []) :
    chunkNodes chunk = [.text (String.ofList literal), Node.ofDotted (String.ofList dotted)] := by
  have hcut : cutAt? '{' chunk = some (literal, dotted ++ ['}']) :=
    cutAt?_eq_some_iff.mpr ⟨h.eq_append, h.open_not_mem⟩
  have hlast : (dotted ++ ['}']).dropLast = dotted := List.dropLast_concat
  rw [chunkNodes, hcut, Node.ofDotted_ofList]
  simp only [hlast]
  exact if_pos ⟨List.getLast?_concat, h.dotted_ne_nil, List.all_eq_true.mpr h.isReferenceChar⟩

theorem chunkNodes_text {chunk : List Char} (h : ∀ l d, ¬ IsPlaceholder chunk l d []) :
    chunkNodes chunk = [.text (String.ofList chunk)] := by
  unfold chunkNodes
  split
  · rfl
  · rename_i literal inner hcut
    obtain ⟨heq, hliteral⟩ := cutAt?_eq_some_iff.mp hcut
    refine if_neg ?_
    rintro ⟨hlast, hne, hchars⟩
    obtain ⟨dotted, rfl⟩ := List.getLast?_eq_some_iff.mp hlast
    rw [List.dropLast_concat] at hne hchars
    exact h literal dotted ⟨heq, hliteral, hne, List.all_eq_true.mp hchars⟩

/-- A chunk either has a placeholder at its end or is text. -/
theorem chunkNodes_eq (chunk : List Char) :
    (∃ literal dotted, IsPlaceholder chunk literal dotted [] ∧
      chunkNodes chunk = [.text (String.ofList literal), Node.ofDotted (String.ofList dotted)]) ∨
    chunkNodes chunk = [.text (String.ofList chunk)] := by
  by_cases h : ∃ literal dotted, IsPlaceholder chunk literal dotted []
  · obtain ⟨literal, dotted, hp⟩ := h
    exact .inl ⟨literal, dotted, hp, chunkNodes_placeholder hp⟩
  · exact .inr (chunkNodes_text fun l d hp => h ⟨l, d, hp⟩)

/-- Text without `{` before a chunk is read as text before what the chunk stands for. -/
theorem joinTexts_chunkNodes_append {literal : List Char} (h : '{' ∉ literal) (chunk : List Char)
    (nodes : List Node) : joinTexts (chunkNodes (literal ++ chunk) ++ nodes) =
      consText (String.ofList literal) (joinTexts (chunkNodes chunk ++ nodes)) := by
  have htext : joinTexts ([.text (String.ofList (literal ++ chunk))] ++ nodes) =
      consText (String.ofList literal) (joinTexts ([.text (String.ofList chunk)] ++ nodes)) := by
    rw [List.singleton_append, List.singleton_append, joinTexts_text, joinTexts_text, consText_consText,
      String.ofList_append]
  unfold chunkNodes
  cases hcut : cutAt? '{' chunk with
  | none =>
    rw [cutAt?_append_of_not_mem h, hcut]
    exact htext
  | some cut =>
    obtain ⟨before, inner⟩ := cut
    rw [cutAt?_append_of_not_mem h, hcut]
    simp only [Option.map_some]
    split
    · simp only [List.cons_append, joinTexts_text, consText_consText, String.ofList_append]
    · exact htext

/-! ## What the chunks stand for -/

@[simp] theorem readChunks_nil : readChunks [] = [] := rfl

theorem readChunks_close {body : List Char} (h : '}' ∉ body) (rest : List Char) :
    readChunks (body ++ '}' :: rest) = chunkNodes (body ++ ['}']) ++ readChunks rest := by
  rw [readChunks, chunks_close h, List.flatMap_cons, readChunks]

/-- A last chunk without `}` is text. -/
theorem joinTexts_readChunks_last {cs : List Char} (h : '}' ∉ cs) :
    joinTexts (readChunks cs) = consText (String.ofList cs) [] := by
  by_cases hne : cs = []
  · rw [hne, readChunks_nil, joinTexts_nil, String.ofList_nil, consText_empty]
  · have htext : chunkNodes cs = [.text (String.ofList cs)] := by
      refine chunkNodes_text fun l d hp => h ?_
      rw [hp.eq_append]
      simp
    rw [readChunks, chunks_last h hne, List.flatMap_singleton, htext, joinTexts_text, joinTexts_nil]

/-- Text without `{` is read as text before what comes behind it, even if it has chunks of its own. -/
theorem joinTexts_readChunks_append {literal : List Char} (h : '{' ∉ literal) (rest : List Char) :
    joinTexts (readChunks (literal ++ rest)) = consText (String.ofList literal) (joinTexts (readChunks rest)) := by
  induction literal using chunks_induction with
  | nil => rw [List.nil_append, String.ofList_nil, consText_empty]
  | last literal hclose hne =>
    induction rest using chunks_induction with
    | nil => rw [List.append_nil, joinTexts_readChunks_last hclose, readChunks_nil, joinTexts_nil]
    | last cs hcs _ =>
      have hmem : '}' ∉ literal ++ cs := fun hmem => (List.mem_append.mp hmem).elim hclose hcs
      rw [joinTexts_readChunks_last hmem, joinTexts_readChunks_last hcs, consText_consText, String.ofList_append]
    | close body more hbody _ =>
      have hmem : '}' ∉ literal ++ body := fun hmem => (List.mem_append.mp hmem).elim hclose hbody
      rw [← List.append_assoc, readChunks_close hmem, readChunks_close hbody, List.append_assoc,
        joinTexts_chunkNodes_append h]
  | close body more hbody ih =>
    obtain ⟨hopen, hmore⟩ := not_or.mp (List.mem_append.not.mp h)
    have hmore : '{' ∉ more := fun hmem => hmore (List.mem_cons_of_mem _ hmem)
    have hchunk : '{' ∉ body ++ ['}'] := by
      simpa using hopen
    have htext : chunkNodes (body ++ ['}']) = [.text (String.ofList (body ++ ['}']))] := by
      rw [chunkNodes, cutAt?_eq_none_iff.mpr hchunk]
    rw [List.append_assoc, List.cons_append, readChunks_close hbody, htext, List.singleton_append, joinTexts_text,
      ih hmore, consText_consText, ← String.ofList_append, List.append_assoc, List.singleton_append]

/-- Where a placeholder comes next, its chunks are read as the text before it and its reference. -/
theorem joinTexts_readChunks_placeholder {cs literal dotted rest : List Char}
    (h : IsPlaceholder cs literal dotted rest) :
    joinTexts (readChunks cs) = consText (String.ofList literal)
      (Node.ofDotted (String.ofList dotted) :: joinTexts (readChunks rest)) := by
  have hclose : '}' ∉ '{' :: dotted := fun hmem =>
    (List.mem_cons.mp hmem).elim (by decide) h.close_not_mem_dotted
  have hchunk : IsPlaceholder ('{' :: dotted ++ ['}']) [] dotted [] :=
    ⟨rfl, List.not_mem_nil, h.dotted_ne_nil, h.isReferenceChar⟩
  have hnodes : readChunks ('{' :: (dotted ++ '}' :: rest)) =
      chunkNodes ('{' :: dotted ++ ['}']) ++ readChunks rest := readChunks_close hclose rest
  rw [h.eq_append, joinTexts_readChunks_append h.open_not_mem, hnodes, chunkNodes_placeholder hchunk]
  show consText _ (joinTexts (.text "" :: .reference _ :: readChunks rest)) = _
  rw [joinTexts_text, consText_empty, joinTexts_reference]
  rfl

/-! ## Texts side by side -/

theorem afterLastClose_append_close (cs rest : List Char) :
    afterLastClose (cs ++ '}' :: rest) = afterLastClose rest := by
  unfold afterLastClose
  induction rest using List.reverseRecOn with
  | nil => rw [List.rtakeWhile_concat_neg _ _ _ (by decide), List.rtakeWhile_nil]
  | append_singleton rest c ih =>
    rw [← List.cons_append, ← List.append_assoc, List.rtakeWhile_concat, List.rtakeWhile_concat, ih]

theorem afterLastClose_of_not_mem {cs : List Char} (h : '}' ∉ cs) : afterLastClose cs = cs := by
  refine List.rtakeWhile_eq_self_iff.mpr fun c hc => bne_iff_ne.mpr ?_
  rintro rfl
  exact h hc

theorem close_not_mem_afterLastClose (cs : List Char) : '}' ∉ afterLastClose cs := by
  intro h
  have hne := List.mem_rtakeWhile_imp (p := (· != '}')) h
  exact bne_iff_ne.mp hne rfl

/-- Two texts are read one by one as soon as that holds of what stands behind the last `}` of the first. -/
theorem joinTexts_readChunks_append_of_last {cs rest : List Char}
    (h : joinTexts (readChunks (afterLastClose cs ++ rest)) =
      joinTexts (readChunks (afterLastClose cs) ++ readChunks rest)) :
    joinTexts (readChunks (cs ++ rest)) = joinTexts (readChunks cs ++ readChunks rest) := by
  induction cs using chunks_induction with
  | nil => exact h
  | last cs hclose hne => rwa [afterLastClose_of_not_mem hclose] at h
  | close body more hbody ih =>
    rw [afterLastClose_append_close] at h
    rw [List.append_assoc, List.cons_append, readChunks_close hbody, readChunks_close hbody,
      ← joinTexts_append_joinTexts, ih h, joinTexts_append_joinTexts, List.append_assoc]

/-- A last chunk is text before what the chunks of another text stand for. -/
theorem joinTexts_readChunks_last_append {cs : List Char} (h : '}' ∉ cs) (rest : List Char) :
    joinTexts (readChunks cs ++ readChunks rest) = consText (String.ofList cs) (joinTexts (readChunks rest)) := by
  rw [← joinTexts_joinTexts_append, joinTexts_readChunks_last h, joinTexts_consText_append, List.nil_append]

/-- Two texts are read one by one if no `{` is left open in the first. -/
theorem joinTexts_readChunks_append_of_closed {cs : List Char} (h : '{' ∉ afterLastClose cs) (rest : List Char) :
    joinTexts (readChunks (cs ++ rest)) = joinTexts (readChunks cs ++ readChunks rest) := by
  refine joinTexts_readChunks_append_of_last ?_
  rw [joinTexts_readChunks_append h, joinTexts_readChunks_last_append (close_not_mem_afterLastClose cs)]

/-- Two texts are read one by one if nothing in the second can close a `{` that is left open in the first. -/
theorem joinTexts_readChunks_append_of_not_mem (cs : List Char) {rest : List Char} (h : '}' ∉ rest) :
    joinTexts (readChunks (cs ++ rest)) = joinTexts (readChunks cs ++ readChunks rest) := by
  have hlast := close_not_mem_afterLastClose cs
  have hmem : '}' ∉ afterLastClose cs ++ rest := fun hmem => (List.mem_append.mp hmem).elim hlast h
  refine joinTexts_readChunks_append_of_last ?_
  rw [joinTexts_readChunks_last hmem, joinTexts_readChunks_last_append hlast, joinTexts_readChunks_last h,
    consText_consText, String.ofList_append]

/-! ## Chunks and pieces -/

/-- Where no placeholder comes next, the first chunk stands for itself. -/
theorem chunkNodes_close {literal rest : List Char}
    (hnone : ∀ l d r, ¬ IsPlaceholder (literal ++ '}' :: rest) l d r) :
    chunkNodes (literal ++ ['}']) = [.text (String.ofList (literal ++ ['}']))] := by
  refine chunkNodes_text fun l d h => hnone l d rest ⟨?_, h.open_not_mem, h.dotted_ne_nil, h.isReferenceChar⟩
  rw [← List.singleton_append, ← List.append_assoc, h.eq_append]
  simp

/-- Pieces and chunks come to the same once texts are joined. -/
theorem joinTexts_pieces (cs : List Char) : joinTexts (pieces cs) = joinTexts (readChunks cs) := by
  induction cs using pieces_induction with
  | placeholder cs literal dotted rest h ih =>
    rw [pieces_placeholder h, joinTexts_readChunks_placeholder h, joinTexts_text, Node.ofDotted,
      joinTexts_reference, ih]
  | close literal rest hnone hmem ih =>
    rw [pieces_close hnone hmem, readChunks_close hmem, chunkNodes_close hnone, List.singleton_append,
      joinTexts_text, joinTexts_text, ih]
  | rest cs hnone hmem => rw [pieces_rest hnone hmem, joinTexts_readChunks_last hmem, joinTexts_text, joinTexts_nil]

/-- The nodes of a template are what the chunks of its text stand for, with the texts joined. -/
theorem nodes_parse_eq_readChunks (s : String) : (parse s).nodes = joinTexts (readChunks s.toList) := by
  rw [nodes_parse, joinTexts_pieces]

theorem nodes_parse_of_not_mem {s : String} (h : '}' ∉ s.toList) : (parse s).nodes = consText s [] := by
  rw [nodes_parse_eq_readChunks, joinTexts_readChunks_last h, String.ofList_toList]

/-- The grammar of template text. The chunks of a text are what lies between one `}` and the next, and the nodes are
what they stand for one by one, with the texts joined. -/
theorem nodes_parse_eq_chunkNodes (s : String) :
    (chunks s.toList).flatten = s.toList ∧
    (∀ chunk ∈ chunks s.toList, '}' ∉ chunk.dropLast) ∧
    (∀ chunk ∈ (chunks s.toList).dropLast, chunk.getLast? = some '}') ∧
    (parse s).nodes = joinTexts ((chunks s.toList).flatMap chunkNodes) :=
  ⟨flatten_chunks s.toList, close_not_mem_dropLast s.toList, getLast?_of_mem_dropLast s.toList,
    nodes_parse_eq_readChunks s⟩

end Stencil.Template
