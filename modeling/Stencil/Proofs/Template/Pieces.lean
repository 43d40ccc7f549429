import Stencil.Template.Basic
import Mathlib.Data.List.TakeWhile

/-!
# Template text piece by piece

The grammar of template text, read off the text that is left with nothing remembered (`pieces`). As long as a
placeholder comes after text without `{`, both are taken; otherwise the text is taken up to and including its
next `}`, and if there is none the whole rest is. Every piece becomes a node of its own, empty texts included.
-/

namespace Stencil.Template

/-- The characters that a key is written with. -/
def isKeyChar (c : Char) : Bool :=
  c.isAlphanum || c == '_' || c == '$' || c == '-'

/-- The characters that a reference is written with: keys and the dots between them. -/
def isReferenceChar (c : Char) : Bool :=
  isKeyChar c || c == '.'

/-- What stands before the first `c`, and what stands behind it. -/
def cutAt? (c : Char) : List Char → Option (List Char × List Char)
  | [] => none
  | d :: cs => if d = c then some ([], cs) else (cutAt? c cs).map fun (before, after) => (d :: before, after)

/-- The text before the first placeholder, the reference in it, and what follows it, if no `{` stands in that
text. -/
def firstPlaceholder? (cs : List Char) : Option (List Char × List Char × List Char) :=
  match cutAt? '{' cs with
  | none => none
  | some (literal, inner) =>
    match inner.takeWhile isReferenceChar, inner.dropWhile isReferenceChar with
    | c :: dotted, '}' :: rest => some (literal, c :: dotted, rest)
    | _, _ => none

/-- `cs` is text without `{`, then a placeholder with `dotted` between its braces, then `rest`. -/
structure IsPlaceholder (cs literal dotted rest : List Char) : Prop where
  eq_append : cs = literal ++ '{' :: (dotted ++ '}' :: rest)
  open_not_mem : '{' ∉ literal
  dotted_ne_nil : dotted ≠ []
  isReferenceChar : ∀ c ∈ dotted, isReferenceChar c = true

/-! ## The first of a character -/

theorem cutAt?_eq_none_iff {c : Char} {cs : List Char} : cutAt? c cs = none ↔ c ∉ cs := by
  induction cs with
  | nil => simp [cutAt?]
  | cons d cs ih =>
    rw [cutAt?]
    split
    · rename_i hd
      simp [hd]
    · rename_i hd
      rw [Option.map_eq_none_iff, ih, List.mem_cons, not_or]
      exact ⟨fun h => ⟨Ne.symm hd, h⟩, And.right⟩

theorem cutAt?_append_of_not_mem {c : Char} {front : List Char} (h : c ∉ front) (cs : List Char) :
    cutAt? c (front ++ cs) = (cutAt? c cs).map fun (before, after) => (front ++ before, after) := by
  induction front with
  | nil => exact Option.map_id'.symm
  | cons d front ih =>
    obtain ⟨hd, hfront⟩ := not_or.mp (List.mem_cons.not.mp h)
    rw [List.cons_append, cutAt?, if_neg (Ne.symm hd), ih hfront, Option.map_map]
    rfl

theorem cutAt?_append {c : Char} {before : List Char} (h : c ∉ before) (after : List Char) :
    cutAt? c (before ++ c :: after) = some (before, after) := by
  rw [cutAt?_append_of_not_mem h, cutAt?, if_pos rfl]
  exact congrArg (fun front => some (front, after)) (List.append_nil before)

theorem cutAt?_eq_some_iff {c : Char} {cs before after : List Char} :
    cutAt? c cs = some (before, after) ↔ cs = before ++ c :: after ∧ c ∉ before := by
  constructor
  · intro h
    have hmem : c ∈ cs := by
      by_contra hmem
      rw [cutAt?_eq_none_iff.mpr hmem] at h
      cases h
    obtain ⟨l, r, rfl, hl⟩ := List.eq_append_cons_of_mem hmem
    rw [cutAt?_append hl] at h
    obtain ⟨rfl, rfl⟩ := Prod.mk.inj (Option.some.inj h)
    exact ⟨rfl, hl⟩
  · rintro ⟨rfl, h⟩
    exact cutAt?_append h after

/-! ## The first placeholder -/

theorem isReferenceChar_close : ¬ isReferenceChar '}' = true := by decide

/-- A run of reference characters that a `}` follows ends at that `}`. -/
theorem takeWhile_isReferenceChar {dotted : List Char} (h : ∀ c ∈ dotted, isReferenceChar c = true)
    (rest : List Char) : (dotted ++ '}' :: rest).takeWhile isReferenceChar = dotted := by
  rw [List.takeWhile_append_of_pos h, List.takeWhile_cons_of_neg isReferenceChar_close, List.append_nil]

theorem dropWhile_isReferenceChar {dotted : List Char} (h : ∀ c ∈ dotted, isReferenceChar c = true)
    (rest : List Char) : (dotted ++ '}' :: rest).dropWhile isReferenceChar = '}' :: rest := by
  rw [List.dropWhile_append_of_pos h, List.dropWhile_cons_of_neg isReferenceChar_close]

namespace IsPlaceholder

variable {cs literal dotted rest : List Char}

theorem close_not_mem_dotted (h : IsPlaceholder cs literal dotted rest) : '}' ∉ dotted := fun hmem =>
  isReferenceChar_close (h.isReferenceChar _ hmem)

theorem length_lt (h : IsPlaceholder cs literal dotted rest) : rest.length < cs.length := by
  rw [h.eq_append]
  simp only [List.length_append, List.length_cons]
  omega

end IsPlaceholder

theorem firstPlaceholder?_eq_some_iff {cs literal dotted rest : List Char} :
    firstPlaceholder? cs = some (literal, dotted, rest) ↔ IsPlaceholder cs literal dotted rest := by
  constructor
  · intro h
    unfold firstPlaceholder? at h
    split at h
    · cases h
    · rename_i l inner hcut
      obtain ⟨rfl, hl⟩ := cutAt?_eq_some_iff.mp hcut
      split at h
      · rename_i c d r htake hdrop
        obtain ⟨rfl, rfl, rfl⟩ : l = literal ∧ c :: d = dotted ∧ r = rest := by simpa using h
        refine ⟨?_, hl, List.cons_ne_nil _ _, ?_⟩
        · rw [← htake, ← hdrop, List.takeWhile_append_dropWhile]
        · rw [← htake]
          exact fun c hc => List.mem_takeWhile_imp hc
      · cases h
  · rintro ⟨rfl, hl, hne, hchars⟩
    unfold firstPlaceholder?
    rw [cutAt?_append hl]
    simp only [takeWhile_isReferenceChar hchars, dropWhile_isReferenceChar hchars]
    cases dotted with
    | nil => exact absurd rfl hne
    | cons c dotted => rfl

theorem firstPlaceholder?_eq_none_iff {cs : List Char} :
    firstPlaceholder? cs = none ↔ ∀ literal dotted rest, ¬ IsPlaceholder cs literal dotted rest := by
  constructor
  · intro h literal dotted rest hp
    rw [firstPlaceholder?_eq_some_iff.mpr hp] at h
    cases h
  · intro h
    cases hfirst : firstPlaceholder? cs with
    | none => rfl
    | some found => exact absurd (firstPlaceholder?_eq_some_iff.mp hfirst) (h _ _ _)

/-! ## The pieces -/

/-- The nodes of the pieces of a text. -/
def pieces (cs : List Char) : List Node :=
  match _ : firstPlaceholder? cs with
  | some (literal, dotted, rest) =>
    .text (String.ofList literal) :: .reference ((dotted.splitOn '.').map String.ofList) :: pieces rest
  | none =>
    match _ : cutAt? '}' cs with
    | some (literal, rest) => .text (String.ofList (literal ++ ['}'])) :: pieces rest
    | none => [.text (String.ofList cs)]
termination_by cs.length
decreasing_by
  · rename_i hfirst
    exact (firstPlaceholder?_eq_some_iff.mp hfirst).length_lt
  · rename_i hcut
    obtain ⟨rfl, -⟩ := cutAt?_eq_some_iff.mp hcut
    simp only [List.length_append, List.length_cons]
    omega

variable {cs literal dotted rest : List Char}

theorem pieces_placeholder (h : IsPlaceholder cs literal dotted rest) :
    pieces cs = .text (String.ofList literal) :: Node.ofDotted (String.ofList dotted) :: pieces rest := by
  rw [pieces, Node.ofDotted_ofList]
  split
  · rename_i hfirst
    rw [firstPlaceholder?_eq_some_iff.mpr h] at hfirst
    cases hfirst
    rfl
  · rename_i hfirst
    exact absurd h (firstPlaceholder?_eq_none_iff.mp hfirst _ _ _)

theorem pieces_close (h : ∀ l d r, ¬ IsPlaceholder (literal ++ '}' :: rest) l d r) (hmem : '}' ∉ literal) :
    pieces (literal ++ '}' :: rest) = .text (String.ofList (literal ++ ['}'])) :: pieces rest := by
  rw [pieces]
  split
  · rename_i hfirst
    exact absurd (firstPlaceholder?_eq_some_iff.mp hfirst) (h _ _ _)
  · split
    · rename_i hcut
      rw [cutAt?_append hmem] at hcut
      cases hcut
      rfl
    · rename_i hcut
      exact absurd (List.mem_append_right _ List.mem_cons_self) (cutAt?_eq_none_iff.mp hcut)

theorem pieces_rest (h : ∀ l d r, ¬ IsPlaceholder cs l d r) (hmem : '}' ∉ cs) :
    pieces cs = [.text (String.ofList cs)] := by
  rw [pieces]
  split
  · rename_i hfirst
    exact absurd (firstPlaceholder?_eq_some_iff.mp hfirst) (h _ _ _)
  · split
    · rename_i hcut
      obtain ⟨rfl, -⟩ := cutAt?_eq_some_iff.mp hcut
      exact absurd (List.mem_append_right _ List.mem_cons_self) hmem
    · rfl

/-- Induction on the pieces of a text: text without `{` and a placeholder, text up to a `}`, or the rest. -/
@[elab_as_elim]
theorem pieces_induction {motive : List Char → Prop}
    (placeholder : ∀ cs literal dotted rest, IsPlaceholder cs literal dotted rest → motive rest → motive cs)
    (close : ∀ literal rest, (∀ l d r, ¬ IsPlaceholder (literal ++ '}' :: rest) l d r) → '}' ∉ literal →
      motive rest → motive (literal ++ '}' :: rest))
    (rest : ∀ cs, (∀ l d r, ¬ IsPlaceholder cs l d r) → '}' ∉ cs → motive cs) (cs : List Char) : motive cs := by
  fun_induction pieces cs with
  | case1 cs literal dotted tail hfirst ih =>
    exact placeholder cs literal dotted tail (firstPlaceholder?_eq_some_iff.mp hfirst) ih
  | case2 cs hfirst literal tail hcut ih =>
    obtain ⟨rfl, hmem⟩ := cutAt?_eq_some_iff.mp hcut
    exact close literal tail (firstPlaceholder?_eq_none_iff.mp hfirst) hmem ih
  | case3 cs hfirst hcut =>
    exact rest cs (firstPlaceholder?_eq_none_iff.mp hfirst) (cutAt?_eq_none_iff.mp hcut)

end Stencil.Template
