import Stencil.Proofs.Template.Joined
import Stencil.Proofs.Template.Pieces
import Stencil.Proofs.Text.Offset

/-!
# The scan reads the pieces

A scan takes the text piece by piece although it looks at the first `{` ahead only once: what it remembers is
what a fresh look would find (`Sound`, `lookAhead?_eq`), so a step takes one piece (`step?_placeholder`,
`step?_literal`), and by induction on the pieces a whole run yields their nodes with the texts joined
(`nodes_parse`).
-/

namespace Stencil

open Text (Cut Delimits bytesOf)
open Template (IsPlaceholder isReferenceChar isKeyChar pieces joinTexts consText)

/-! ## Reference bytes -/

theorem isReferenceByte_eq (b : UInt8) : isReferenceByte b = isReferenceChar (Char.ofUInt8 b) := by
  simp only [isReferenceByte, isReferenceChar, isKeyChar, Bool.or_assoc,
    Bool.or_comm (Char.ofUInt8 b == '.')]

theorem isReferenceChar_lt {c : Char} (h : isReferenceChar c = true) : c.toNat < 128 := by
  simp only [isReferenceChar, isKeyChar, Bool.or_eq_true, beq_iff_eq] at h
  rcases h with (((halphanum | rfl) | rfl) | rfl) | rfl
  · exact Text.isAlphanum_lt halphanum
  all_goals decide

theorem isReferenceChar_eq_false {c : Char} (h : 128 ≤ c.toNat) : isReferenceChar c = false := by
  rw [Bool.eq_false_iff]
  intro hc
  have := isReferenceChar_lt hc
  omega

/-- References are written in ASCII, so scanning bytes stops where the characters of a reference end. -/
theorem delimits_isReferenceByte : Delimits isReferenceByte isReferenceChar := by
  refine Delimits.of_ascii ?_ (fun c => isReferenceChar_eq_false) ?_
  · intro c hc
    rw [isReferenceByte_eq, Text.ofUInt8_toUInt8 hc]
  · intro b hb
    rw [isReferenceByte_eq]
    exact isReferenceChar_eq_false (by rwa [Text.toNat_ofUInt8])

/-! ## The first `{` ahead -/

theorem open_ascii : '{'.toNat < 128 := by decide

theorem close_ascii : '}'.toNat < 128 := by decide

namespace OpenBrace

variable {s : String} {pos next : Nat} {before cs inner literal dotted rest : List Char} {brace : OpenBrace}

/-- A look from any place up to the `{` that was seen sees the same. -/
theorem after?_of_le (h : after? s pos = some brace) (hle : pos ≤ next) (hbrace : next ≤ brace.offset) :
    after? s next = some brace := by
  obtain ⟨offset, hoffset, rfl⟩ := Option.map_eq_some_iff.mp h
  exact Option.map_eq_some_iff.mpr ⟨offset, Text.findByte?_of_le hoffset hle hbrace, rfl⟩

theorem after?_none_of_le (h : after? s pos = none) (hle : pos ≤ next) : after? s next = none :=
  Option.map_eq_none_iff.mpr (Text.findByte?_none_of_le (Option.map_eq_none_iff.mp h) hle)

theorem after?_eq_none (hcut : Cut s pos before cs) (h : '{' ∉ cs) : after? s pos = none :=
  Option.map_eq_none_iff.mpr (hcut.findByte?_eq_none open_ascii h)

theorem after?_eq_some (hcut : Cut s pos before (literal ++ '{' :: inner)) (h : '{' ∉ literal) :
    after? s pos =
      some ⟨pos + (bytesOf literal).length, closingAfter? s (pos + (bytesOf literal).length + 1)⟩ := by
  rw [after?, hcut.findByte?_eq_some open_ascii h, Option.map_some]

/-- A placeholder opens before a cut exactly if a reference and a `}` come next. -/
theorem closingAfter?_eq_some_iff (hcut : Cut s pos before inner) {closing : Nat} :
    closingAfter? s pos = some closing ↔
      ∃ dotted rest, inner = dotted ++ '}' :: rest ∧ dotted ≠ [] ∧ (∀ c ∈ dotted, isReferenceChar c = true) ∧
        closing = pos + (bytesOf dotted).length := by
  have hsplit : inner = inner.takeWhile isReferenceChar ++ inner.dropWhile isReferenceChar :=
    List.takeWhile_append_dropWhile.symm
  have hstop : Cut s (pos + (bytesOf (inner.takeWhile isReferenceChar)).length)
      (before ++ inner.takeWhile isReferenceChar) (inner.dropWhile isReferenceChar) :=
    Cut.append (hsplit ▸ hcut)
  have hlt : pos < pos + (bytesOf (inner.takeWhile isReferenceChar)).length ↔
      inner.takeWhile isReferenceChar ≠ [] := by
    rw [ne_eq, ← Text.bytesOf_eq_nil_iff, ← List.length_eq_zero_iff]
    omega
  unfold closingAfter?
  simp only [hcut.skipWhile delimits_isReferenceByte, hlt, hstop.byte?_eq_iff close_ascii]
  constructor
  · intro h
    split at h
    · rename_i hne
      obtain ⟨rest, hrest⟩ := List.head?_eq_some_iff.mp hne.2
      refine ⟨_, rest, ?_, hne.1, fun c hc => List.mem_takeWhile_imp hc, (Option.some.inj h).symm⟩
      rw [← hrest, ← hsplit]
    · cases h
  · rintro ⟨dotted, rest, rfl, hne, hchars, rfl⟩
    rw [Template.takeWhile_isReferenceChar hchars, Template.dropWhile_isReferenceChar hchars, if_pos ⟨hne, rfl⟩]

/-- Before a placeholder, its braces are seen. -/
theorem after?_placeholder (hcut : Cut s pos before cs) (h : IsPlaceholder cs literal dotted rest) :
    after? s pos = some ⟨pos + (bytesOf literal).length,
      some (pos + (bytesOf literal).length + 1 + (bytesOf dotted).length)⟩ := by
  have hcut' := h.eq_append ▸ hcut
  have hinner := (hcut'.append).push open_ascii
  rw [after?_eq_some hcut' h.open_not_mem, (closingAfter?_eq_some_iff hinner).mpr
    ⟨dotted, rest, rfl, h.dotted_ne_nil, h.isReferenceChar, rfl⟩]

/-- If no placeholder comes next, then none opens at the first `{` ahead. -/
theorem closing?_eq_none (hcut : Cut s pos before cs) (h : ∀ l d r, ¬ IsPlaceholder cs l d r)
    (hafter : after? s pos = some brace) : brace.closing? = none := by
  by_cases hmem : '{' ∈ cs
  · obtain ⟨literal, inner, rfl, hliteral⟩ := List.eq_append_cons_of_mem hmem
    rw [after?_eq_some hcut hliteral] at hafter
    obtain rfl := Option.some.inj hafter
    cases hclosing : closingAfter? s (pos + (bytesOf literal).length + 1) with
    | none => rfl
    | some closing =>
      obtain ⟨dotted, rest, rfl, hne, hchars, -⟩ :=
        (closingAfter?_eq_some_iff ((hcut.append).push open_ascii)).mp hclosing
      exact absurd ⟨rfl, hliteral, hne, hchars⟩ (h literal dotted rest)
  · rw [after?_eq_none hcut hmem] at hafter
    cases hafter

end OpenBrace

namespace Scanner

variable {s : String} {st : Scanner} {before cs literal dotted rest : List Char}

/-! ## What a scan remembers -/

/-- The invariant of a scan: what it remembers it has seen from a place that it has not gone back behind. -/
structure Sound (s : String) (st : Scanner) : Prop where
  seen : ∀ brace, st.seen? = some brace → ∃ pos, pos ≤ st.pos ∧ OpenBrace.after? s pos = some brace
  exhausted : st.exhausted = true → ∃ pos, pos ≤ st.pos ∧ OpenBrace.after? s pos = none

theorem sound_start (s : String) : Sound s start where
  seen := fun _ h => nomatch h
  exhausted := fun h => nomatch h

theorem Sound.mono {next : Scanner} (h : Sound s st) (hpos : st.pos ≤ next.pos) (hseen : next.seen? = st.seen?)
    (hexhausted : next.exhausted = st.exhausted) : Sound s next where
  seen := by
    intro brace hbrace
    obtain ⟨pos, hle, hafter⟩ := h.seen brace (hseen ▸ hbrace)
    exact ⟨pos, hle.trans hpos, hafter⟩
  exhausted := by
    intro hnext
    obtain ⟨pos, hle, hafter⟩ := h.exhausted (hexhausted ▸ hnext)
    exact ⟨pos, hle.trans hpos, hafter⟩

theorem search?_eq (h : Sound s st) (hpos : Text.IsBoundary s st.pos) :
    ∃ seen? exhausted, Sound s { st with seen?, exhausted } ∧
      st.search? s = some (OpenBrace.after? s st.pos, { st with seen?, exhausted }) := by
  unfold search?
  split
  · rename_i hexhausted
    obtain ⟨pos, hle, hafter⟩ := h.exhausted hexhausted
    exact ⟨st.seen?, st.exhausted, h, by rw [OpenBrace.after?_none_of_le hafter hle]⟩
  · cases hafter : OpenBrace.after? s st.pos with
    | some brace =>
      refine ⟨some brace, st.exhausted, ⟨?_, h.exhausted⟩, rfl⟩
      intro _ hseen
      obtain rfl := Option.some.inj hseen
      exact ⟨st.pos, le_rfl, hafter⟩
    | none =>
      refine ⟨none, true, ⟨?_, fun _ => ⟨st.pos, le_rfl, hafter⟩⟩, rfl⟩
      intro _ hseen
      cases hseen

/-- Looking ahead finds what a fresh look would find, and keeps the invariant. -/
theorem lookAhead?_eq (h : Sound s st) (hpos : Text.IsBoundary s st.pos) :
    ∃ seen? exhausted, Sound s { st with seen?, exhausted } ∧
      st.lookAhead? s = some (OpenBrace.after? s st.pos, { st with seen?, exhausted }) := by
  unfold lookAhead?
  split
  · rename_i brace hseen
    split
    · rename_i hle
      obtain ⟨pos, hpos, hafter⟩ := h.seen brace hseen
      exact ⟨st.seen?, st.exhausted, h, by rw [OpenBrace.after?_of_le hafter hpos hle]⟩
    · exact search?_eq h hpos
  · exact search?_eq h hpos

/-! ## Steps -/

theorem flush_literal (st : Scanner) : st.flush.literal = "" := by
  unfold flush
  split
  · rename_i h
    exact String.isEmpty_iff.mp h
  · rfl

theorem flush_seen? (st : Scanner) : st.flush.seen? = st.seen? := by
  unfold flush
  split <;> rfl

theorem flush_exhausted (st : Scanner) : st.flush.exhausted = st.exhausted := by
  unfold flush
  split <;> rfl

theorem flush_nodes (st : Scanner) : st.flush.nodes.toList = st.nodes.toList ++ consText st.literal [] := by
  unfold flush
  split
  · rename_i h
    rw [String.isEmpty_iff.mp h, Template.consText_empty, List.append_nil]
  · rename_i h
    rw [Template.consText_nil fun hempty => h (String.isEmpty_iff.mpr hempty)]
    exact Array.toList_push

theorem keepTo?_eq {part : List Char} {stop : Nat} (hcut : Cut s st.pos before (part ++ rest))
    (hstop : Cut s stop (before ++ part) rest) :
    st.keepTo? s stop = some { st with pos := stop, literal := st.literal ++ String.ofList part } := by
  rw [keepTo?, hcut.slice? hstop, Option.map_some]

theorem keepThroughClose?_of_some {close : Nat} (hpos : Text.IsBoundary s st.pos)
    (h : Text.findByte? s '}'.toUInt8 st.pos = some close) :
    st.keepThroughClose? s = st.keepTo? s (close + 1) := by
  rw [keepThroughClose?, if_pos hpos, h]

theorem keepThroughClose?_of_none (hpos : Text.IsBoundary s st.pos)
    (h : Text.findByte? s '}'.toUInt8 st.pos = none) :
    st.keepThroughClose? s = st.keepTo? s s.utf8ByteSize := by
  rw [keepThroughClose?, if_pos hpos, h]

/-- Where a placeholder comes next, a step takes it and the text before it. -/
theorem step?_placeholder (hst : Sound s st) (hcut : Cut s st.pos before cs)
    (h : IsPlaceholder cs literal dotted rest) :
    ∃ next, st.step? s = some next ∧ Sound s next ∧
      Cut s next.pos (before ++ (literal ++ '{' :: (dotted ++ ['}']))) rest ∧ next.literal = "" ∧
      next.nodes.toList = st.nodes.toList ++
        (consText (st.literal ++ String.ofList literal) [] ++ [Node.ofDotted (String.ofList dotted)]) := by
  obtain ⟨seen?, exhausted, hsound, hlook⟩ := lookAhead?_eq hst hcut.isBoundary
  rw [OpenBrace.after?_placeholder hcut h] at hlook
  -- the cuts before the `{`, behind it, before the `}` and behind it
  have hliteral : Cut s st.pos before (literal ++ '{' :: (dotted ++ '}' :: rest)) := h.eq_append ▸ hcut
  have hopen := hliteral.append
  have hdotted := hopen.push open_ascii
  have hclose := hdotted.append
  have hrest := hclose.push close_ascii
  set opening := st.pos + (bytesOf literal).length
  set closing := opening + 1 + (bytesOf dotted).length
  set kept : Scanner :=
    { st with pos := opening, literal := st.literal ++ String.ofList literal, seen?, exhausted } with hkept
  set next : Scanner :=
    { kept.flush with pos := closing + 1, nodes := kept.flush.nodes.push (.ofDotted (String.ofList dotted)) }
  have hkeep : keepTo? s opening { st with seen?, exhausted } = some kept := keepTo?_eq hliteral hopen
  have hstep : st.step? s = some next := by
    rw [step?, hlook]
    show placeholder? s opening closing { st with seen?, exhausted } = some next
    rw [placeholder?, hkeep]
    show (Text.slice? s (opening + 1) closing).bind _ = some next
    rw [hdotted.slice? hclose]
    rfl
  refine ⟨next, hstep, hsound.mono ?_ kept.flush_seen? kept.flush_exhausted, ?_, kept.flush_literal, ?_⟩
  · show st.pos ≤ closing + 1
    omega
  · simpa using hrest
  · show (kept.flush.nodes.push _).toList = _
    rw [Array.toList_push, flush_nodes, List.append_assoc]

/-- Where no placeholder comes next, a step takes the text up to and including the next `}`, or all of it. -/
theorem step?_literal (hst : Sound s st) (hcut : Cut s st.pos before (literal ++ rest))
    (hnone : ∀ l d r, ¬ IsPlaceholder (literal ++ rest) l d r)
    (hliteral : (∃ body, literal = body ++ ['}'] ∧ '}' ∉ body) ∨ '}' ∉ literal ∧ rest = []) :
    ∃ next, st.step? s = some next ∧ Sound s next ∧ Cut s next.pos (before ++ literal) rest ∧
      next.literal = st.literal ++ String.ofList literal ∧ next.nodes = st.nodes := by
  obtain ⟨seen?, exhausted, hsound, hlook⟩ := lookAhead?_eq hst hcut.isBoundary
  have hstep : st.step? s = keepThroughClose? s { st with seen?, exhausted } := by
    rw [step?, hlook]
    cases hafter : OpenBrace.after? s st.pos with
    | none => rfl
    | some brace =>
      obtain ⟨offset, closing?⟩ := brace
      obtain rfl : closing? = none := OpenBrace.closing?_eq_none hcut hnone hafter
      rfl
  have hbehind := hcut.append
  set stop := st.pos + (bytesOf literal).length
  have hkeep : keepThroughClose? s { st with seen?, exhausted } = keepTo? s stop { st with seen?, exhausted } := by
    rcases hliteral with ⟨body, rfl, hbody⟩ | ⟨hmem, rfl⟩
    · rw [List.append_assoc, List.singleton_append] at hcut
      have hstop : stop = st.pos + (bytesOf body).length + 1 := by
        rw [hbehind.offset_eq, (hcut.append.push close_ascii).offset_eq, List.append_assoc]
      rw [hstop]
      exact keepThroughClose?_of_some hcut.isBoundary (hcut.findByte?_eq_some close_ascii hbody)
    · rw [List.append_nil] at hcut
      have hstop : stop = s.utf8ByteSize := by rw [hbehind.offset_eq, hcut.finish.offset_eq]
      rw [hstop]
      exact keepThroughClose?_of_none hcut.isBoundary (hcut.findByte?_eq_none close_ascii hmem)
  refine ⟨_, hstep.trans (hkeep.trans (keepTo?_eq hcut hbehind)), hsound.mono ?_ rfl rfl, hbehind, rfl, rfl⟩
  show st.pos ≤ stop
  omega

/-! ## Runs -/

theorem run?_of_step? {next : Scanner} {part : List Char} (hcut : Cut s st.pos before (part ++ rest))
    (hpart : part ≠ []) (hstep : st.step? s = some next) (hnext : Cut s next.pos (before ++ part) rest) :
    st.run? s = next.run? s := by
  have hlt : st.pos < s.utf8ByteSize := hcut.lt_iff.mpr (List.append_ne_nil_of_left_ne_nil hpart rest)
  rw [run?, if_pos hlt, hstep]
  exact if_pos (hcut.lt_of_append hnext hpart)

theorem run?_of_end (hcut : Cut s st.pos before []) : st.run? s = some st.flush := by
  rw [run?, if_neg fun hlt => hcut.lt_iff.mp hlt rfl]

/-- A run from any stop ends. It makes of the text that is left the nodes of its pieces, with the pending text
before them and the texts joined. -/
theorem exists_run?_eq (cs : List Char) : ∀ (st : Scanner) (before : List Char), Sound s st →
    Cut s st.pos before cs → ∃ final, st.run? s = some final ∧
      final.nodes.toList = st.nodes.toList ++ consText st.literal (joinTexts (pieces cs)) := by
  induction cs using Template.pieces_induction with
  | placeholder cs literal dotted rest h ih =>
    intro st before hst hcut
    obtain ⟨next, hstep, hsound, hnext, hpending, hnodes⟩ := step?_placeholder hst hcut h
    obtain ⟨final, hrun, hfinal⟩ := ih next _ hsound hnext
    have hpart : Cut s st.pos before (literal ++ '{' :: (dotted ++ ['}']) ++ rest) := by
      have := h.eq_append ▸ hcut
      simpa using this
    refine ⟨final, (run?_of_step? hpart (by simp) hstep hnext).trans hrun, ?_⟩
    rw [hfinal, hnodes, hpending, Template.consText_empty, Template.pieces_placeholder h, Template.joinTexts_text,
      Template.consText_consText, Node.ofDotted, Template.joinTexts_reference,
      Template.consText_reference_eq_append, List.append_assoc, List.append_assoc, List.singleton_append]
  | close literal rest hnone hmem ih =>
    intro st before hst hcut
    have hpart : Cut s st.pos before (literal ++ ['}'] ++ rest) := by simpa using hcut
    obtain ⟨next, hstep, hsound, hnext, hpending, hnodes⟩ :=
      step?_literal hst hpart (by simpa using hnone) (.inl ⟨literal, rfl, hmem⟩)
    obtain ⟨final, hrun, hfinal⟩ := ih next _ hsound hnext
    refine ⟨final, (run?_of_step? hpart (by simp) hstep hnext).trans hrun, ?_⟩
    rw [hfinal, hnodes, hpending, Template.pieces_close hnone hmem, Template.joinTexts_text,
      Template.consText_consText]
  | rest cs hnone hmem =>
    intro st before hst hcut
    rw [Template.pieces_rest hnone hmem, Template.joinTexts_text, Template.joinTexts_nil]
    by_cases hcs : cs = []
    · subst hcs
      refine ⟨st.flush, run?_of_end hcut, ?_⟩
      rw [flush_nodes, String.ofList_nil, Template.consText_empty]
    · have hpart : Cut s st.pos before (cs ++ []) := by rwa [List.append_nil]
      obtain ⟨next, hstep, hsound, hnext, hpending, hnodes⟩ :=
        step?_literal hst hpart (by simpa using hnone) (.inr ⟨hmem, rfl⟩)
      refine ⟨next.flush, (run?_of_step? hpart hcs hstep hnext).trans (run?_of_end hnext), ?_⟩
      rw [flush_nodes, hnodes, hpending, Template.consText_consText]

end Scanner

/-- The nodes of a template are those of the pieces of its text, with the texts joined. -/
theorem Template.nodes_parse (s : String) : (Template.parse s).nodes = joinTexts (pieces s.toList) := by
  obtain ⟨final, hrun, hfinal⟩ :=
    Scanner.exists_run?_eq s.toList Scanner.start [] (Scanner.sound_start s) (Cut.start s)
  rw [parse, hrun]
  show final.nodes.toList = _
  rw [hfinal]
  exact Template.consText_empty _

/-- A scan does what the grammar says piece by piece: its nodes are those of the pieces with the texts joined, and
they are rendered like those of the pieces. -/
theorem Template.parse_eq_pieces (s : String) :
    (Template.parse s).nodes = joinTexts (pieces s.toList) ∧
    ∀ (γ : Type) [Context γ] (context : γ),
      (Template.mk (joinTexts (pieces s.toList))).render context =
        (Template.mk (pieces s.toList)).render context := by
  refine ⟨nodes_parse s, ?_⟩
  intro γ _ context
  exact render_joinTexts context (pieces s.toList)

end Stencil
