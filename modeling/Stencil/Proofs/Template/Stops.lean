import Stencil.Proofs.Template.Scan

/-!
# The stops of a scan

A scan stops at the beginning of the text, behind a `}`, and at the end, and nowhere else (`AtStop`). What a step looks
at on the way to the next stop is told by `Scanner.accesses`, and a step fails only if one of these accesses is illegal
(`isSome_step?_iff`). From a stop no step fails, and each stop lies behind the last, so every scan comes to the end of
its text (`accesses_legal_of_reached`).
-/

namespace Stencil

namespace Text

/-- A look into a text: a cut from one offset up to another, or the byte at an offset. -/
inductive Access where
  | cut (i j : Nat)
  | byte (i : Nat)
  deriving DecidableEq

/-- A cut is legal between boundaries that are in order and not behind the end, and a byte is if the text has it. -/
def Access.Legal (s : String) : Access → Prop
  | cut i j => i ≤ j ∧ j ≤ s.utf8ByteSize ∧ IsBoundary s i ∧ IsBoundary s j
  | byte i => i < s.utf8ByteSize

variable {s : String} {i j : Nat}

theorem Access.legal_cut_end_iff : (cut i s.utf8ByteSize).Legal s ↔ IsBoundary s i := by
  constructor
  · exact fun h => h.2.2.1
  · exact fun h => ⟨h.le, Nat.le_refl _, h, isBoundary_end s⟩

theorem isSome_slice?_iff : (slice? s i j).isSome = true ↔ (Access.cut i j).Legal s := by
  unfold slice?
  split
  · rename_i h
    exact iff_of_true rfl ⟨h.2.2, h.2.1.le, h.1, h.2.1⟩
  · rename_i h
    exact iff_of_false (by simp) fun hlegal => h ⟨hlegal.2.2.1, hlegal.2.2.2, hlegal.1⟩

theorem lt_of_findByte?_eq_some {b : UInt8} (h : findByte? s b i = some j) : i ≤ j ∧ j < s.utf8ByteSize := by
  fun_induction findByte? s b i with
  | case1 i hi hb =>
    obtain rfl := Option.some.inj h
    exact ⟨Nat.le_refl _, hi⟩
  | case2 i hi hb ih =>
    obtain ⟨hle, hlt⟩ := ih h
    exact ⟨by omega, hlt⟩
  | case3 i hi => cases h

theorem skipWhile_le {p : UInt8 → Bool} (h : i ≤ s.utf8ByteSize) : skipWhile s p i ≤ s.utf8ByteSize := by
  fun_induction skipWhile s p i with
  | case1 i hi hp ih => exact ih hi
  | case2 i hi hp => exact h
  | case3 i hi => exact h

end Text

open Text (Access Cut)

/-- The bytes that are read to see where a reference that begins at `start` ends: its own, and the one behind it if
there is one. -/
def OpenBrace.readsAfter (s : String) (start : Nat) : List Access :=
  let stop := Text.skipWhile s isReferenceByte start
  (List.range' start (stop - start)).map .byte ++ if stop < s.utf8ByteSize then [.byte stop] else []

theorem OpenBrace.legal_readsAfter {s : String} {start : Nat} (h : start ≤ s.utf8ByteSize) :
    ∀ access ∈ readsAfter s start, access.Legal s := by
  intro access haccess
  have hstop : Text.skipWhile s isReferenceByte start ≤ s.utf8ByteSize := Text.skipWhile_le h
  rcases List.mem_append.mp haccess with hinside | hbehind
  · obtain ⟨i, hi, rfl⟩ := List.mem_map.mp hinside
    rw [List.mem_range'_1] at hi
    show i < s.utf8ByteSize
    omega
  · split at hbehind
    · rename_i hlt
      rw [List.mem_singleton.mp hbehind]
      exact hlt
    · exact absurd hbehind List.not_mem_nil

namespace Scanner

/-! ## What a step looks at -/

def searchAccesses (s : String) (st : Scanner) : List Access :=
  if st.exhausted then []
  else
    .cut st.pos s.utf8ByteSize ::
      match Text.findByte? s '{'.toUInt8 st.pos with
      | some offset => OpenBrace.readsAfter s (offset + 1)
      | none => []

def lookAheadAccesses (s : String) (st : Scanner) : List Access :=
  match st.seen? with
  | some brace => if st.pos ≤ brace.offset then [] else st.searchAccesses s
  | none => st.searchAccesses s

def keepThroughCloseAccesses (s : String) (st : Scanner) : List Access :=
  .cut st.pos s.utf8ByteSize ::
    match Text.findByte? s '}'.toUInt8 st.pos with
    | some close => [.cut st.pos (close + 1)]
    | none => [.cut st.pos s.utf8ByteSize]

/-- All accesses of a step, in order: those of the look ahead, and then those of what it leads to. -/
def accesses (s : String) (st : Scanner) : List Access :=
  st.lookAheadAccesses s ++
    match st.lookAhead? s with
    | some (some ⟨opening, some closing⟩, _) => [.cut st.pos opening, .cut (opening + 1) closing]
    | _ => st.keepThroughCloseAccesses s

variable {s : String} {st next : Scanner}

theorem isSome_search?_iff :
    (st.search? s).isSome = true ↔ ∀ access ∈ st.searchAccesses s, access.Legal s := by
  unfold search? searchAccesses
  by_cases hexhausted : st.exhausted = true
  · rw [if_pos hexhausted, if_pos hexhausted]
    simp
  · rw [if_neg hexhausted, if_neg hexhausted, List.forall_mem_cons, Access.legal_cut_end_iff]
    have hreads : ∀ access ∈ (match Text.findByte? s '{'.toUInt8 st.pos with
        | some offset => OpenBrace.readsAfter s (offset + 1)
        | none => []), access.Legal s := by
      split
      · rename_i offset hoffset
        obtain ⟨-, hlt⟩ := Text.lt_of_findByte?_eq_some hoffset
        exact OpenBrace.legal_readsAfter hlt
      · simp
    by_cases hpos : Text.IsBoundary s st.pos
    · rw [if_pos hpos]
      refine iff_of_true ?_ ⟨hpos, hreads⟩
      split
      · rfl
      · rfl
    · rw [if_neg hpos]
      exact iff_of_false (by simp) fun h => hpos h.1

theorem isSome_lookAhead?_iff :
    (st.lookAhead? s).isSome = true ↔ ∀ access ∈ st.lookAheadAccesses s, access.Legal s := by
  unfold lookAhead? lookAheadAccesses
  cases st.seen? with
  | none => exact isSome_search?_iff
  | some brace =>
    by_cases hle : st.pos ≤ brace.offset
    · simp [hle]
    · simp only [if_neg hle]
      exact isSome_search?_iff

theorem isSome_keepTo?_iff {stop : Nat} :
    (st.keepTo? s stop).isSome = true ↔ (Access.cut st.pos stop).Legal s := by
  rw [keepTo?, Option.isSome_map, Text.isSome_slice?_iff]

theorem isSome_keepThroughClose?_iff :
    (st.keepThroughClose? s).isSome = true ↔ ∀ access ∈ st.keepThroughCloseAccesses s, access.Legal s := by
  unfold keepThroughClose? keepThroughCloseAccesses
  rw [List.forall_mem_cons, Access.legal_cut_end_iff]
  by_cases hpos : Text.IsBoundary s st.pos
  · rw [if_pos hpos, and_iff_right hpos]
    cases Text.findByte? s '}'.toUInt8 st.pos with
    | none => exact isSome_keepTo?_iff.trans List.forall_mem_singleton.symm
    | some close => exact isSome_keepTo?_iff.trans List.forall_mem_singleton.symm
  · rw [if_neg hpos]
    exact iff_of_false (by simp) fun h => hpos h.1

theorem isSome_placeholder?_iff {opening closing : Nat} :
    (st.placeholder? s opening closing).isSome = true ↔
      (Access.cut st.pos opening).Legal s ∧ (Access.cut (opening + 1) closing).Legal s := by
  rw [← isSome_keepTo?_iff, ← Text.isSome_slice?_iff]
  unfold placeholder?
  cases st.keepTo? s opening with
  | none => simp
  | some kept => cases Text.slice? s (opening + 1) closing <;> simp

theorem pos_of_search? {brace? : Option OpenBrace} (h : st.search? s = some (brace?, next)) : next.pos = st.pos := by
  unfold search? at h
  split at h
  · cases h
    rfl
  · split at h
    · split at h
      · cases h
        rfl
      · cases h
        rfl
    · cases h

theorem pos_of_lookAhead? {brace? : Option OpenBrace} (h : st.lookAhead? s = some (brace?, next)) :
    next.pos = st.pos := by
  unfold lookAhead? at h
  split at h
  · split at h
    · cases h
      rfl
    · exact pos_of_search? h
  · exact pos_of_search? h

/-- A step fails only if it looks where it must not. -/
theorem isSome_step?_iff :
    (st.step? s).isSome = true ↔ ∀ access ∈ st.accesses s, access.Legal s := by
  unfold step? accesses
  rw [List.forall_mem_append, ← isSome_lookAhead?_iff]
  cases hlook : st.lookAhead? s with
  | none => simp
  | some found =>
    obtain ⟨brace?, ahead⟩ := found
    have hpos := pos_of_lookAhead? hlook
    have hkeep : (ahead.keepThroughClose? s).isSome = true ↔
        ∀ access ∈ st.keepThroughCloseAccesses s, access.Legal s := by
      rw [isSome_keepThroughClose?_iff, keepThroughCloseAccesses, keepThroughCloseAccesses, hpos]
    cases brace? with
    | none => simpa using hkeep
    | some brace =>
      obtain ⟨opening, closing?⟩ := brace
      cases closing? with
      | none => simpa using hkeep
      | some closing =>
        have hplaceholder : (ahead.placeholder? s opening closing).isSome = true ↔ _ := isSome_placeholder?_iff
        rw [hpos] at hplaceholder
        simpa using hplaceholder

/-! ## From one stop to the next -/

/-- Where a scan can stop. -/
structure AtStop (s : String) (st : Scanner) : Prop where
  sound : Sound s st
  cut : ∃ before after, Cut s st.pos before after ∧ (before = [] ∨ after = [] ∨ before.getLast? = some '}')

theorem atStop_start (s : String) : AtStop s start where
  sound := sound_start s
  cut := ⟨[], s.toList, Cut.start s, .inl rfl⟩

theorem AtStop.step (h : AtStop s st) (hlt : st.pos < s.utf8ByteSize) :
    ∃ next, st.step? s = some next ∧ st.pos < next.pos ∧ AtStop s next := by
  obtain ⟨before, cs, hcut, -⟩ := h.cut
  have hne : cs ≠ [] := hcut.lt_iff.mp hlt
  by_cases hplaceholder : ∃ literal dotted rest, Template.IsPlaceholder cs literal dotted rest
  · obtain ⟨literal, dotted, rest, hp⟩ := hplaceholder
    obtain ⟨next, hstep, hsound, hnext, -, -⟩ := step?_placeholder h.sound hcut hp
    have hpart : Cut s st.pos before (literal ++ '{' :: (dotted ++ ['}']) ++ rest) := by
      have hcs := hp.eq_append ▸ hcut
      simpa using hcs
    have hlast : (before ++ (literal ++ '{' :: (dotted ++ ['}']))).getLast? = some '}' := by
      simp [List.getLast?_append, List.getLast?_cons]
    exact ⟨next, hstep, hpart.lt_of_append hnext (by simp), hsound, _, _, hnext, .inr (.inr hlast)⟩
  · have hnone : ∀ l d r, ¬ Template.IsPlaceholder cs l d r := fun l d r hp => hplaceholder ⟨l, d, r, hp⟩
    by_cases hclose : '}' ∈ cs
    · obtain ⟨body, rest, rfl, hbody⟩ := List.eq_append_cons_of_mem hclose
      have hpart : Cut s st.pos before (body ++ ['}'] ++ rest) := by simpa using hcut
      obtain ⟨next, hstep, hsound, hnext, -, -⟩ :=
        step?_literal h.sound hpart (by simpa using hnone) (.inl ⟨body, rfl, hbody⟩)
      have hlast : (before ++ (body ++ ['}'])).getLast? = some '}' := by
        rw [← List.append_assoc, List.getLast?_concat]
      exact ⟨next, hstep, hpart.lt_of_append hnext (by simp), hsound, _, _, hnext, .inr (.inr hlast)⟩
    · have hpart : Cut s st.pos before (cs ++ []) := by rwa [List.append_nil]
      obtain ⟨next, hstep, hsound, hnext, -, -⟩ :=
        step?_literal h.sound hpart (by simpa using hnone) (.inr ⟨hclose, rfl⟩)
      exact ⟨next, hstep, hpart.lt_of_append hnext hne, hsound, _, _, hnext, .inr (.inl rfl)⟩

theorem AtStop.of_step (h : AtStop s st) (hlt : st.pos < s.utf8ByteSize) (hstep : st.step? s = some next) :
    st.pos < next.pos ∧ AtStop s next := by
  obtain ⟨found, hfound, hadvance, hstop⟩ := h.step hlt
  rw [hstep] at hfound
  obtain rfl := Option.some.inj hfound
  exact ⟨hadvance, hstop⟩

theorem AtStop.isBoundary (h : AtStop s st) : Text.IsBoundary s st.pos := by
  obtain ⟨before, after, hcut, -⟩ := h.cut
  exact hcut.isBoundary

theorem AtStop.pos_eq (h : AtStop s st) :
    st.pos = 0 ∨ st.pos = s.utf8ByteSize ∨ ∃ i, st.pos = i + 1 ∧ Text.byte? s i = some '}'.toUInt8 := by
  obtain ⟨before, after, hcut, rfl | rfl | hlast⟩ := h.cut
  · exact .inl hcut.offset_eq
  · have hend := hcut.finish.offset_eq
    rw [List.append_nil] at hend
    exact .inr (.inl (hcut.offset_eq.trans hend.symm))
  · obtain ⟨body, rfl⟩ := List.getLast?_eq_some_iff.mp hlast
    have hclose : Cut s (Text.bytesOf body).length body ('}' :: after) :=
      ⟨by rw [hcut.toList_eq, List.append_assoc, List.singleton_append], rfl⟩
    refine .inr (.inr ⟨(Text.bytesOf body).length, ?_, hclose.byte?_cons close_ascii⟩)
    rw [hcut.offset_eq, (hclose.push close_ascii).offset_eq]

/-! ## Whole scans -/

/-- The states that a scan of the text comes through, with the number of steps to each. -/
inductive Reached (s : String) : Nat → Scanner → Prop where
  | start : Reached s 0 start
  | step {n : Nat} {st next : Scanner} (h : Reached s n st) (hlt : st.pos < s.utf8ByteSize)
      (hstep : st.step? s = some next) : Reached s (n + 1) next

variable {n : Nat}

theorem Reached.atStop (h : Reached s n st) : AtStop s st := by
  induction h with
  | start => exact atStop_start s
  | step _ hlt hstep ih => exact (ih.of_step hlt hstep).2

/-- Every step takes at least one byte. -/
theorem Reached.le_pos (h : Reached s n st) : n ≤ st.pos := by
  induction h with
  | start => exact Nat.le_refl _
  | step h hlt hstep ih =>
    have hadvance := (h.atStop.of_step hlt hstep).1
    omega

theorem Reached.exists_end (h : Reached s n st) :
    ∃ m last, Reached s m last ∧ last.pos = s.utf8ByteSize ∧ st.run? s = some last.flush := by
  -- every step leaves less of the text
  induction hleft : s.utf8ByteSize - st.pos using Nat.strongRecOn generalizing n st with
  | _ left ih =>
    have hle : st.pos ≤ s.utf8ByteSize := h.atStop.isBoundary.le
    by_cases hlt : st.pos < s.utf8ByteSize
    · obtain ⟨next, hstep, hadvance, -⟩ := h.atStop.step hlt
      obtain ⟨m, last, hlast, hend, hrun⟩ := ih (s.utf8ByteSize - next.pos) (by omega) (h.step hlt hstep) rfl
      refine ⟨m, last, hlast, hend, ?_⟩
      rw [run?, if_pos hlt, hstep]
      simp only [if_pos hadvance]
      exact hrun
    · refine ⟨n, st, h, by omega, ?_⟩
      rw [run?, if_neg hlt]

/-- A step is made exactly if all that it looks at is legal. Wherever a scan comes, it stands at a boundary: at the
beginning, at the end or behind a `}`. As long as text is left, all that its next step looks at is legal, and the step
leads further on. So every scan ends, after no more steps than the text has bytes, and what it has read then is the
template. -/
theorem accesses_legal_of_reached (s : String) :
    (∀ st : Scanner, (st.step? s).isSome = true ↔ ∀ access ∈ st.accesses s, access.Legal s) ∧
    (∀ n st, Reached s n st →
      (Text.IsBoundary s st.pos ∧ st.pos ≤ s.utf8ByteSize ∧
        (st.pos = 0 ∨ st.pos = s.utf8ByteSize ∨ ∃ i, st.pos = i + 1 ∧ Text.byte? s i = some '}'.toUInt8)) ∧
      (st.pos < s.utf8ByteSize →
        (∀ access ∈ st.accesses s, access.Legal s) ∧ ∃ next, st.step? s = some next ∧ st.pos < next.pos)) ∧
    ∃ n last, n ≤ s.utf8ByteSize ∧ Reached s n last ∧ last.pos = s.utf8ByteSize ∧
      start.run? s = some last.flush ∧ (Template.parse s).nodes = last.flush.nodes.toList := by
  refine ⟨fun st => isSome_step?_iff, ?_, ?_⟩
  · intro n st h
    have hboundary := h.atStop.isBoundary
    refine ⟨⟨hboundary, hboundary.le, h.atStop.pos_eq⟩, ?_⟩
    intro hlt
    obtain ⟨next, hstep, hadvance, -⟩ := h.atStop.step hlt
    refine ⟨isSome_step?_iff.mp ?_, next, hstep, hadvance⟩
    rw [hstep, Option.isSome_some]
  · obtain ⟨n, last, hlast, hend, hrun⟩ := (Reached.start (s := s)).exists_end
    have hsteps := hlast.le_pos
    refine ⟨n, last, by omega, hlast, hend, hrun, ?_⟩
    rw [Template.parse, hrun]
    rfl

theorem accesses_legal_of_reached_behind_brace :
    let s := "\x7dé\x7b é\x7d\x7bab\x7d"
    let st : Scanner := ⟨8, "\x7dé\x7b é\x7d", #[], some ⟨3, none⟩, false⟩
    (Reached s 2 st ∧ st.pos < s.utf8ByteSize) ∧
    st.accesses s = [.cut 8 12, .byte 9, .byte 10, .byte 11, .cut 8 8, .cut 9 11] ∧
    (∀ access ∈ st.accesses s, access.Legal s) ∧ ∃ next, st.step? s = some next ∧ st.pos < next.pos := by
  intro s st
  have hfirst : start.step? s = some ⟨1, "\x7d", #[], some ⟨3, none⟩, false⟩ := by decide +kernel
  have hsecond : Scanner.step? s ⟨1, "\x7d", #[], some ⟨3, none⟩, false⟩ = some st := by decide +kernel
  have hbegin : (0 : Nat) < s.utf8ByteSize := by decide +kernel
  have hbehind : (1 : Nat) < s.utf8ByteSize := by decide +kernel
  have hlt : (8 : Nat) < s.utf8ByteSize := by decide +kernel
  have haccesses : st.accesses s = [.cut 8 12, .byte 9, .byte 10, .byte 11, .cut 8 8, .cut 9 11] := by decide +kernel
  have hreached : Reached s 2 st := .step (.step .start hbegin hfirst) hbehind hsecond
  obtain ⟨hlegal, hnext⟩ := ((accesses_legal_of_reached s).2.1 2 st hreached).2 hlt
  exact ⟨⟨hreached, hlt⟩, haccesses, hlegal, hnext⟩

end Scanner

end Stencil
