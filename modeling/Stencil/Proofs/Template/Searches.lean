import Stencil.Proofs.Template.Stops

/-!
# The searches of a scan

Looking ahead searches for the first `{` only where what is remembered does not tell it (`Scanner.fresh?`,
`Scanner.lookAhead?_eq_fresh?`). A run is told together with its searches (`Scanner.Searched`). What is remembered is
the outcome of the last one (`Searched.memory`); a new one begins behind all that the earlier ones have looked at
(`Searched.pairwise`), so no `{` is scanned twice, and a search that finds nothing is the last (`searches_once`).
-/

namespace Stencil

namespace Text

variable {s : String} {b : UInt8} {i j : Nat}

theorem byte?_eq_none (h : s.utf8ByteSize ≤ i) : byte? s i = none :=
  dif_neg (Nat.not_lt.mpr h)

theorem findByte?_eq_some_iff : findByte? s b i = some j ↔
    i ≤ j ∧ byte? s j = some b ∧ ∀ k, i ≤ k → k < j → byte? s k ≠ some b := by
  fun_induction findByte? s b i with
  | case1 i hi hb =>
    have hbyte : byte? s i = some b := by rw [byte?, dif_pos hi, hb]
    constructor
    · intro h
      obtain rfl := Option.some.inj h
      exact ⟨Nat.le_refl _, hbyte, fun k hle hlt => by omega⟩
    · rintro ⟨hle, -, hbefore⟩
      rcases Nat.eq_or_lt_of_le hle with rfl | hlt
      · rfl
      · exact absurd hbyte (hbefore i (Nat.le_refl _) hlt)
  | case2 i hi hb ih =>
    have hbyte : byte? s i ≠ some b := by
      rw [byte?, dif_pos hi]
      exact fun h => hb (Option.some.inj h)
    rw [ih]
    constructor
    · rintro ⟨hle, hj, hbefore⟩
      refine ⟨by omega, hj, fun k hk hlt => ?_⟩
      rcases Nat.eq_or_lt_of_le hk with rfl | hk
      · exact hbyte
      · exact hbefore k hk hlt
    · rintro ⟨hle, hj, hbefore⟩
      refine ⟨?_, hj, fun k hk hlt => hbefore k (by omega) hlt⟩
      rcases Nat.eq_or_lt_of_le hle with rfl | hlt
      · exact absurd hj hbyte
      · exact hlt
  | case3 i hi =>
    refine iff_of_false (by simp) ?_
    rintro ⟨hle, hj, -⟩
    rw [byte?_eq_none (by omega)] at hj
    cases hj

theorem findByte?_eq_none_iff : findByte? s b i = none ↔ ∀ k, i ≤ k → byte? s k ≠ some b := by
  fun_induction findByte? s b i with
  | case1 i hi hb =>
    refine iff_of_false (by simp) fun h => h i (Nat.le_refl _) ?_
    rw [byte?, dif_pos hi, hb]
  | case2 i hi hb ih =>
    rw [ih]
    constructor
    · intro h k hk
      rcases Nat.eq_or_lt_of_le hk with rfl | hk
      · rw [byte?, dif_pos hi]
        exact fun h => hb (Option.some.inj h)
      · exact h k hk
    · exact fun h k hk => h k (by omega)
  | case3 i hi =>
    refine iff_of_true rfl fun k hk => ?_
    rw [byte?_eq_none (by omega)]
    simp

theorem le_skipWhile (s : String) (p : UInt8 → Bool) (i : Nat) : i ≤ skipWhile s p i := by
  rw [skipWhile_eq]
  exact Nat.le_add_right _ _

/-- A run of bytes of a class does not go beyond a byte that is not in it. -/
theorem skipWhile_le_of_byte? {p : UInt8 → Bool} (hj : byte? s j = some b) (hb : p b = false) (hle : i ≤ j) :
    skipWhile s p i ≤ j := by
  fun_induction skipWhile s p i with
  | case1 i hi hp ih =>
    refine ih (Nat.lt_of_le_of_ne hle ?_)
    rintro rfl
    rw [byte?, dif_pos hi] at hj
    rw [Option.some.inj hj, hb] at hp
    cases hp
  | case2 i hi hp => exact hle
  | case3 i hi => exact hle

end Text

namespace OpenBrace

variable {s : String} {pos : Nat} {brace : OpenBrace}

/-- Where the scan behind the brace stops: at the first byte that no reference is written with, or at the end. -/
def scanEnd (s : String) (brace : OpenBrace) : Nat :=
  Text.skipWhile s isReferenceByte (brace.offset + 1)

theorem lt_scanEnd (s : String) (brace : OpenBrace) : brace.offset < brace.scanEnd s :=
  Text.le_skipWhile s isReferenceByte (brace.offset + 1)

theorem after?_eq_some_iff : after? s pos = some brace ↔
    (pos ≤ brace.offset ∧ Text.byte? s brace.offset = some '{'.toUInt8 ∧
      ∀ i, pos ≤ i → i < brace.offset → Text.byte? s i ≠ some '{'.toUInt8) ∧
    brace.closing? = closingAfter? s (brace.offset + 1) := by
  unfold after?
  rw [Option.map_eq_some_iff]
  constructor
  · rintro ⟨offset, hoffset, rfl⟩
    exact ⟨Text.findByte?_eq_some_iff.mp hoffset, rfl⟩
  · rintro ⟨hfirst, hclosing⟩
    refine ⟨brace.offset, Text.findByte?_eq_some_iff.mpr hfirst, ?_⟩
    rw [← hclosing]

theorem after?_eq_none_iff : after? s pos = none ↔ ∀ i, pos ≤ i → Text.byte? s i ≠ some '{'.toUInt8 := by
  unfold after?
  rw [Option.map_eq_none_iff, Text.findByte?_eq_none_iff]

end OpenBrace

namespace Scanner

/-- A search for the first `{` ahead: from where, and what was found. -/
structure Search where
  start : Nat
  found? : Option OpenBrace
  deriving DecidableEq

/-- The search that looking ahead makes, unless what is remembered spares it. -/
def fresh? (s : String) (st : Scanner) : Option Search :=
  if st.exhausted || st.seen?.any (st.pos ≤ ·.offset) then none
  else some ⟨st.pos, OpenBrace.after? s st.pos⟩

/-- The earlier search has found a brace, and the later one begins behind it and behind all that was scanned there, so
what it finds is farther on. -/
def Search.Precedes (s : String) (earlier later : Search) : Prop :=
  ∃ brace, earlier.found? = some brace ∧ brace.offset < later.start ∧ brace.scanEnd s < later.start ∧
    ∀ next, later.found? = some next → brace.offset < next.offset ∧ brace.scanEnd s ≤ next.offset

/-- The states that a scan of the text comes through, with the searches up to each, in order. -/
inductive Searched (s : String) : List Search → Scanner → Prop where
  | start : Searched s [] start
  | step {searches : List Search} {st next : Scanner} (h : Searched s searches st) (hlt : st.pos < s.utf8ByteSize)
      (hstep : st.step? s = some next) : Searched s (searches ++ (st.fresh? s).toList) next

variable {s : String} {st next : Scanner} {search : Search} {searches : List Search} {n : Nat}

/-! ## One search -/

theorem fresh?_eq_none_iff : st.fresh? s = none ↔
    st.exhausted = true ∨ ∃ brace, st.seen? = some brace ∧ st.pos ≤ brace.offset := by
  unfold fresh?
  cases st.seen? with
  | none => simp
  | some brace => cases st.exhausted <;> simp

theorem fresh?_eq_some_iff : st.fresh? s = some search ↔
    (st.exhausted = false ∧ ∀ brace, st.seen? = some brace → brace.offset < st.pos) ∧
    search = ⟨st.pos, OpenBrace.after? s st.pos⟩ := by
  unfold fresh?
  cases st.seen? with
  | none => cases st.exhausted <;> simp [eq_comm]
  | some brace => cases st.exhausted <;> simp [eq_comm]

theorem search?_of_exhausted (h : st.exhausted = true) : st.search? s = some (none, st) := by
  rw [search?, if_pos h]

theorem search?_of_not_exhausted (h : st.exhausted = false) : st.search? s =
    if Text.IsBoundary s st.pos then
      some (OpenBrace.after? s st.pos,
        { st with seen? := OpenBrace.after? s st.pos, exhausted := (OpenBrace.after? s st.pos).isNone })
    else none := by
  rw [search?, if_neg (by simp [h])]
  cases OpenBrace.after? s st.pos with
  | none => rfl
  | some brace => rw [Option.isNone_some, ← h]

/-- Looking ahead makes the search, if there is one to make. Otherwise it does not look at the text. -/
theorem lookAhead?_eq_fresh? (s : String) (st : Scanner) : st.lookAhead? s =
    match st.fresh? s with
    | none => some (st.seen?.filter (st.pos ≤ ·.offset), st)
    | some search =>
      if Text.IsBoundary s st.pos then
        some (search.found?, { st with seen? := search.found?, exhausted := search.found?.isNone })
      else none := by
  unfold lookAhead? fresh?
  cases hseen : st.seen? with
  | none =>
    cases hexhausted : st.exhausted with
    | true => simp [search?_of_exhausted hexhausted]
    | false => simp [search?_of_not_exhausted hexhausted]
  | some brace =>
    by_cases hle : st.pos ≤ brace.offset
    · simp [hle, Option.filter_some]
    · cases hexhausted : st.exhausted with
      | true => simp [hle, search?_of_exhausted hexhausted, Option.filter_some]
      | false => simp [hle, search?_of_not_exhausted hexhausted]

theorem memory_of_placeholder? {opening closing : Nat} (h : st.placeholder? s opening closing = some next) :
    next.seen? = st.seen? ∧ next.exhausted = st.exhausted := by
  unfold placeholder? keepTo? at h
  cases hslice : Text.slice? s st.pos opening with
  | none => simp [hslice] at h
  | some part =>
    cases hdotted : Text.slice? s (opening + 1) closing with
    | none => simp [hslice, hdotted] at h
    | some dotted =>
      simp only [hslice, hdotted] at h
      obtain rfl := Option.some.inj h
      exact ⟨flush_seen? _, flush_exhausted _⟩

theorem memory_of_keepThroughClose? (h : st.keepThroughClose? s = some next) :
    next.seen? = st.seen? ∧ next.exhausted = st.exhausted := by
  unfold keepThroughClose? keepTo? at h
  split at h
  · split at h
    · obtain ⟨part, -, rfl⟩ := Option.map_eq_some_iff.mp h
      exact ⟨rfl, rfl⟩
    · obtain ⟨part, -, rfl⟩ := Option.map_eq_some_iff.mp h
      exact ⟨rfl, rfl⟩
  · cases h

/-- A step remembers what looking ahead remembers. -/
theorem exists_lookAhead?_of_step? (hstep : st.step? s = some next) :
    ∃ brace? ahead, st.lookAhead? s = some (brace?, ahead) ∧ next.seen? = ahead.seen? ∧
      next.exhausted = ahead.exhausted := by
  unfold step? at hstep
  obtain ⟨⟨brace?, ahead⟩, hlook, hnext⟩ := Option.bind_eq_some_iff.mp hstep
  refine ⟨brace?, ahead, hlook, ?_⟩
  rcases brace? with _ | ⟨opening, _ | closing⟩
  · exact memory_of_keepThroughClose? hnext
  · exact memory_of_keepThroughClose? hnext
  · exact memory_of_placeholder? hnext

theorem memory_of_fresh?_eq_none (hstep : st.step? s = some next) (h : st.fresh? s = none) :
    next.seen? = st.seen? ∧ next.exhausted = st.exhausted := by
  obtain ⟨brace?, ahead, hlook, hmemory⟩ := exists_lookAhead?_of_step? hstep
  rw [lookAhead?_eq_fresh?, h] at hlook
  cases hlook
  exact hmemory

theorem memory_of_fresh?_eq_some (hstep : st.step? s = some next) (h : st.fresh? s = some search) :
    next.seen? = search.found? ∧ next.exhausted = search.found?.isNone := by
  obtain ⟨brace?, ahead, hlook, hmemory⟩ := exists_lookAhead?_of_step? hstep
  rw [lookAhead?_eq_fresh?, h] at hlook
  simp only at hlook
  split at hlook
  · cases hlook
    exact hmemory
  · cases hlook

/-! ## All searches of a run -/

theorem Searched.reached (h : Searched s searches st) : ∃ n, Reached s n st := by
  induction h with
  | start => exact ⟨0, .start⟩
  | step _ hlt hstep ih =>
    obtain ⟨n, hn⟩ := ih
    exact ⟨n + 1, hn.step hlt hstep⟩

theorem Reached.exists_searched (h : Reached s n st) : ∃ searches, Searched s searches st := by
  induction h with
  | start => exact ⟨[], .start⟩
  | step _ hlt hstep ih =>
    obtain ⟨searches, hsearches⟩ := ih
    exact ⟨_, hsearches.step hlt hstep⟩

theorem Searched.atStop (h : Searched s searches st) : AtStop s st := by
  obtain ⟨n, hn⟩ := h.reached
  exact hn.atStop

/-- Every search finds what a look at the text finds from where it starts. -/
theorem Searched.found?_eq (h : Searched s searches st) :
    ∀ search ∈ searches, search.found? = OpenBrace.after? s search.start := by
  induction h with
  | start => simp
  | @step searches st next _ hlt hstep ih =>
    intro search hsearch
    rcases List.mem_append.mp hsearch with hsearch | hsearch
    · exact ih search hsearch
    · have hfresh := Option.mem_toList.mp hsearch
      rw [(fresh?_eq_some_iff.mp hfresh).2]

/-- The outcome of the last search is what is remembered. -/
theorem Searched.memory (h : Searched s searches st) :
    st.seen? = searches.getLast?.bind Search.found? ∧
      st.exhausted = searches.getLast?.any (·.found?.isNone) := by
  induction h with
  | start => exact ⟨rfl, rfl⟩
  | @step searches st next _ hlt hstep ih =>
    cases hfresh : st.fresh? s with
    | none =>
      obtain ⟨hseen, hexhausted⟩ := memory_of_fresh?_eq_none hstep hfresh
      rw [hseen, hexhausted, Option.toList_none, List.append_nil]
      exact ih
    | some search =>
      obtain ⟨hseen, hexhausted⟩ := memory_of_fresh?_eq_some hstep hfresh
      rw [hseen, hexhausted, Option.toList_some, List.getLast?_concat]
      exact ⟨rfl, rfl⟩

/-- At a stop that is not the end, a brace that has been passed has been passed with all that was scanned behind it. -/
theorem AtStop.scanEnd_lt {brace : OpenBrace} (h : AtStop s st) (hlt : st.pos < s.utf8ByteSize)
    (hbyte : Text.byte? s brace.offset = some '{'.toUInt8) (hpassed : brace.offset < st.pos) :
    brace.scanEnd s < st.pos := by
  rcases h.pos_eq with hzero | hend | ⟨i, hi, hclose⟩
  · omega
  · omega
  · have hne : brace.offset ≠ i := by
      rintro rfl
      rw [hbyte] at hclose
      exact absurd hclose (by decide)
    have hstop : brace.scanEnd s ≤ i :=
      Text.skipWhile_le_of_byte? hclose (by decide) (by omega)
    omega

theorem Search.Precedes.of_scanEnd_lt {earlier later : Search} {brace : OpenBrace}
    (hfound : earlier.found? = some brace) (hlt : brace.scanEnd s < later.start)
    (hlater : later.found? = OpenBrace.after? s later.start) : Precedes s earlier later := by
  have hscan := brace.lt_scanEnd s
  refine ⟨brace, hfound, by omega, hlt, fun next hnext => ?_⟩
  rw [hlater] at hnext
  have hle := (OpenBrace.after?_eq_some_iff.mp hnext).1.1
  omega

theorem eq_or_precedes_last (hpairwise : searches.Pairwise (Search.Precedes s)) (h : search ∈ searches) :
    ∃ last ∈ searches, searches.getLast? = some last ∧ (search = last ∨ Search.Precedes s search last) := by
  rcases List.eq_nil_or_concat searches with rfl | ⟨before, last, rfl⟩
  · cases h
  · rw [List.concat_eq_append] at *
    refine ⟨last, by simp, List.getLast?_concat, ?_⟩
    rcases List.mem_append.mp h with hbefore | hlast
    · exact .inr ((List.pairwise_append.mp hpairwise).2.2 search hbefore last (by simp))
    · exact .inl (List.mem_singleton.mp hlast)

/-- A search that is made begins behind all that the searches before it have looked at. -/
theorem Searched.precedes_fresh? (h : Searched s searches st) (hlt : st.pos < s.utf8ByteSize)
    (hpairwise : searches.Pairwise (Search.Precedes s)) (hfresh : st.fresh? s = some search) :
    ∀ earlier ∈ searches, Search.Precedes s earlier search := by
  obtain ⟨⟨hexhausted, hpassed⟩, rfl⟩ := fresh?_eq_some_iff.mp hfresh
  obtain ⟨hseen, hfailed⟩ := h.memory
  intro earlier hearlier
  obtain ⟨last, hmem, hlast, hcase⟩ := eq_or_precedes_last hpairwise hearlier
  rw [hlast, Option.bind_some] at hseen
  rw [hlast, hexhausted, Option.any_some] at hfailed
  cases hfound : last.found? with
  | none => simp [hfound] at hfailed
  | some brace =>
    have hafter := hfound.symm.trans (h.found?_eq last hmem)
    have hbyte := (OpenBrace.after?_eq_some_iff.mp hafter.symm).1.2.1
    have hend := h.atStop.scanEnd_lt hlt hbyte (hpassed brace (hseen.trans hfound))
    rcases hcase with rfl | ⟨first, hfirst, -, -, hnext⟩
    · exact .of_scanEnd_lt hfound hend rfl
    · have hle := (hnext brace hfound).2
      have hscan := brace.lt_scanEnd s
      exact .of_scanEnd_lt hfirst (show first.scanEnd s < st.pos by omega) rfl

theorem Searched.pairwise (h : Searched s searches st) : searches.Pairwise (Search.Precedes s) := by
  induction h with
  | start => exact .nil
  | @step searches st next h hlt hstep ih =>
    refine List.pairwise_append.mpr ⟨ih, ?_, ?_⟩
    · cases st.fresh? s with
      | none => exact .nil
      | some search => exact List.pairwise_singleton _ search
    · intro earlier hearlier later hlater
      exact h.precedes_fresh? hlt ih (Option.mem_toList.mp hlater) earlier hearlier

/-- No brace is found twice. -/
theorem Searched.pairwise_offset (h : Searched s searches st) :
    ((searches.filterMap Search.found?).map OpenBrace.offset).Pairwise (· < ·) := by
  rw [List.pairwise_map, List.pairwise_filterMap]
  refine h.pairwise.imp fun {earlier later} hprecedes => ?_
  obtain ⟨brace, hfound, -, -, hnext⟩ := hprecedes
  intro first hfirst second hsecond
  obtain rfl : brace = first := Option.some.inj (hfound.symm.trans hfirst)
  exact (hnext second hsecond).1

/-- After a search that has found nothing, the text is not looked at for another `{`. -/
theorem Searched.lookAhead?_of_failed (h : Searched s searches st) (hsearch : search ∈ searches)
    (hfailed : search.found? = none) (text : String) : st.lookAhead? text = some (none, st) := by
  obtain ⟨hseen, hexhausted⟩ := h.memory
  obtain ⟨last, -, hlast, rfl | ⟨brace, hfound, -⟩⟩ := eq_or_precedes_last h.pairwise hsearch
  · simp only [hlast, Option.bind_some, Option.any_some, hfailed, Option.isNone_none] at hseen hexhausted
    have hfresh : st.fresh? text = none := fresh?_eq_none_iff.mpr (.inl hexhausted)
    rw [lookAhead?_eq_fresh?, hfresh, hseen]
    rfl
  · rw [hfailed] at hfound
    cases hfound

/-- Looking ahead searches the text only if it makes the search that `fresh?` tells. Wherever a scan comes, it finds
the first `{` ahead and the `}` that closes a placeholder there, as a search from that place does. The searches of a run
come one behind the other: each begins behind the brace that an earlier one has found and behind all that was scanned
there, so no brace is found twice. After a search that finds nothing there is no other. -/
theorem searches_once (s : String) :
    (∀ st : Scanner, st.lookAhead? s =
      match st.fresh? s with
      | none => some (st.seen?.filter (st.pos ≤ ·.offset), st)
      | some search =>
        if Text.IsBoundary s st.pos then
          some (search.found?, { st with seen? := search.found?, exhausted := search.found?.isNone })
        else none) ∧
    (∀ pos,
      (OpenBrace.after? s pos = none ↔ ∀ i, pos ≤ i → Text.byte? s i ≠ some '{'.toUInt8) ∧
      ∀ brace, OpenBrace.after? s pos = some brace ↔
        (pos ≤ brace.offset ∧ Text.byte? s brace.offset = some '{'.toUInt8 ∧
          ∀ i, pos ≤ i → i < brace.offset → Text.byte? s i ≠ some '{'.toUInt8) ∧
        brace.closing? = OpenBrace.closingAfter? s (brace.offset + 1)) ∧
    (∀ searches st, Searched s searches st →
      (∃ ahead, st.lookAhead? s = some (OpenBrace.after? s st.pos, ahead)) ∧
      (∀ search ∈ searches, search.found? = OpenBrace.after? s search.start) ∧
      searches.Pairwise (Search.Precedes s) ∧
      ((searches.filterMap Search.found?).map OpenBrace.offset).Pairwise (· < ·) ∧
      ∀ search ∈ searches, search.found? = none → ∀ text, st.lookAhead? text = some (none, st)) ∧
    ∃ searches last, Searched s searches last ∧ last.pos = s.utf8ByteSize ∧ start.run? s = some last.flush := by
  refine ⟨lookAhead?_eq_fresh? s, ?_, ?_, ?_⟩
  · intro pos
    exact ⟨OpenBrace.after?_eq_none_iff, fun brace => OpenBrace.after?_eq_some_iff⟩
  · intro searches st h
    obtain ⟨seen?, exhausted, -, hlook⟩ := lookAhead?_eq h.atStop.sound h.atStop.isBoundary
    exact ⟨⟨_, hlook⟩, h.found?_eq, h.pairwise, h.pairwise_offset, fun search => h.lookAhead?_of_failed⟩
  · obtain ⟨n, last, hlast, hend, hrun⟩ := (Reached.start (s := s)).exists_end
    obtain ⟨searches, hsearches⟩ := hlast.exists_searched
    exact ⟨searches, last, hsearches, hend, hrun⟩

theorem searches_once_stray_braces :
    let s := "\x7d\x7ba b\x7d\x7bc\x7d\x7d"
    let searches : List Search := [⟨0, some ⟨1, none⟩⟩, ⟨6, some ⟨6, some 8⟩⟩, ⟨9, none⟩]
    let last : Scanner := ⟨10, "\x7d", #[.text "\x7d\x7ba b\x7d", .reference ["c"]], none, true⟩
    Searched s searches last ∧ searches.Pairwise (Search.Precedes s) ∧
    ∀ text, last.lookAhead? text = some (none, last) := by
  intro s searches last
  let first : Scanner := ⟨1, "\x7d", #[], some ⟨1, none⟩, false⟩
  let second : Scanner := ⟨6, "\x7d\x7ba b\x7d", #[], some ⟨1, none⟩, false⟩
  let third : Scanner := ⟨9, "", #[.text "\x7d\x7ba b\x7d", .reference ["c"]], some ⟨6, some 8⟩, false⟩
  have hfirst : start.fresh? s = some ⟨0, some ⟨1, none⟩⟩ ∧ start.step? s = some first := by decide +kernel
  have hsecond : first.fresh? s = none ∧ first.step? s = some second := by decide +kernel
  have hthird : second.fresh? s = some ⟨6, some ⟨6, some 8⟩⟩ ∧ second.step? s = some third := by decide +kernel
  have hlast : third.fresh? s = some ⟨9, none⟩ ∧ third.step? s = some last := by decide +kernel
  have hsize : s.utf8ByteSize = 10 := by decide +kernel
  have h₁ := Searched.step .start (by rw [hsize]; decide) hfirst.2
  have h₂ := h₁.step (by rw [hsize]; decide) hsecond.2
  have h₃ := h₂.step (by rw [hsize]; decide) hthird.2
  have h₄ := h₃.step (by rw [hsize]; decide) hlast.2
  rw [hfirst.1, hsecond.1, hthird.1, hlast.1] at h₄
  obtain ⟨-, -, hpairwise, -, hspared⟩ := (searches_once s).2.2.1 _ _ h₄
  exact ⟨h₄, hpairwise, hspared ⟨9, none⟩ (by decide) rfl⟩

end Scanner

end Stencil
