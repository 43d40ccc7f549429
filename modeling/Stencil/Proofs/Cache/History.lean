import Stencil.Cache.History
import Stencil.Proofs.Cache.Entries
import Stencil.Proofs.Template.Canonical

/-!
# What a session shows

To its user a session is one table of handles under pairs of a cache number and a source, its origins
(`Session.find?`). An operation enters at most one handle in it, under the origin that it asks for, and what is
entered stays (`find?_perform`). So a history tells what is in the table of the session that it leads to, and the
handles that were kept are those in the table.
-/

namespace Stencil

/-- An operation asks for the handle that it keeps. -/
theorem Operation.asked?_of_kept? {op : Operation} {origin : Nat × String} (h : op.kept? = some origin) :
    op.asked? = some origin := by
  cases op with
  | compile number source => exact h
  | newCache | evaluate number source context | contains number source | size number | isEmpty number => cases h

namespace Session

/-- The handle that a cache has for a source. -/
def find? (s : Session) (origin : Nat × String) : Option Handle :=
  (s.cache origin.1).find? origin.2

/-- The invariant of a session: its caches are sound, and their handles are told apart by stamps that count up. -/
structure Sound (s : Session) : Prop where
  caches : ∀ cache ∈ s.caches, cache.Sound
  stamp_lt : ∀ origin handle, s.find? origin = some handle → handle.stamp < s.fresh
  stamp_inj : ∀ origin handle other handle', s.find? origin = some handle → s.find? other = some handle' →
    handle.stamp = handle'.stamp → origin = other

variable {s : Session} {number : Nat} {source : String} {origin : Nat × String} {handle : Handle}

/-! ## Caches by number -/

theorem cache_mem_or_eq_empty (s : Session) (number : Nat) : s.cache number ∈ s.caches ∨ s.cache number = .empty := by
  rw [cache, List.getD_eq_getElem?_getD]
  cases h : s.caches[number]? with
  | some cache => exact .inl (List.mem_of_getElem? h)
  | none => exact .inr rfl

theorem Sound.cache (h : s.Sound) (number : Nat) : (s.cache number).Sound := by
  rcases cache_mem_or_eq_empty s number with hmem | hempty
  · exact h.caches _ hmem
  · rw [hempty]
    exact Cache.sound_empty

/-- A cache that is there may be empty, so a new cache changes none. -/
theorem cache_newCache (s : Session) (number : Nat) : s.newCache.cache number = s.cache number := by
  rw [Session.cache, Session.cache, newCache, List.getD_eq_getElem?_getD, List.getD_eq_getElem?_getD]
  rcases lt_or_ge number s.caches.length with hlt | hle
  · rw [List.getElem?_append_left hlt]
  · rw [List.getElem?_append_right hle, List.getElem?_eq_none hle]
    cases number - s.caches.length <;> rfl

theorem find?_newCache (s : Session) (origin : Nat × String) : s.newCache.find? origin = s.find? origin := by
  rw [find?, cache_newCache, find?]

/-! ## Compiling -/

theorem compile_eq (s : Session) (number : Nat) (source : String) :
    s.compile number source = (((s.cache number).settle s.fresh source).2.1,
      { s with caches := s.caches.set number ((s.cache number).settle s.fresh source).2.2, fresh := s.fresh + 1 }) := by
  rw [← Cache.compile_snd]
  rfl

/-- What is in the table is given out, and what is not is compiled under the next stamp. -/
theorem compile_fst (s : Session) (number : Nat) (source : String) :
    (s.compile number source).1 = (s.find? (number, source)).getD ⟨s.fresh, Template.parse source⟩ := by
  rw [compile_eq]
  exact Cache.settle_handle (s.cache number) s.fresh source

theorem cache_compile (hnumber : number < s.caches.length) (source : String) (other : Nat) :
    (s.compile number source).2.cache other =
      if other = number then ((s.cache number).settle s.fresh source).2.2 else s.cache other := by
  rw [compile_eq, Session.cache, List.getD_eq_getElem?_getD]
  split
  · rename_i heq
    rw [heq, List.getElem?_set_self hnumber, Option.getD_some]
  · rename_i hne
    rw [List.getElem?_set_ne (Ne.symm hne), Session.cache, List.getD_eq_getElem?_getD]

theorem find?_compile (hnumber : number < s.caches.length) (source : String) (origin : Nat × String) :
    (s.compile number source).2.find? origin =
      if origin = (number, source) then some (s.compile number source).1 else s.find? origin := by
  obtain ⟨other, text⟩ := origin
  rw [find?, cache_compile hnumber, compile_eq, find?]
  by_cases hother : other = number
  · rw [if_pos hother, Cache.find?_settle, hother]
    by_cases htext : text = source
    · rw [if_pos htext, if_pos (by rw [htext])]
    · rw [if_neg htext, if_neg fun heq => htext (Prod.mk.inj heq).2]
  · rw [if_neg hother, if_neg fun heq => hother (Prod.mk.inj heq).1]

/-- Compiling enters a new handle in the table or nothing. -/
theorem find?_compile_cases (hnumber : number < s.caches.length)
    (h : (s.compile number source).2.find? origin = some handle) :
    s.find? origin = some handle ∨ (origin = (number, source) ∧ handle = ⟨s.fresh, Template.parse source⟩) := by
  rw [find?_compile hnumber, compile_fst] at h
  split at h
  · rename_i heq
    cases hfind : s.find? (number, source) with
    | some found =>
      rw [hfind] at h
      exact .inl (by rw [heq, hfind]; exact h)
    | none =>
      rw [hfind] at h
      exact .inr ⟨heq, (Option.some.inj h).symm⟩
  · exact .inl h

theorem Sound.template_eq_parse (h : s.Sound) (hfind : s.find? origin = some handle) :
    handle.template = Template.parse origin.2 :=
  (h.cache origin.1).template_eq_parse hfind

theorem Sound.template_compile (h : s.Sound) (number : Nat) (source : String) :
    (s.compile number source).1.template = Template.parse source := by
  rw [compile_fst]
  cases hfind : s.find? (number, source) with
  | some handle => exact h.template_eq_parse hfind
  | none => rfl

/-! ## The invariant -/

theorem find?_start (count : Nat) (origin : Nat × String) : (start count).find? origin = none := by
  have hcache : (start count).cache origin.1 = .empty := by
    rcases cache_mem_or_eq_empty (start count) origin.1 with hmem | hempty
    · exact List.eq_of_mem_replicate hmem
    · exact hempty
  rw [find?, hcache, Cache.find?_empty]

theorem sound_start (count : Nat) : (start count).Sound := by
  refine ⟨?_, ?_, ?_⟩
  · intro cache hcache
    rw [List.eq_of_mem_replicate hcache]
    exact Cache.sound_empty
  · intro origin handle h
    rw [find?_start] at h
    cases h
  · intro origin handle _ _ h
    rw [find?_start] at h
    cases h

theorem Sound.compile (h : s.Sound) (hnumber : number < s.caches.length) (source : String) :
    (s.compile number source).2.Sound := by
  have hfresh : (s.compile number source).2.fresh = s.fresh + 1 := rfl
  refine ⟨?_, ?_, ?_⟩
  · intro cache hcache
    rw [compile_eq] at hcache
    rcases List.mem_or_eq_of_mem_set hcache with hold | rfl
    · exact h.caches cache hold
    · exact (h.cache number).settle s.fresh source
  · intro origin handle hfind
    rw [hfresh]
    rcases find?_compile_cases hnumber hfind with hold | ⟨-, rfl⟩
    · exact (h.stamp_lt origin handle hold).trans (Nat.lt_succ_self _)
    · exact Nat.lt_succ_self _
  · intro origin handle other handle' hfind hfind' hstamp
    -- A handle that was there and one that is new differ, since the stamps in use are below the next one.
    rcases find?_compile_cases hnumber hfind with hold | ⟨rfl, rfl⟩
    · rcases find?_compile_cases hnumber hfind' with hold' | ⟨rfl, rfl⟩
      · exact h.stamp_inj origin handle other handle' hold hold' hstamp
      · exact absurd hstamp (h.stamp_lt origin handle hold).ne
    · rcases find?_compile_cases hnumber hfind' with hold' | ⟨rfl, rfl⟩
      · exact absurd hstamp (h.stamp_lt other handle' hold').ne'
      · rfl

theorem Sound.newCache (h : s.Sound) : s.newCache.Sound := by
  refine ⟨?_, ?_, ?_⟩
  · intro cache hcache
    rcases List.mem_append.mp hcache with hold | hnew
    · exact h.caches cache hold
    · rw [List.mem_singleton.mp hnew]
      exact Cache.sound_empty
  · intro origin handle hhandle
    rw [find?_newCache] at hhandle
    exact h.stamp_lt origin handle hhandle
  · intro origin handle other handle' hhandle hhandle'
    rw [find?_newCache] at hhandle hhandle'
    exact h.stamp_inj origin handle other handle' hhandle hhandle'

theorem Sound.perform (h : s.Sound) (op : Operation) (hnumber : ∀ number ∈ op.number?, number < s.caches.length) :
    (op.perform s).Sound := by
  cases op with
  | newCache => exact h.newCache
  | compile number source =>
    have hcompile := h.compile (hnumber number rfl) source
    exact ⟨hcompile.caches, hcompile.stamp_lt, hcompile.stamp_inj⟩
  | evaluate number source context => exact h.compile (hnumber number rfl) source
  | contains number source => exact h
  | size number => exact h
  | isEmpty number => exact h

/-! ## One operation -/

/-- After an operation the table has the handle that it asked for, and everything else as before. -/
theorem find?_perform (op : Operation) (hnumber : ∀ number ∈ op.number?, number < s.caches.length)
    (origin : Nat × String) :
    (op.perform s).find? origin =
      if op.asked? = some origin then some (s.compile origin.1 origin.2).1 else s.find? origin := by
  have hcompile (number : Nat) (source : String) (h : number < s.caches.length) :
      (s.compile number source).2.find? origin =
        if some (number, source) = some origin then some (s.compile origin.1 origin.2).1 else s.find? origin := by
    rw [find?_compile h]
    by_cases heq : origin = (number, source)
    · rw [if_pos heq, if_pos (by rw [heq]), heq]
    · rw [if_neg heq, if_neg fun hsome => heq (Option.some.inj hsome).symm]
  cases op with
  | newCache => exact find?_newCache s origin
  | compile number source => exact hcompile number source (hnumber number rfl)
  | evaluate number source context => exact hcompile number source (hnumber number rfl)
  | contains number source => rfl
  | size number => rfl
  | isEmpty number => rfl

/-- What is in the table stays there. -/
theorem find?_perform_of_some (op : Operation) (hnumber : ∀ number ∈ op.number?, number < s.caches.length)
    (h : s.find? origin = some handle) : (op.perform s).find? origin = some handle := by
  rw [find?_perform op hnumber, compile_fst, h, Option.getD_some, ite_self]

/-- The handle that an operation keeps is the one that is in the table after it. -/
theorem handles_perform (op : Operation) (s : Session) :
    (op.perform s).handles =
      s.handles ++ (op.kept?.map fun origin => (s.compile origin.1 origin.2).1).toList := by
  cases op with
  | compile number source => rfl
  | newCache | evaluate number source context | contains number source | size number | isEmpty number =>
    exact (List.append_nil _).symm

namespace Reached

variable {history : List Operation}

theorem sound (h : Reached history s) : s.Sound := by
  induction h with
  | start count => exact sound_start count
  | perform op _ hnumber ih => exact ih.perform op hnumber

/-- An origin is in the table exactly if an operation has asked for it. -/
theorem isSome_find?_iff (h : Reached history s) (origin : Nat × String) :
    (s.find? origin).isSome = true ↔ ∃ op ∈ history, op.asked? = some origin := by
  induction h with
  | start count =>
    rw [find?_start]
    exact ⟨fun h => (Bool.false_ne_true h).elim, fun ⟨_, hmem, _⟩ => (List.not_mem_nil hmem).elim⟩
  | @perform history s op _ hnumber ih =>
    rw [find?_perform op hnumber]
    by_cases hop : op.asked? = some origin
    · rw [if_pos hop]
      exact ⟨fun _ => ⟨op, List.mem_append_right _ (List.mem_singleton_self op), hop⟩, fun _ => rfl⟩
    · rw [if_neg hop, ih]
      constructor
      · rintro ⟨other, hother, hasked⟩
        exact ⟨other, List.mem_append_left _ hother, hasked⟩
      · rintro ⟨other, hother, hasked⟩
        rcases List.mem_append.mp hother with hold | hnew
        · exact ⟨other, hold, hasked⟩
        · rw [List.mem_singleton.mp hnew] at hasked
          exact absurd hasked hop

/-- The handles that were kept are those in the table under the origins that they were asked for. -/
theorem find?_handles (h : Reached history s) :
    List.Forall₂ (fun origin handle => s.find? origin = some handle) (history.filterMap Operation.kept?) s.handles := by
  induction h with
  | start count => exact .nil
  | @perform history s op _ hnumber ih =>
    have hold := ih.imp fun origin handle hfind => find?_perform_of_some op hnumber hfind
    rw [handles_perform, List.filterMap_append]
    refine List.rel_append hold ?_
    cases hkept : op.kept? with
    | none =>
      rw [List.filterMap_cons_none hkept]
      exact .nil
    | some origin =>
      have hfind : (op.perform s).find? origin = some (s.compile origin.1 origin.2).1 := by
        rw [find?_perform op hnumber, if_pos (Operation.asked?_of_kept? hkept)]
      rw [List.filterMap_cons_some hkept]
      exact .cons hfind .nil

end Reached

/-! ## What a history leads to -/

/-- The caches of a session are transparent: whatever was done before, a source is evaluated to what its own template
renders, the caches have the sources that they were asked for, and a handle that was kept renders like its source. -/
theorem Reached.transparent {history : List Operation} (h : Reached history s) :
    (∀ cache ∈ s.caches, ∀ source handle, (source, handle) ∈ cache.entries →
      handle.template = Template.parse source) ∧
    (∀ (γ : Type) [Context γ] (number : Nat) (source : String) (context : γ),
      (s.evaluate number source context).1 = (Template.parse source).render context) ∧
    (∀ number source, (s.cache number).contains source = true ↔
      ∃ op ∈ history, op.asked? = some (number, source)) ∧
    List.Forall₂ (fun origin handle => ∀ (γ : Type) [Context γ] (context : γ),
      handle.template.render context = (Template.parse origin.2).render context)
      (history.filterMap Operation.kept?) s.handles := by
  have hsound := h.sound
  refine ⟨fun cache hcache => (hsound.caches cache hcache).template_eq, ?_, ?_, ?_⟩
  · intro γ _ number source context
    show (s.compile number source).1.template.render context = _
    rw [hsound.template_compile]
  · intro number source
    exact h.isSome_find?_iff (number, source)
  · refine h.find?_handles.imp fun origin handle hfind => ?_
    intro γ _ context
    rw [hsound.template_eq_parse hfind]

theorem Reached.transparent_evaluated :
    ∃ s, Reached [.compile 0 "\x7bx\x7d", .evaluate 0 "a\x7bx\x7d" (), .contains 0 "a"] s ∧
      (s.cache 0).contains "a\x7bx\x7d" = true ∧ (s.cache 0).contains "a" = false ∧
      (s.evaluate 0 "a\x7bx\x7d" (Json.obj [("x", .str "1")])).1 = "a1" ∧
      ∃ handle, s.handles = [handle] ∧ handle.template.render (Json.obj [("x", .str "1")]) = "1" := by
  have h := (((Reached.start 1).perform (.compile 0 "\x7bx\x7d") (by decide)).perform
    (.evaluate 0 "a\x7bx\x7d" ()) (by decide)).perform (.contains 0 "a") (by decide)
  obtain ⟨-, hevaluate, hcontains, hhandles⟩ := transparent h
  have hrender (source : String) (context : Json) : (Template.parse source).render context =
      (Template.mk (Template.joinTexts (Template.readChunks source.toList))).render context := by
    rw [← Template.nodes_parse_eq_readChunks]
  refine ⟨_, h, ?_, ?_, ?_, _, rfl, ?_⟩
  · rw [hcontains]
    exact ⟨_, .tail _ (.head _), rfl⟩
  · rw [Bool.eq_false_iff, ne_eq, hcontains, ← List.mem_map]
    decide
  · rw [hevaluate, hrender]
    decide
  · cases hhandles with
    | cons hhandle _ =>
      rw [hhandle, hrender]
      decide

/-- Two handles that were kept are the same instance exactly if they come from one cache and one source, and their
templates are equal exactly if their sources are. -/
theorem Reached.same_instance_iff {history : List Operation} (h : Reached history s) :
    (history.filterMap Operation.kept?).length = s.handles.length ∧
    ∀ origin handle other handle',
      (origin, handle) ∈ (history.filterMap Operation.kept?).zip s.handles →
      (other, handle') ∈ (history.filterMap Operation.kept?).zip s.handles →
      (handle.stamp = handle'.stamp ↔ origin = other) ∧ (handle.template = handle'.template ↔ origin.2 = other.2) := by
  have hsound := h.sound
  have hfind {origin : Nat × String} {handle : Handle}
      (hmem : (origin, handle) ∈ (history.filterMap Operation.kept?).zip s.handles) :
      s.find? origin = some handle := List.forall₂_zip h.find?_handles hmem
  refine ⟨h.find?_handles.length_eq, ?_⟩
  intro origin handle other handle' hmem hmem'
  have hhandle := hfind hmem
  have hhandle' := hfind hmem'
  constructor
  · constructor
    · exact hsound.stamp_inj origin handle other handle' hhandle hhandle'
    · rintro rfl
      rw [hhandle] at hhandle'
      rw [Option.some.inj hhandle']
  · rw [hsound.template_eq_parse hhandle, hsound.template_eq_parse hhandle']
    constructor
    · intro heq
      have hsource := congrArg Template.source heq
      rwa [Template.source_parse, Template.source_parse] at hsource
    · intro heq
      rw [heq]

theorem Reached.same_instance_iff_two_caches :
    ∃ s, Reached [.compile 0 "\x7ba\x7d", .newCache, .compile 1 "\x7ba\x7d", .compile 0 "\x7ba\x7d ",
        .compile 0 "\x7ba\x7d"] s ∧
      ∃ a b c d, s.handles = [a, b, c, d] ∧ a.stamp = d.stamp ∧ a.stamp ≠ b.stamp ∧ a.stamp ≠ c.stamp ∧
        a.template = b.template ∧ a.template ≠ c.template := by
  have h := ((((Reached.start 1).perform (.compile 0 "\x7ba\x7d") (by decide)).perform .newCache (by decide)).perform
    (.compile 1 "\x7ba\x7d") (by decide)).perform (.compile 0 "\x7ba\x7d ") (by decide)
  have h := h.perform (.compile 0 "\x7ba\x7d") (by decide)
  obtain ⟨-, hsame⟩ := same_instance_iff h
  have hab := hsame (0, "\x7ba\x7d") _ (1, "\x7ba\x7d") _ (.head _) (.tail _ (.head _))
  have hac := hsame (0, "\x7ba\x7d") _ (0, "\x7ba\x7d ") _ (.head _) (.tail _ (.tail _ (.head _)))
  have had := hsame (0, "\x7ba\x7d") _ (0, "\x7ba\x7d") _ (.head _) (.tail _ (.tail _ (.tail _ (.head _))))
  refine ⟨_, h, _, _, _, _, rfl, had.1.mpr rfl, ?_, ?_, hab.2.mpr rfl, ?_⟩
  · rw [ne_eq, hab.1]
    decide
  · rw [ne_eq, hac.1]
    decide
  · rw [ne_eq, hac.2]
    decide

end Session
end Stencil
