import Stencil.Cache.Threads
import Stencil.Proofs.Cache.Entries
import Mathlib.Algebra.GroupWithZero.Nat
import Mathlib.Data.Finset.Card

/-!
# Sharing a cache

Threads may share a cache whatever the order of their sections. The second section of a compile call looks again
before it adds an entry, so no source gets a second one, and what a compile call has returned is what is found
under its source from then on (`Sound`). Between them the threads parse each source once, end each of their calls
once (`calls_run_perm`), and can end all of them from any state (`exists_run_finished`).
-/

namespace Stencil

/-- What an answer says of a cache, as far as entries that are added later cannot make it false. -/
def Answer.Holds (cache : Cache) : Answer → Prop
  | compiled source _ handle => cache.find? source = some handle
  | contains source found => found = true → cache.contains source = true
  | size count => count ≤ cache.size
  | isEmpty answer => answer = false → cache.isEmpty = false

theorem Answer.Holds.mono {cache later : Cache} (hentries : cache.entries <+: later.entries) {answer : Answer}
    (h : answer.Holds cache) : answer.Holds later := by
  cases answer with
  | compiled source lookup handle => exact Cache.find?_of_entries_prefix hentries h
  | contains source found =>
    intro hfound
    obtain ⟨handle, hhandle⟩ := Option.isSome_iff_exists.mp (h hfound)
    exact Option.isSome_iff_exists.mpr ⟨handle, Cache.find?_of_entries_prefix hentries hhandle⟩
  | size count => exact h.trans hentries.length_le
  | isEmpty answer =>
    intro hanswer
    have hne : cache.entries ≠ [] := List.isEmpty_eq_false_iff.mp (h hanswer)
    exact List.isEmpty_eq_false_iff.mpr (hentries.ne_nil hne)

theorem Call.mem_compiled_iff {calls : List Call} {source : String} :
    source ∈ calls.filterMap Call.compiled? ↔ .compile source ∈ calls := by
  rw [List.mem_filterMap]
  constructor
  · rintro ⟨call, hcall, hsource⟩
    cases call with
    | compile other => rwa [← Option.some.inj hsource]
    | contains | size | isEmpty => cases hsource
  · intro hcall
    exact ⟨.compile source, hcall, rfl⟩

/-! ## Sections -/

namespace Thread

variable {cache : Cache} {stamp : Nat}

/-- A section ends the next call or leaves it pending, and passes over none. -/
theorem answer_append_pending (cache : Cache) (stamp : Nat) (thread : Thread) :
    (thread.advance cache stamp).answer?.toList.map Answer.call ++ (thread.advance cache stamp).thread.pending =
      thread.pending := by
  fun_cases Thread.advance cache stamp thread <;> rfl

/-- Only the second section of a compile call changes the cache. -/
theorem cache_advance (cache : Cache) (stamp : Nat) (thread : Thread) :
    (thread.advance cache stamp).cache = cache ∨
    ∃ source, (thread.advance cache stamp).cache = (cache.settle stamp source).2.2 := by
  fun_cases Thread.advance cache stamp thread
  case case1 source calls lookup handle settled h => exact .inr ⟨source, by rw [h]⟩
  all_goals exact .inl rfl

theorem entries_prefix_advance (cache : Cache) (stamp : Nat) (thread : Thread) :
    cache.entries <+: (thread.advance cache stamp).cache.entries := by
  rcases cache_advance cache stamp thread with h | ⟨source, h⟩
  · rw [h]
  · rw [h]
    exact Cache.entries_prefix_settle cache stamp source

theorem sound_advance (hcache : cache.Sound) (stamp : Nat) (thread : Thread) :
    (thread.advance cache stamp).cache.Sound := by
  rcases cache_advance cache stamp thread with h | ⟨source, h⟩
  · rwa [h]
  · rw [h]
    exact hcache.settle stamp source

/-- A section adds an entry for a source exactly if it parses it. -/
theorem sources_advance (cache : Cache) (stamp : Nat) (thread : Thread) :
    (thread.advance cache stamp).cache.sources =
      cache.sources ++ (thread.advance cache stamp).answer?.toList.filterMap Answer.parsed? := by
  fun_cases Thread.advance cache stamp thread
  case case1 source calls lookup handle settled h =>
    rcases Cache.settle_cases h with ⟨-, rfl, rfl⟩ | ⟨-, rfl, -, rfl⟩
    · exact (List.append_nil _).symm
    · exact Cache.sources_add cache source handle
  all_goals exact (List.append_nil _).symm

/-- An answer holds in the cache that the section leaves behind. -/
theorem holds_advance (cache : Cache) (stamp : Nat) (thread : Thread) :
    ∀ answer ∈ (thread.advance cache stamp).answer?.toList, answer.Holds (thread.advance cache stamp).cache := by
  fun_cases Thread.advance cache stamp thread
  case case1 source calls lookup handle settled h =>
    have hfind := Cache.find?_settle cache stamp source source
    rw [if_pos rfl, h] at hfind
    exact List.forall_mem_singleton.mpr hfind
  case case2 source calls handle h => exact List.forall_mem_singleton.mpr h
  case case3 => exact List.forall_mem_nil _
  case case4 => exact List.forall_mem_singleton.mpr id
  case case5 => exact List.forall_mem_singleton.mpr le_rfl
  case case6 => exact List.forall_mem_singleton.mpr id
  case case7 => exact List.forall_mem_nil _

/-- The number of sections that a thread may still take. -/
def work (thread : Thread) : Nat :=
  2 * thread.calls.length + thread.missed?.toList.length

theorem work_advance_lt (cache : Cache) (stamp : Nat) {thread : Thread} (h : thread.pending ≠ []) :
    (thread.advance cache stamp).thread.work < thread.work := by
  fun_cases Thread.advance cache stamp thread
  case case7 => exact absurd rfl h
  all_goals
    simp only [work, List.length_cons, Option.toList_some, Option.toList_none, List.length_nil]
    omega

end Thread

namespace SharedCache

/-! ## One thread among others -/

section Threads

variable {α β : Type} {l : List α} {i : Nat} {a b : α}

theorem flatMap_set_perm {f : α → List β} {front : List β} (h : l[i]? = some a) (hf : front ++ f b = f a) :
    (front ++ (l.set i b).flatMap f).Perm (l.flatMap f) := by
  induction l generalizing i with
  | nil => cases h
  | cons x l ih =>
    cases i with
    | zero =>
      obtain rfl := Option.some.inj h
      rw [List.set_cons_zero, List.flatMap_cons, List.flatMap_cons, ← List.append_assoc, hf]
    | succ i =>
      rw [List.set_cons_succ, List.flatMap_cons, List.flatMap_cons]
      have hrest := ih (i := i) h
      exact (List.perm_append_comm_assoc front (f x) _).trans (hrest.append_left (f x))

theorem sum_map_set_lt {f : α → Nat} (h : l[i]? = some a) (hf : f b < f a) :
    ((l.set i b).map f).sum < (l.map f).sum := by
  induction l generalizing i with
  | nil => cases h
  | cons x l ih =>
    cases i with
    | zero =>
      obtain rfl := Option.some.inj h
      rw [List.set_cons_zero, List.map_cons, List.map_cons, List.sum_cons, List.sum_cons]
      omega
    | succ i =>
      have hrest := ih (i := i) h
      rw [List.set_cons_succ, List.map_cons, List.map_cons, List.sum_cons, List.sum_cons]
      omega

end Threads

variable {st : SharedCache} {number : Nat} {thread : Thread}

theorem step_of_none (h : st.threads[number]? = none) : st.step number = st := by
  rw [step, h]

theorem step_of_some (h : st.threads[number]? = some thread) :
    st.step number = ⟨(thread.advance st.cache st.fresh).cache, st.fresh + 1,
      st.threads.set number (thread.advance st.cache st.fresh).thread,
      st.answers ++ (thread.advance st.cache st.fresh).answer?.toList⟩ := by
  rw [step, h]

theorem run_cons (st : SharedCache) (number : Nat) (schedule : List Nat) :
    st.run (number :: schedule) = (st.step number).run schedule := rfl

/-! ## The cache -/

theorem entries_prefix_step (st : SharedCache) (number : Nat) :
    st.cache.entries <+: (st.step number).cache.entries := by
  cases h : st.threads[number]? with
  | none => rw [step_of_none h]
  | some thread =>
    rw [step_of_some h]
    exact Thread.entries_prefix_advance st.cache st.fresh thread

/-- No entry is ever replaced or removed. -/
theorem entries_prefix_run (schedule : List Nat) (st : SharedCache) :
    st.cache.entries <+: (st.run schedule).cache.entries := by
  induction schedule generalizing st with
  | nil => exact List.prefix_rfl
  | cons number schedule ih =>
    rw [run_cons]
    exact (entries_prefix_step st number).trans (ih (st.step number))

/-- The invariant of a shared cache: there is an entry for each source that was parsed and for no other one, and
everything that was answered still holds. -/
structure Sound (st : SharedCache) : Prop where
  cache : st.cache.Sound
  sources_eq : st.cache.sources = st.parsed
  holds : ∀ answer ∈ st.answers, answer.Holds st.cache

theorem sound_start (programs : List (List Call)) : (start programs).Sound where
  cache := Cache.sound_empty
  sources_eq := rfl
  holds := List.forall_mem_nil _

theorem Sound.step (h : st.Sound) (number : Nat) : (st.step number).Sound := by
  cases hthread : st.threads[number]? with
  | none => rwa [step_of_none hthread]
  | some thread =>
    rw [step_of_some hthread]
    refine ⟨Thread.sound_advance h.cache st.fresh thread, ?_, ?_⟩
    · rw [Thread.sources_advance, h.sources_eq, parsed, parsed, List.filterMap_append]
    · intro answer hanswer
      rcases List.mem_append.mp hanswer with hold | hnew
      · exact (h.holds answer hold).mono (Thread.entries_prefix_advance st.cache st.fresh thread)
      · exact Thread.holds_advance st.cache st.fresh thread answer hnew

theorem Sound.run (h : st.Sound) (schedule : List Nat) : (st.run schedule).Sound := by
  induction schedule generalizing st with
  | nil => exact h
  | cons number schedule ih =>
    rw [run_cons]
    exact ih (h.step number)

theorem Sound.size_eq (h : st.Sound) : st.cache.size = st.cache.sources.toFinset.card := by
  rw [List.toFinset_card_of_nodup h.cache.nodup, Cache.sources, List.length_map, Cache.size]

theorem Sound.count_parsed (h : st.Sound) (source : String) :
    st.parsed.count source = if st.cache.contains source then 1 else 0 := by
  rw [← h.sources_eq]
  split
  · rename_i hcontains
    exact List.count_eq_one_of_mem h.cache.nodup (Cache.contains_iff.mp hcontains)
  · rename_i hcontains
    exact List.count_eq_zero.mpr fun hmem => hcontains (Cache.contains_iff.mpr hmem)

/-- The sources with an entry are those of the compile calls that have ended. -/
theorem Sound.mem_sources_iff (h : st.Sound) {source : String} :
    source ∈ st.cache.sources ↔ .compile source ∈ st.answers.map Answer.call := by
  constructor
  · intro hsource
    rw [h.sources_eq, parsed] at hsource
    obtain ⟨answer, hanswer, hparsed⟩ := List.mem_filterMap.mp hsource
    refine List.mem_map.mpr ⟨answer, hanswer, ?_⟩
    cases answer with
    | compiled other lookup handle =>
      cases lookup with
      | miss => exact congrArg Call.compile (Option.some.inj hparsed)
      | hit | hitAfterWait => cases hparsed
    | contains | size | isEmpty => cases hparsed
  · intro hcall
    obtain ⟨answer, hanswer, hcompile⟩ := List.mem_map.mp hcall
    cases answer with
    | compiled other lookup handle =>
      obtain rfl := Call.compile.inj hcompile
      have hfind : st.cache.find? other = some handle := h.holds _ hanswer
      exact Cache.contains_iff.mp (Option.isSome_iff_exists.mpr ⟨handle, hfind⟩)
    | contains | size | isEmpty => cases hcompile

/-! ## The calls -/

/-- The calls that have ended, and those that have not. -/
def calls (st : SharedCache) : List Call :=
  st.answers.map Answer.call ++ st.threads.flatMap Thread.pending

theorem calls_start (programs : List (List Call)) : (start programs).calls = programs.flatten := by
  show (programs.map fun calls => (⟨none, calls⟩ : Thread)).flatMap Thread.pending = _
  rw [List.flatMap_map, List.flatten_eq_flatMap]
  rfl

theorem calls_step_perm (st : SharedCache) (number : Nat) : (st.step number).calls.Perm st.calls := by
  cases h : st.threads[number]? with
  | none => rw [step_of_none h]
  | some thread =>
    rw [step_of_some h, calls, calls, List.map_append, List.append_assoc]
    exact (flatMap_set_perm h (Thread.answer_append_pending st.cache st.fresh thread)).append_left _

/-- Every call is made once, whatever the schedule: none gets lost and none is made twice. -/
theorem calls_run_perm (schedule : List Nat) (st : SharedCache) : (st.run schedule).calls.Perm st.calls := by
  induction schedule generalizing st with
  | nil => exact List.Perm.refl _
  | cons number schedule ih =>
    rw [run_cons]
    exact (ih (st.step number)).trans (calls_step_perm st number)

theorem Finished.answers_map_call (h : st.Finished) : st.answers.map Answer.call = st.calls := by
  rw [calls, List.flatMap_eq_nil_iff.mpr h, List.append_nil]

/-- The number of sections that the threads may still take. -/
def work (st : SharedCache) : Nat :=
  (st.threads.map Thread.work).sum

theorem work_step_lt (h : st.threads[number]? = some thread) (hpending : thread.pending ≠ []) :
    (st.step number).work < st.work := by
  rw [step_of_some h]
  exact sum_map_set_lt h (Thread.work_advance_lt st.cache st.fresh hpending)

/-- No thread ever has to wait for good: from any state, all calls can be brought to an end. -/
theorem exists_run_finished (st : SharedCache) : ∃ schedule, (st.run schedule).Finished := by
  -- As long as calls are pending, a thread that has one can take a section, and less work is left then.
  induction hwork : st.work using Nat.strongRecOn generalizing st with
  | _ n ih =>
    by_cases hfinished : st.Finished
    · exact ⟨[], hfinished⟩
    · obtain ⟨thread, hmem, hpending⟩ : ∃ thread ∈ st.threads, thread.pending ≠ [] := by
        simpa [Finished] using hfinished
      obtain ⟨number, hnumber⟩ := List.mem_iff_getElem?.mp hmem
      have hlt := work_step_lt hnumber hpending
      obtain ⟨schedule, hschedule⟩ := ih _ (hwork ▸ hlt) (st.step number) rfl
      refine ⟨number :: schedule, ?_⟩
      rwa [run_cons]

/-! ## The whole run -/

/-- Whatever the threads call and in whatever order they take their sections, the cache compiles each source once and
gives out that one instance, which holds what the source is parsed as. When all calls have ended it has an entry for
each source that was asked for. -/
theorem run_compiles_once (programs : List (List Call)) (schedule : List Nat) :
    let st := (start programs).run schedule
    st.cache.sources.Nodup ∧
    (∀ more, st.cache.entries <+: (st.run more).cache.entries) ∧
    (∀ source lookup handle, .compiled source lookup handle ∈ st.answers → st.cache.find? source = some handle) ∧
    (∀ source handle, st.cache.find? source = some handle → handle.template = Template.parse source) ∧
    (∀ source, st.parsed.count source = if st.cache.contains source then 1 else 0) ∧
    st.cache.size = st.parsed.toFinset.card ∧
    (∃ more, (st.run more).Finished) ∧
    (st.Finished → (st.answers.map Answer.call).Perm programs.flatten ∧
      st.cache.size = (programs.flatten.filterMap Call.compiled?).toFinset.card) := by
  intro st
  have hsound : st.Sound := (sound_start programs).run schedule
  refine ⟨hsound.cache.nodup, fun more => entries_prefix_run more st, fun _ _ _ hmem => hsound.holds _ hmem,
    fun _ _ hfind => hsound.cache.template_eq_parse hfind, hsound.count_parsed, ?_, exists_run_finished st, ?_⟩
  · rw [hsound.size_eq, hsound.sources_eq]
  · intro hfinished
    have hperm : (st.answers.map Answer.call).Perm programs.flatten := by
      rw [hfinished.answers_map_call, ← calls_start]
      exact calls_run_perm schedule (start programs)
    refine ⟨hperm, ?_⟩
    rw [hsound.size_eq]
    congr 1
    ext source
    rw [List.mem_toFinset, List.mem_toFinset, hsound.mem_sources_iff, hperm.mem_iff, Call.mem_compiled_iff]

/-- Both threads miss the source before either takes its second section, and still it is parsed once. -/
example : ((start [[.compile "x"], [.compile "x", .size]]).run [0, 1, 1, 0, 1]).answers.map Answer.parsed? =
    [some "x", none, none] := by decide

end SharedCache
end Stencil
