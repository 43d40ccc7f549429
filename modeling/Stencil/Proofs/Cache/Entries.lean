import Stencil.Cache.Basic
import Mathlib.Data.List.Infix
import Mathlib.Data.List.Nodup

/-!
# The entries of a cache

A cache changes in one way only: an entry is added behind the others for a source that has none (`settle_cases`).
So what was found once is found again (`find?_of_entries_prefix`), each source has at most one entry, and the
template of an entry is what its source is parsed as (`Sound`). A section is described by what is found after it
(`find?_settle`).
-/

namespace Stencil.Cache

/-- The sources that have an entry. -/
def sources (cache : Cache) : List String :=
  cache.entries.map Prod.fst

/-- Adds an entry behind the others. -/
def add (cache : Cache) (source : String) (handle : Handle) : Cache :=
  ⟨cache.entries ++ [(source, handle)]⟩

/-- The invariant of a cache. -/
structure Sound (cache : Cache) : Prop where
  nodup : cache.sources.Nodup
  template_eq : ∀ source handle, (source, handle) ∈ cache.entries → handle.template = Template.parse source

variable {cache : Cache} {source other : String} {handle : Handle} {stamp : Nat}

/-! ## Lookups -/

theorem find?_empty (source : String) : empty.find? source = none := rfl

theorem find?_eq_none_iff : cache.find? source = none ↔ source ∉ cache.sources := by
  rw [find?, List.lookup_eq_none_iff, sources, List.mem_map]
  constructor
  · rintro h ⟨entry, hentry, rfl⟩
    have hne : (entry.1 != entry.1) = true := h entry hentry
    exact bne_iff_ne.mp hne rfl
  · intro h entry hentry
    exact bne_iff_ne.mpr fun heq => h ⟨entry, hentry, heq.symm⟩

theorem contains_iff : cache.contains source = true ↔ source ∈ cache.sources := by
  rw [contains, ← not_iff_not, ← find?_eq_none_iff, Bool.not_eq_true, Option.isSome_eq_false_iff,
    Option.isNone_iff_eq_none]

theorem mem_entries_of_find? (h : cache.find? source = some handle) : (source, handle) ∈ cache.entries := by
  obtain ⟨before, after, heq, -⟩ := List.lookup_eq_some_iff.mp h
  rw [heq]
  simp

theorem Sound.template_eq_parse (hcache : cache.Sound) (h : cache.find? source = some handle) :
    handle.template = Template.parse source :=
  hcache.template_eq source handle (mem_entries_of_find? h)

/-! ## Adding an entry -/

theorem sources_add (cache : Cache) (source : String) (handle : Handle) :
    (cache.add source handle).sources = cache.sources ++ [source] := by
  rw [sources, add, List.map_append, List.map_singleton, sources]

theorem find?_add (cache : Cache) (source : String) (handle : Handle) (other : String) :
    (cache.add source handle).find? other = (cache.find? other).or (if other = source then some handle else none) := by
  rw [find?, add, List.lookup_append, find?]
  by_cases h : other = source
  · rw [if_pos h, h, List.lookup_cons_self]
  · rw [if_neg h, List.lookup_cons, beq_eq_false_iff_ne.mpr h, List.lookup_nil]

/-- What is found once is found after any entries are added. -/
theorem find?_of_entries_prefix {later : Cache} (hentries : cache.entries <+: later.entries)
    (h : cache.find? source = some handle) : later.find? source = some handle := by
  obtain ⟨added, hadded⟩ := hentries
  have hlookup : cache.entries.lookup source = some handle := h
  rw [find?, ← hadded, List.lookup_append, hlookup, Option.some_or]

theorem sound_empty : empty.Sound where
  nodup := List.nodup_nil
  template_eq := fun _ _ hmem => absurd hmem List.not_mem_nil

theorem Sound.add (hcache : cache.Sound) (h : cache.find? source = none) (stamp : Nat) :
    (cache.add source ⟨stamp, Template.parse source⟩).Sound where
  nodup := by
    rw [sources_add, ← List.concat_eq_append]
    exact hcache.nodup.concat (find?_eq_none_iff.mp h)
  template_eq := by
    intro other handle hmem
    rcases List.mem_append.mp hmem with hold | hnew
    · exact hcache.template_eq other handle hold
    · obtain ⟨rfl, rfl⟩ := Prod.mk.inj (List.mem_singleton.mp hnew)
      rfl

/-! ## The two sections -/

theorem settle_of_some (h : cache.find? source = some handle) :
    cache.settle stamp source = (.hitAfterWait, handle, cache) := by
  rw [settle, h]

theorem settle_of_none (h : cache.find? source = none) :
    cache.settle stamp source =
      (.miss, ⟨stamp, Template.parse source⟩, cache.add source ⟨stamp, Template.parse source⟩) := by
  rw [settle, h]
  rfl

/-- The second section adds an entry if it misses its source, and only then. -/
theorem settle_cases {lookup : Lookup} {settled : Cache}
    (h : cache.settle stamp source = (lookup, handle, settled)) :
    (cache.find? source = some handle ∧ lookup = .hitAfterWait ∧ settled = cache) ∨
    (cache.find? source = none ∧ lookup = .miss ∧ handle = ⟨stamp, Template.parse source⟩ ∧
      settled = cache.add source handle) := by
  cases hfind : cache.find? source with
  | some found =>
    rw [settle_of_some hfind] at h
    cases h
    exact .inl ⟨rfl, rfl, rfl⟩
  | none =>
    rw [settle_of_none hfind] at h
    cases h
    exact .inr ⟨rfl, rfl, rfl, rfl⟩

/-- Both sections in one go give the same handle and the same cache as the second section alone. -/
theorem compile_snd (cache : Cache) (stamp : Nat) (source : String) :
    (cache.compile stamp source).2 = (cache.settle stamp source).2 := by
  unfold compile
  split
  · rename_i handle h
    rw [settle_of_some h]
  · rfl

/-- The handle of a source is the one that is there, if there is one, and else a new instance of its template. -/
theorem settle_handle (cache : Cache) (stamp : Nat) (source : String) :
    (cache.settle stamp source).2.1 = (cache.find? source).getD ⟨stamp, Template.parse source⟩ := by
  cases h : cache.find? source with
  | some handle => rw [settle_of_some h, Option.getD_some]
  | none => rw [settle_of_none h, Option.getD_none]

/-- After a source is settled its handle is found, and everything else as before. -/
theorem find?_settle (cache : Cache) (stamp : Nat) (source other : String) :
    (cache.settle stamp source).2.2.find? other =
      if other = source then some (cache.settle stamp source).2.1 else cache.find? other := by
  cases h : cache.find? source with
  | some handle =>
    rw [settle_of_some h]
    split
    · rename_i heq
      rw [heq, h]
    · rfl
  | none =>
    rw [settle_of_none h, find?_add]
    split
    · rename_i heq
      rw [heq, h, Option.none_or]
    · rw [Option.or_none]

theorem entries_prefix_settle (cache : Cache) (stamp : Nat) (source : String) :
    cache.entries <+: (cache.settle stamp source).2.2.entries := by
  cases h : cache.find? source with
  | some handle => rw [settle_of_some h]
  | none =>
    rw [settle_of_none h]
    exact List.prefix_append _ _

theorem Sound.settle (hcache : cache.Sound) (stamp : Nat) (source : String) :
    (cache.settle stamp source).2.2.Sound := by
  cases h : cache.find? source with
  | some handle => rwa [settle_of_some h]
  | none =>
    rw [settle_of_none h]
    exact hcache.add h stamp

end Stencil.Cache
