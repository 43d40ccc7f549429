import Stencil.Template.Render

/-!
# The template cache

A cache keeps the compiled template of each source text that it was asked for, and hands out the same
instance every time. Keys are exact texts, entries are never replaced or removed.

Compiling takes two sections, each of which nothing else can interrupt. `Cache.find?` looks the source up.
Only if that fails does `Cache.settle` follow, and since others may have come in between, it looks again
before it compiles and adds an entry. Instances are told apart by stamps; whoever calls `settle` supplies a
stamp that is not in use.
-/

namespace Stencil

/-- A compiled template as a cache hands it out. -/
structure Handle where
  /-- Tells this instance from every other one. -/
  stamp : Nat
  /-- The compiled template. -/
  template : Template
  deriving DecidableEq

/-- Compiled templates under their source texts. -/
structure Cache where
  /-- The entries, in the order in which they were added. -/
  entries : List (String × Handle)

/-- How a source was found. -/
inductive Lookup where
  /-- It was there at the first look. -/
  | hit
  /-- Another caller added it between the first and the second look. -/
  | hitAfterWait
  /-- It was not there and has been compiled. -/
  | miss
  deriving DecidableEq

namespace Cache

/-- A cache without entries. -/
def empty : Cache := ⟨[]⟩

/-- The first section: looks a source up. -/
def find? (cache : Cache) (source : String) : Option Handle :=
  cache.entries.lookup source

/-- The second section: looks again, and compiles the source under a new stamp if it is still absent. -/
def settle (cache : Cache) (stamp : Nat) (source : String) : Lookup × Handle × Cache :=
  match cache.find? source with
  | some handle => (.hitAfterWait, handle, cache)
  | none =>
    let handle : Handle := ⟨stamp, Template.parse source⟩
    (.miss, handle, ⟨cache.entries ++ [(source, handle)]⟩)

/-- Both sections in one go: the compiled form of a source, and the cache after that. -/
def compile (cache : Cache) (stamp : Nat) (source : String) : Lookup × Handle × Cache :=
  match cache.find? source with
  | some handle => (.hit, handle, cache)
  | none => cache.settle stamp source

/-- The source has an entry. -/
def contains (cache : Cache) (source : String) : Bool :=
  (cache.find? source).isSome

/-- The number of entries. -/
def size (cache : Cache) : Nat :=
  cache.entries.length

/-- There are no entries. -/
def isEmpty (cache : Cache) : Bool :=
  cache.entries.isEmpty

end Cache

end Stencil
