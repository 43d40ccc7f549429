import Stencil.Cache.Basic

/-!
# Sessions

A session works with several caches and keeps every handle that they give out. The stamps that it supplies
count up, so no two instances share one.
-/

namespace Stencil

/-- The caches and handles of a session. -/
structure Session where
  /-- The caches, by number. -/
  caches : List Cache
  /-- All handles so far, in order. -/
  handles : List Handle
  /-- The next stamp. -/
  fresh : Nat

namespace Session

/-- A session with that many empty caches. -/
def start (count : Nat) : Session :=
  ⟨List.replicate count .empty, [], 0⟩

/-- A cache by its number. A number without a cache stands for an empty one. -/
def cache (s : Session) (number : Nat) : Cache :=
  s.caches.getD number .empty

/-- Adds an empty cache. Its number is the count of caches before. -/
def newCache (s : Session) : Session :=
  { s with caches := s.caches ++ [.empty] }

/-- Compiles a source in a cache and keeps the handle to itself. -/
def compile (s : Session) (number : Nat) (source : String) : Handle × Session :=
  let (_, handle, cache) := (s.cache number).compile s.fresh source
  (handle, { s with caches := s.caches.set number cache, fresh := s.fresh + 1 })

/-- Adds a handle to those that are kept. Its number is the count of handles before. -/
def keep (s : Session) (handle : Handle) : Session :=
  { s with handles := s.handles ++ [handle] }

/-- The number of the first handle that is the same instance. -/
def firstSame? (s : Session) (handle : Handle) : Option Nat :=
  s.handles.findIdx? (·.stamp == handle.stamp)

/-- Compiles a source in a cache and renders it. -/
def evaluate {γ : Type} [Context γ] (s : Session) (number : Nat) (source : String) (context : γ) :
    String × Session :=
  let (handle, s) := s.compile number source
  (handle.template.render context, s)

end Session

end Stencil
