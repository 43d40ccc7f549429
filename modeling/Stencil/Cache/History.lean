import Stencil.Cache.Session

/-!
# The history of a session

Whoever works with a session makes caches, and compiles and evaluates sources in them, or asks what they hold. Which
sessions can come out of that is told by the operations that led to them (`Session.Reached`).
-/

namespace Stencil

/-- An operation on a session. A cache is named by its number. -/
inductive Operation : Type 1 where
  | newCache
  | compile (number : Nat) (source : String)
  | evaluate {γ : Type} [Context γ] (number : Nat) (source : String) (context : γ)
  | contains (number : Nat) (source : String)
  | size (number : Nat)
  | isEmpty (number : Nat)

namespace Operation

def number? : Operation → Option Nat
  | newCache => none
  | compile number _ | evaluate number _ _ | contains number _ | size number | isEmpty number => some number

/-- The cache and the source whose compiled form is asked for. -/
def asked? : Operation → Option (Nat × String)
  | compile number source | evaluate number source _ => some (number, source)
  | newCache | contains _ _ | size _ | isEmpty _ => none

/-- The cache and the source whose handle is kept. -/
def kept? : Operation → Option (Nat × String)
  | compile number source => some (number, source)
  | newCache | evaluate _ _ _ | contains _ _ | size _ | isEmpty _ => none

/-- The session after the operation. Of the handles, those are kept that compiling gives out. -/
def perform (s : Session) : Operation → Session
  | newCache => s.newCache
  | compile number source => (s.compile number source).2.keep (s.compile number source).1
  | evaluate number source context => (s.evaluate number source context).2
  | contains _ _ | size _ | isEmpty _ => s

end Operation

/-- The session comes out of the operations, in that order, and each of them has named a cache that was there. -/
inductive Session.Reached : List Operation → Session → Prop
  | start (count : Nat) : Reached [] (Session.start count)
  | perform {history : List Operation} {s : Session} (op : Operation) (h : Reached history s)
      (hnumber : ∀ number ∈ op.number?, number < s.caches.length) : Reached (history ++ [op]) (op.perform s)

end Stencil
