import Stencil.Context.Found
import Std.Data.HashMap
import Std.Data.TreeMap

/-!
# Contexts

A context is anything that has a value under some keys. Only the first key of a path is looked up in it; the
others are followed from the value that was found (`Found.follow?`). A lookup never fails: a key without
a value is absent.
-/

namespace Stencil

/-- A type of contexts. -/
class Context (γ : Type) where
  /-- The value under a key. -/
  get? : γ → String → Option Found

instance : Context Json where
  get? value key := (Found.json value).get? key

instance : Context (Members Json) where
  get? members key := (members.get? key).map .json

instance : Context (Std.HashMap String Json) where
  get? map key := map[key]?.map .json

instance : Context (Std.HashMap String String) where
  get? map key := map[key]?.map .str

instance : Context (Std.TreeMap String String) where
  get? map key := map[key]?.map .str

/-- A context that is reached by a reference to it. -/
structure Borrowed (γ : Type) where
  /-- The context that is referred to. -/
  target : γ

instance {γ : Type} [Context γ] : Context (Borrowed γ) where
  get? borrowed key := Context.get? borrowed.target key

/-- A context that may be missing. In a missing one every key is absent. -/
instance {γ : Type} [Context γ] : Context (Option γ) where
  get? context? key := context?.bind fun context => Context.get? context key

/-- The context without keys. -/
instance : Context Unit where
  get? _ _ := none

/-- The value that a path leads to in a context. The empty path leads nowhere. -/
def resolve? {γ : Type} [Context γ] (context : γ) : List String → Option Found
  | [] => none
  | first :: rest => (Context.get? context first).bind (Found.follow? · rest)

end Stencil
