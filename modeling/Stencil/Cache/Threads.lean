import Stencil.Cache.Basic

/-!
# Threads on one cache

Several threads make calls on a cache, each its own calls one after the other. A call is made in sections that
nothing else interrupts. One section is enough except for a compile call whose first look fails: its thread waits
for a second section, and any number of sections of other threads may come in between. A schedule names the
threads in the order in which they take their sections.
-/

namespace Stencil

/-- A call on a cache. -/
inductive Call where
  | compile (source : String)
  | contains (source : String)
  | size
  | isEmpty
  deriving DecidableEq

/-- A call that has ended, and what it returned. -/
inductive Answer where
  | compiled (source : String) (lookup : Lookup) (handle : Handle)
  | contains (source : String) (found : Bool)
  | size (count : Nat)
  | isEmpty (answer : Bool)

/-- A thread between two sections. -/
structure Thread where
  /-- The source that it has looked up in vain, if it waits for the second section of that call. -/
  missed? : Option String
  /-- The calls that it has not begun. -/
  calls : List Call

/-- A cache and the threads that share it. -/
structure SharedCache where
  cache : Cache
  /-- The next stamp. -/
  fresh : Nat
  threads : List Thread
  /-- The calls that have ended, in that order. -/
  answers : List Answer

namespace Answer

def call : Answer → Call
  | compiled source _ _ => .compile source
  | contains source _ => .contains source
  | size _ => .size
  | isEmpty _ => .isEmpty

/-- The source that was parsed for the answer: a cache parses a source if it misses it, and only then. -/
def parsed? : Answer → Option String
  | compiled source .miss _ => some source
  | _ => none

end Answer

def Call.compiled? : Call → Option String
  | compile source => some source
  | _ => none

/-- What a section leaves behind. -/
structure Section where
  thread : Thread
  /-- The answer, if a call has ended with it. -/
  answer? : Option Answer
  cache : Cache

namespace Thread

/-- The next section of a thread on a cache. A thread without calls does nothing. -/
def advance (cache : Cache) (stamp : Nat) : Thread → Section
  | ⟨some source, calls⟩ =>
    let (lookup, handle, cache) := cache.settle stamp source
    ⟨⟨none, calls⟩, some (.compiled source lookup handle), cache⟩
  | ⟨none, .compile source :: calls⟩ =>
    match cache.find? source with
    | some handle => ⟨⟨none, calls⟩, some (.compiled source .hit handle), cache⟩
    | none => ⟨⟨some source, calls⟩, none, cache⟩
  | ⟨none, .contains source :: calls⟩ => ⟨⟨none, calls⟩, some (.contains source (cache.contains source)), cache⟩
  | ⟨none, .size :: calls⟩ => ⟨⟨none, calls⟩, some (.size cache.size), cache⟩
  | ⟨none, .isEmpty :: calls⟩ => ⟨⟨none, calls⟩, some (.isEmpty cache.isEmpty), cache⟩
  | ⟨none, []⟩ => ⟨⟨none, []⟩, none, cache⟩

/-- The calls of a thread that have not ended. -/
def pending (thread : Thread) : List Call :=
  (thread.missed?.map Call.compile).toList ++ thread.calls

end Thread

namespace SharedCache

/-- An empty cache, and a thread for each list of calls. -/
def start (programs : List (List Call)) : SharedCache :=
  ⟨.empty, 0, programs.map fun calls => ⟨none, calls⟩, []⟩

/-- The thread of that number takes its next section. Nothing happens if there is no such thread. -/
def step (st : SharedCache) (number : Nat) : SharedCache :=
  match st.threads[number]? with
  | none => st
  | some thread =>
    let taken := thread.advance st.cache st.fresh
    ⟨taken.cache, st.fresh + 1, st.threads.set number taken.thread, st.answers ++ taken.answer?.toList⟩

/-- The threads take sections in the order of a schedule. -/
def run (st : SharedCache) (schedule : List Nat) : SharedCache :=
  schedule.foldl step st

/-- The sources that have been parsed, one for each time. -/
def parsed (st : SharedCache) : List String :=
  st.answers.filterMap Answer.parsed?

def Finished (st : SharedCache) : Prop :=
  ∀ thread ∈ st.threads, thread.pending = []

end SharedCache

end Stencil
