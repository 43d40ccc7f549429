import Stencil.Text.Utf8

/-!
# Sinks

A sink takes the output. Each write offers it the bytes that are left, and it may take all of them, a part,
or none, or fail. A write that is interrupted is made again, so a sink says how often that happens before it
answers. When everything has been taken, the sink is flushed once.

`Sink.deliver` follows these rules and keeps account of all calls.
-/

namespace Stencil

/-- What a sink does when it is offered bytes. -/
structure WriteAnswer where
  /-- How often the write is interrupted before it is answered. -/
  interruptions : Nat
  /-- How many bytes are taken, or why the write fails. A sink cannot take more than it is offered. -/
  outcome : Except String Nat

/-- What takes the output. -/
structure Sink where
  /-- The answer to each write, by its number and the bytes it offers. -/
  write : Nat → List UInt8 → WriteAnswer
  /-- How the flush ends. -/
  flush : Except String Unit

/-- An account of the calls that were made to deliver an output. -/
structure Delivery where
  /-- The bytes that the sink has taken. -/
  taken : List UInt8
  /-- The number of write calls, interrupted ones included. -/
  writes : Nat
  /-- The number of flush calls. -/
  flushes : Nat
  /-- How the delivery ended. -/
  result : Except String Unit

namespace Sink

/-- Why a sink that takes no byte ends the delivery. -/
def stalled : String := "failed to write whole buffer"

/-- Writes the bytes that are left, from the write with that number on, and flushes behind the last. -/
def deliverFrom (sink : Sink) (number : Nat) (bytes : List UInt8) : Delivery :=
  if h : bytes = [] then
    ⟨[], 0, 1, sink.flush⟩
  else
    let answer := sink.write number bytes
    match answer.outcome with
    | .error reason => ⟨[], answer.interruptions + 1, 0, .error reason⟩
    | .ok 0 => ⟨[], answer.interruptions + 1, 0, .error stalled⟩
    | .ok (count + 1) =>
      have : (bytes.drop (count + 1)).length < bytes.length := by
        have := List.length_pos_iff.mpr h
        simp only [List.length_drop]
        omega
      let rest := sink.deliverFrom (number + 1) (bytes.drop (count + 1))
      ⟨bytes.take (count + 1) ++ rest.taken, answer.interruptions + 1 + rest.writes, rest.flushes, rest.result⟩
termination_by bytes.length

/-- Writes a text and flushes. -/
def deliver (sink : Sink) (output : String) : Delivery :=
  sink.deliverFrom 0 (Text.encode output)

/-- A sink that takes everything. -/
def accepting : Sink := ⟨fun _ bytes => ⟨0, .ok bytes.length⟩, .ok ()⟩

/-- A sink that takes at most so many bytes at a time. -/
def chunked (count : Nat) : Sink := ⟨fun _ _ => ⟨0, .ok count⟩, .ok ()⟩

/-- A sink that refuses each write for that reason. -/
def failing (reason : String) : Sink := ⟨fun _ _ => ⟨0, .error reason⟩, .ok ()⟩

/-- A sink that takes everything and fails to flush for that reason. -/
def unflushable (reason : String) : Sink := ⟨fun _ bytes => ⟨0, .ok bytes.length⟩, .error reason⟩

end Sink

end Stencil
