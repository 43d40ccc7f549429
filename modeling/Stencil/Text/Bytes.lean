/-!
# Byte offsets

A text is stored as UTF-8 and scanned by byte offset. Only some offsets may be cut at: those where a
character begins, and the end of the text (`IsBoundary`). `slice?` checks this and refuses every other
cut, so a caller that never meets `none` has only made legal cuts.
-/

namespace Stencil.Text

/-- The byte of `s` at offset `i`, if there is one. -/
def byte? (s : String) (i : Nat) : Option UInt8 :=
  if h : i < s.utf8ByteSize then some (s.getUTF8Byte ⟨i⟩ h) else none

/-- A character of `s` begins at offset `i`, or `s` ends there. -/
def IsBoundary (s : String) (i : Nat) : Prop := String.Pos.Raw.IsValid s ⟨i⟩

instance (s : String) (i : Nat) : Decidable (IsBoundary s i) :=
  inferInstanceAs (Decidable (String.Pos.Raw.IsValid s ⟨i⟩))

/-- The part of `s` from offset `i` up to offset `j`. It is refused unless both are boundaries and `i`
is not behind `j`. -/
def slice? (s : String) (i j : Nat) : Option String :=
  if h : IsBoundary s i ∧ IsBoundary s j ∧ i ≤ j then
    some (String.extract (⟨⟨i⟩, h.1⟩ : s.Pos) ⟨⟨j⟩, h.2.1⟩)
  else
    none

/-- The least offset at or after `i` whose byte is `b`. -/
def findByte? (s : String) (b : UInt8) (i : Nat) : Option Nat :=
  if h : i < s.utf8ByteSize then
    if s.getUTF8Byte ⟨i⟩ h = b then some i else findByte? s b (i + 1)
  else
    none
termination_by s.utf8ByteSize - i

/-- The least offset at or after `i` whose byte is not in the class `p`, or else the end of `s`. An
offset past the end stays where it is. -/
def skipWhile (s : String) (p : UInt8 → Bool) (i : Nat) : Nat :=
  if h : i < s.utf8ByteSize then
    if p (s.getUTF8Byte ⟨i⟩ h) then skipWhile s p (i + 1) else i
  else
    i
termination_by s.utf8ByteSize - i

end Stencil.Text
