import Stencil.Text.Bytes
import Stencil.Text.Quoted

/-!
# Reported cuts

`slice?` refuses an illegal cut and says nothing of it. `cut` makes the same cuts and reports an illegal one: which end
of the part was at fault, and which character would have been cut through.
-/

namespace Stencil.Text

/-- The character around byte offset `i`, and the offset where it begins. The first of the characters begins at
offset `start`. -/
def around? (i : Nat) : Nat → List Char → Option (Nat × Char)
  | _, [] => none
  | start, c :: cs =>
    if i < start + c.utf8Size then some (start, c) else around? i (start + c.utf8Size) cs

/-- As many of the characters, from the first on, as take up no more than so many bytes. -/
def fitting : Nat → List Char → List Char
  | _, [] => []
  | room, c :: cs => if c.utf8Size ≤ room then c :: fitting (room - c.utf8Size) cs else []

/-- The most bytes of a text that a report shows. -/
def maxShown : Nat := 256

/-- The report of a cut through a character at offset `i`, where that `side` of a part should be. -/
def cutReport (side s : String) (i : Nat) : String :=
  let place := match around? i 0 s.toList with
    | some (start, c) =>
      "; it is inside '" ++ String.ofList (quotedChar c) ++ "' (bytes " ++ start.repr ++ ".."
        ++ (start + c.utf8Size).repr ++ ")"
    | none => ""
  let shown := String.ofList (fitting maxShown s.toList)
  side ++ " byte index " ++ i.repr ++ " is not a char boundary" ++ place ++ " of `" ++ shown ++ "`"
    ++ (if shown = s then "" else "[...]")

/-- The part of `s` from offset `i` up to offset `j`, or the report of a cut through a character. For offsets that are
in order and not behind the end of `s`, no other cut is illegal. -/
def cut (s : String) (i j : Nat) : Except String String :=
  match slice? s i j with
  | some part => .ok part
  | none => .error (if IsBoundary s i then cutReport "end" s j else cutReport "start" s i)

end Stencil.Text
