/-!
# Similar names

How alike two names are, from 0 to 1, by the measure of Jaro. A character of the first name matches the first
equal character of the second that is still free and not too far away. The measure is the mean of the shares
of matched characters in either name and of the matched characters that stand in the same order. It is
rounded at each step as doubles are, so that equal shares compare equal.
-/

namespace Stencil.CommandLine

/-- How far apart matched characters may stand in names of these lengths. -/
def matchDistance (a b : Nat) : Nat :=
  max a b / 2 - 1

/-- Finds the first free character equal to `c` between two places and marks it as taken. -/
def takeMatch (c : Char) (low high : Nat) : Nat → List (Char × Bool) → Option (List (Char × Bool))
  | _, [] => none
  | place, (other, taken) :: rest =>
    if low ≤ place ∧ place ≤ high ∧ c = other ∧ !taken then some ((other, true) :: rest)
    else (takeMatch c low high (place + 1) rest).map ((other, taken) :: ·)

/-- The characters of the first name that have matches, in order, and the second name with the matches
marked. -/
def matchAll (distance : Nat) : Nat → List Char → List (Char × Bool) → List Char × List (Char × Bool)
  | _, [], marked => ([], marked)
  | place, c :: cs, marked =>
    match takeMatch c (place - distance) (place + distance) 0 marked with
    | none => matchAll distance (place + 1) cs marked
    | some marked =>
      let (matched, marked) := matchAll distance (place + 1) cs marked
      (c :: matched, marked)

/-- How alike two names are. -/
def similarity (a b : String) : Float :=
  let a := a.toList
  let b := b.toList
  if a.isEmpty && b.isEmpty then 1
  else
    let (inFirst, marked) := matchAll (matchDistance a.length b.length) 0 a (b.map (·, false))
    let inSecond := (marked.filter Prod.snd).map Prod.fst
    if inFirst.isEmpty then 0
    else
      let swapped := ((inFirst.zip inSecond).countP fun (x, y) => x ≠ y) / 2
      let count := inFirst.length.toFloat
      (count / a.length.toFloat + count / b.length.toFloat + (inFirst.length - swapped).toFloat / count) / 3

/-- What similar names must exceed. -/
def similarityThreshold : Float := 0.7

/-- The candidate most like a name, if one is similar. Of several equally similar ones it is the last. -/
def mostSimilar? {α : Type} (nameOf : α → String) (name : String) (candidates : List α) : Option α :=
  (candidates.foldl
    (fun best candidate =>
      let score := similarity name (nameOf candidate)
      match best with
      | none => if score > similarityThreshold then some (candidate, score) else none
      | some (_, bestScore) =>
        if score > similarityThreshold && score >= bestScore then some (candidate, score) else best)
    none).map Prod.fst

end Stencil.CommandLine
