import Stencil.Json.Basic
import Stencil.Text.Hex

/-!
# Reading JSON text

The readers take the characters that are left and give back what they read with the characters behind it.
They stop at the first fault in reading order, and a fault has one of three causes (`Fault`). The pieces here
are shared by `Json.ofText?`, which reads any value, and by readers that expect values of a certain shape.

A value that nobody asked for is read under looser rules than one that is kept (`Rules`).

The readers of nested and repeated parts are bounded by a count of steps. Each step reads at least one
character, so a count above the number of characters is never used up.
-/

namespace Stencil.Json

/-- Why reading stops. -/
inductive Fault where
  /-- A character stands where the format does not allow it, or a value breaks a limit. -/
  | malformed
  /-- The text ends where more is needed. -/
  | truncated
  /-- The text is JSON so far, but not of the shape that is expected. -/
  | mismatched
  deriving DecidableEq

/-- What is asked of a value besides the grammar of JSON. -/
structure Rules where
  /-- Characters beyond U+FFFF that are escaped must be escaped by a pair of code units. -/
  pairedUnits : Bool
  /-- Numbers must lie in the range of doubles. -/
  numbersInRange : Bool
  /-- The fault of a number that ends with the text before it is complete. -/
  cutNumber : Fault

/-- The rules for a value that is kept. -/
def Rules.kept : Rules := ⟨true, true, .truncated⟩

/-- The rules for a value that is passed over. -/
def Rules.passedOver : Rules := ⟨false, false, .malformed⟩

/-- The characters that may stand between the parts of a value. -/
def isBlank (c : Char) : Bool :=
  c == ' ' || c == '\n' || c == '\t' || c == '\r'

/-- The text behind leading blanks. -/
def skipBlanks (cs : List Char) : List Char :=
  cs.dropWhile isBlank

/-! ## Strings -/

/-- Reads the four digits of an escaped code unit. Fewer than four bytes cannot hold them; otherwise the
fault is in the digits. -/
def codeUnit (cs : List Char) : Except Fault (Nat × List Char) :=
  match cs with
  | a :: b :: c :: d :: rest =>
    match Text.hexValue? a, Text.hexValue? b, Text.hexValue? c, Text.hexValue? d with
    | some a, some b, some c, some d => .ok (((a * 16 + b) * 16 + c) * 16 + d, rest)
    | _, _, _, _ => .error .malformed
  | short => .error (if (String.ofList short).utf8ByteSize < 4 then .truncated else .malformed)

/-- The unit is the first of a pair. -/
def isHighUnit (unit : Nat) : Bool :=
  0xD800 ≤ unit && unit ≤ 0xDBFF

/-- The unit is the second of a pair. -/
def isLowUnit (unit : Nat) : Bool :=
  0xDC00 ≤ unit && unit ≤ 0xDFFF

/-- Reads the second unit of a pair. -/
def lowUnit (high : Nat) : List Char → Except Fault (Char × List Char)
  | '\\' :: 'u' :: cs => do
    let (low, rest) ← codeUnit cs
    if isLowUnit low then
      .ok (Char.ofNat (0x10000 + (high - 0xD800) * 0x400 + (low - 0xDC00)), rest)
    else
      .error .malformed
  | [] => .error .truncated
  | ['\\'] => .error .truncated
  | _ => .error .malformed

/-- The character that a letter behind a backslash stands for. -/
def escaped? (c : Char) : Option Char :=
  match c with
  | '"' => some '"'
  | '\\' => some '\\'
  | '/' => some '/'
  | 'b' => some '\x08'
  | 'f' => some '\x0c'
  | 'n' => some '\n'
  | 'r' => some '\r'
  | 't' => some '\t'
  | _ => none

/-- Reads an escaped character behind its backslash. -/
def escape (rules : Rules) : List Char → Except Fault (Char × List Char)
  | [] => .error .truncated
  | 'u' :: cs => do
    let (unit, rest) ← codeUnit cs
    if rules.pairedUnits && isHighUnit unit then lowUnit unit rest
    else if rules.pairedUnits && isLowUnit unit then .error .malformed
    else .ok (Char.ofNat unit, rest)
  | c :: rest =>
    match escaped? c with
    | some c => .ok (c, rest)
    | none => .error .malformed

theorem length_lt_of_codeUnit {cs rest : List Char} {unit : Nat} (h : codeUnit cs = .ok (unit, rest)) :
    rest.length < cs.length := by
  unfold codeUnit at h
  split at h
  · split at h
    · simp only [Except.ok.injEq, Prod.mk.injEq] at h
      simp only [← h.2, List.length_cons]
      omega
    · simp at h
  · simp at h

theorem length_lt_of_lowUnit {high : Nat} {cs rest : List Char} {c : Char}
    (h : lowUnit high cs = .ok (c, rest)) : rest.length < cs.length := by
  unfold lowUnit at h
  split at h
  · rename_i cs
    cases hu : codeUnit cs with
    | error f => simp [hu, bind, Except.bind] at h
    | ok p =>
      obtain ⟨low, behind⟩ := p
      have hlt := length_lt_of_codeUnit hu
      simp only [hu, bind, Except.bind] at h
      split at h
      · simp only [Except.ok.injEq, Prod.mk.injEq] at h
        simp only [← h.2, List.length_cons]
        omega
      · simp at h
  all_goals simp at h

theorem length_lt_of_escape {rules : Rules} {cs rest : List Char} {c : Char}
    (h : escape rules cs = .ok (c, rest)) : rest.length < cs.length := by
  unfold escape at h
  split at h
  · simp at h
  · rename_i cs
    cases hu : codeUnit cs with
    | error f => simp [hu, bind, Except.bind] at h
    | ok p =>
      obtain ⟨unit, behind⟩ := p
      have hlt := length_lt_of_codeUnit hu
      simp only [hu, bind, Except.bind] at h
      split at h
      · have := length_lt_of_lowUnit h
        simp only [List.length_cons]
        omega
      · split at h
        · simp at h
        · simp only [Except.ok.injEq, Prod.mk.injEq] at h
          simp only [← h.2, List.length_cons]
          omega
  · split at h
    · simp only [Except.ok.injEq, Prod.mk.injEq] at h
      simp [← h.2]
    · simp at h

/-- Reads the characters of a string behind its opening quote, up to the closing quote. -/
def stringChars (rules : Rules) (cs : List Char) : Except Fault (List Char × List Char) :=
  match cs with
  | [] => .error .truncated
  | '"' :: rest => .ok ([], rest)
  | '\\' :: cs =>
    match h : escape rules cs with
    | .error fault => .error fault
    | .ok (c, rest) =>
      have : rest.length < cs.length := length_lt_of_escape h
      (stringChars rules rest).map fun (s, rest) => (c :: s, rest)
  | c :: rest =>
    if c.toNat < 0x20 then .error .malformed
    else (stringChars rules rest).map fun (s, rest) => (c :: s, rest)
termination_by cs.length
decreasing_by all_goals simp_all <;> omega

/-- Reads a string behind its opening quote. -/
def string (rules : Rules) (cs : List Char) : Except Fault (String × List Char) :=
  (stringChars rules cs).map fun (s, rest) => (String.ofList s, rest)

/-! ## Numbers and words -/

/-- Reads at least one decimal digit. -/
def someDigits (rules : Rules) (cs : List Char) : Except Fault (List Char × List Char) :=
  match cs with
  | [] => .error rules.cutNumber
  | c :: _ =>
    if c.isDigit then .ok (cs.takeWhile Char.isDigit, cs.dropWhile Char.isDigit) else .error .malformed

/-- Reads the digits before the point: a zero alone, or digits that do not begin with a zero. -/
def wholeDigits (rules : Rules) (cs : List Char) : Except Fault (List Char × List Char) :=
  match cs with
  | '0' :: c :: rest => if c.isDigit then .error .malformed else .ok (['0'], c :: rest)
  | cs => someDigits rules cs

/-- Reads a point and the digits behind it, if there is a point. -/
def fraction (rules : Rules) : List Char → Except Fault (Option (List Char) × List Char)
  | '.' :: cs => (someDigits rules cs).map fun (digits, rest) => (some digits, rest)
  | cs => .ok (none, cs)

/-- Reads an exponent of ten with its mark and sign, if there is one. -/
def exponent (rules : Rules) : List Char → Except Fault (Option Int × List Char)
  | c :: cs =>
    if c = 'e' ∨ c = 'E' then
      let (negative, cs) := match cs with
        | '-' :: cs => (true, cs)
        | '+' :: cs => (false, cs)
        | cs => (false, cs)
      (someDigits rules cs).map fun (digits, rest) =>
        let size : Int := Nat.ofDigitChars 10 digits 0
        (some (if negative then -size else size), rest)
    else
      .ok (none, c :: cs)
  | [] => .ok (none, [])

/-- The number with these digits. Without point and exponent it is a whole number where 64 bits hold it,
apart from `-0`; every other number is the nearest double, if there is one. -/
def numberOf? (negative : Bool) (whole : List Char) (fraction : Option (List Char)) (exponent : Option Int) :
    Option Number :=
  let size := Nat.ofDigitChars 10 whole 0
  if fraction.isNone ∧ exponent.isNone ∧ negative ∧ 0 < size ∧ size ≤ UInt64.size / 2 then
    some (.int (-(size : Int)))
  else if fraction.isNone ∧ exponent.isNone ∧ ¬negative ∧ size < UInt64.size then
    some (.int size)
  else
    let behind := fraction.getD []
    let digits := Nat.ofDigitChars 10 (whole ++ behind) 0
    (Double.ofDecimal? negative digits (exponent.getD 0 - behind.length)).map .double

/-- Reads a number. One out of range is replaced by zero where the rules let it pass. -/
def number (rules : Rules) (cs : List Char) : Except Fault (Number × List Char) := do
  let (negative, cs) := match cs with
    | '-' :: cs => (true, cs)
    | cs => (false, cs)
  let (whole, cs) ← wholeDigits rules cs
  let (fraction, cs) ← fraction rules cs
  let (exponent, cs) ← exponent rules cs
  match numberOf? negative whole fraction exponent with
  | some n => .ok (n, cs)
  | none => if rules.numbersInRange then .error .malformed else .ok (.int 0, cs)

/-- Reads exactly the characters of a word. -/
def word : List Char → List Char → Except Fault (List Char)
  | [], cs => .ok cs
  | _ :: _, [] => .error .truncated
  | w :: ws, c :: cs => if w = c then word ws cs else .error .malformed

/-- Reads a value that is neither a container nor a string. -/
def scalar (rules : Rules) (cs : List Char) : Except Fault (Json × List Char) :=
  match cs with
  | [] => .error .truncated
  | c :: _ =>
    if c = 'n' then (word "null".toList cs).map fun rest => (.null, rest)
    else if c = 't' then (word "true".toList cs).map fun rest => (.bool true, rest)
    else if c = 'f' then (word "false".toList cs).map fun rest => (.bool false, rest)
    else if c = '-' ∨ c.isDigit then (number rules cs).map fun (n, rest) => (.num n, rest)
    else .error .malformed

/-! ## Containers -/

/-- What follows in a container: its end, which has been read, or another item. -/
inductive Next where
  /-- The container is closed; these characters stand behind it. -/
  | close (rest : List Char)
  /-- Another item begins here. -/
  | item (cs : List Char)

/-- Reads up to the next item of a container or past its end. A comma stands between two items and nowhere
else. -/
def next (closing : Char) (first : Bool) (cs : List Char) : Except Fault Next :=
  match skipBlanks cs with
  | [] => .error .truncated
  | c :: rest =>
    if c = closing then .ok (.close rest)
    else if first then .ok (.item (c :: rest))
    else if c = ',' then
      match skipBlanks rest with
      | [] => .error .truncated
      | c :: rest => if c = closing then .error .malformed else .ok (.item (c :: rest))
    else .error .malformed

/-- Reads the items of a container and its end. -/
def items {α : Type} (closing : Char) (item : List Char → Except Fault (α × List Char)) :
    Nat → Bool → List Char → Except Fault (List α × List Char)
  | 0, _, _ => .error .truncated
  | steps + 1, first, cs => do
    match ← next closing first cs with
    | .close rest => .ok ([], rest)
    | .item cs =>
      let (x, rest) ← item cs
      let (xs, rest) ← items closing item steps false rest
      .ok (x :: xs, rest)

/-- Reads the name of a member. -/
def name (rules : Rules) (cs : List Char) : Except Fault (String × List Char) :=
  match skipBlanks cs with
  | '"' :: rest => string rules rest
  | [] => .error .truncated
  | _ => .error .malformed

/-- Reads the colon between a name and its value. -/
def colon (cs : List Char) : Except Fault (List Char) :=
  match skipBlanks cs with
  | ':' :: rest => .ok rest
  | [] => .error .truncated
  | _ => .error .malformed

/-- Reads a name, a colon and a value. -/
def member {α : Type} (rules : Rules) (value : List Char → Except Fault (α × List Char)) (cs : List Char) :
    Except Fault ((String × α) × List Char) := do
  let (name, rest) ← name rules cs
  let rest ← colon rest
  let (value, rest) ← value rest
  .ok ((name, value), rest)

/-- How many more containers may be opened inside one another after opening one; no limit is `none`. -/
def enter : Option Nat → Except Fault (Option Nat)
  | none => .ok none
  | some 0 => .error .malformed
  | some (room + 1) => .ok (some room)

/-- Reads a value, with room for so many containers inside one another. -/
def value (rules : Rules) : Nat → Option Nat → List Char → Except Fault (Json × List Char)
  | 0, _, _ => .error .truncated
  | steps + 1, room, cs =>
    match skipBlanks cs with
    | '"' :: rest => (string rules rest).map fun (s, rest) => (.str s, rest)
    | '[' :: rest => do
      let room ← enter room
      let (values, rest) ← items ']' (value rules steps room) steps true rest
      .ok (.arr values, rest)
    | '{' :: rest => do
      let room ← enter room
      let (named, rest) ← items '}' (member rules (value rules steps room)) steps true rest
      .ok (.obj (Members.ofList named), rest)
    | cs => scalar rules cs

/-- Reads a whole text by a reader: only blanks may follow. The reader is given a sufficient count of
steps. -/
def whole {α : Type} (read : Nat → List Char → Except Fault (α × List Char)) (s : String) : Except Fault α := do
  let cs := s.toList
  let (x, rest) ← read (cs.length + 1) cs
  if (skipBlanks rest).isEmpty then .ok x else .error .malformed

/-- The value that a JSON text stands for. -/
def ofText? (s : String) : Except Fault Json :=
  whole (fun steps => value .kept steps none) s

end Stencil.Json
