import Stencil.Json.Basic

/-!
# JSON text and display text

`Json.compact` writes a value as JSON without blanks. `Json.display` is the text that a value is rendered as:
texts stand for themselves, arrays are flattened with commas, and only objects are written as JSON.
-/

namespace Stencil.Json

/-- A hexadecimal digit in lower case. -/
def hexDigit (n : Nat) : Char :=
  Nat.digitChar (n % 16)

/-- How a character is written inside quotes. Quotes, backslashes and control characters are escaped, the
latter by a letter where there is one; everything else stands for itself. -/
def escapeChar (c : Char) : List Char :=
  if c = '"' then ['\\', '"']
  else if c = '\\' then ['\\', '\\']
  else if c = '\x08' then ['\\', 'b']
  else if c = '\x0c' then ['\\', 'f']
  else if c = '\n' then ['\\', 'n']
  else if c = '\r' then ['\\', 'r']
  else if c = '\t' then ['\\', 't']
  else if c.toNat < 0x20 then ['\\', 'u', '0', '0', hexDigit (c.toNat / 16), hexDigit c.toNat]
  else [c]

/-- A text between quotes. -/
def quote (s : String) : String :=
  "\"" ++ String.ofList (s.toList.flatMap escapeChar) ++ "\""

mutual

/-- The JSON text of a value, without blanks. -/
def compact : Json → String
  | null => "null"
  | bool true => "true"
  | bool false => "false"
  | num n => n.text
  | str s => quote s
  | arr items => "[" ++ ",".intercalate (compactItems items) ++ "]"
  | obj members => "\x7b" ++ ",".intercalate (compactMembers members) ++ "\x7d"

/-- The JSON texts of several values. -/
def compactItems : List Json → List String
  | [] => []
  | item :: items => item.compact :: compactItems items

/-- The JSON texts of several members. -/
def compactMembers : List (String × Json) → List String
  | [] => []
  | (name, value) :: members => (quote name ++ ":" ++ value.compact) :: compactMembers members

end

theorem compactItems_eq_map (items : List Json) : compactItems items = items.map compact := by
  induction items with
  | nil => rw [compactItems, List.map_nil]
  | cons item items ih => rw [compactItems, List.map_cons, ih]

theorem compactMembers_eq_map (members : List (String × Json)) :
    compactMembers members = members.map fun member => quote member.1 ++ ":" ++ member.2.compact := by
  induction members with
  | nil => rw [compactMembers, List.map_nil]
  | cons member members ih => rw [compactMembers, List.map_cons, ih]

mutual

/-- The text that a value is rendered as. -/
def display : Json → String
  | null => "null"
  | bool true => "true"
  | bool false => "false"
  | num n => n.display
  | str s => s
  | arr items => ",".intercalate (displayItems items)
  | obj members => (obj members).compact

/-- The texts that the items of an array contribute. A null contributes nothing. -/
def displayItems : List Json → List String
  | [] => []
  | item :: items => (if item.isNull then "" else item.display) :: displayItems items

end

theorem displayItems_eq_map (items : List Json) :
    displayItems items = items.map fun item => if item.isNull then "" else item.display := by
  induction items with
  | nil => rw [displayItems, List.map_nil]
  | cons item items ih => rw [displayItems, List.map_cons, ih]

end Stencil.Json
