import Stencil.Text.Graphic

/-!
# Quoted text

How a text is shown in a message: between double quotes, with everything escaped that could be misread. A
quoted text is meant for a reader's eye and is never read back, so its escapes are not those of JSON.
-/

namespace Stencil.Text

/-- How a character is shown inside quotes. Quotes, backslashes and the usual blanks are escaped by a
letter; what has no shape of its own is shown by its code point in hexadecimal. -/
def quotedChar (c : Char) : List Char :=
  if c = '\x00' then ['\\', '0']
  else if c = '\t' then ['\\', 't']
  else if c = '\r' then ['\\', 'r']
  else if c = '\n' then ['\\', 'n']
  else if c = '"' then ['\\', '"']
  else if c = '\\' then ['\\', '\\']
  else if isGraphic c then [c]
  else ['\\', 'u', '{'] ++ Nat.toDigits 16 c.toNat ++ ['}']

/-- A text as it is shown in a message. -/
def quoted (s : String) : String :=
  "\"" ++ String.ofList (s.toList.flatMap quotedChar) ++ "\""

end Stencil.Text
