/-!
# Blanks

The characters that count as blank in all scripts, and texts without the blanks around them.
-/

namespace Stencil.Text

/-- The character is blank: a space of any width, a tabulator, or a line or paragraph end. -/
def isBlank (c : Char) : Bool :=
  c.isWhitespace || c == '\x0b' || c == '\x0c' || c == '\u0085' || c == '\u00a0' || c == '\u1680'
    || ('\u2000' ≤ c && c ≤ '\u200a') || c == '\u2028' || c == '\u2029' || c == '\u202f' || c == '\u205f'
    || c == '\u3000'

/-- Characters without the blanks before the first and behind the last that is not blank. -/
def trim (cs : List Char) : List Char :=
  ((cs.dropWhile isBlank).reverse.dropWhile isBlank).reverse

end Stencil.Text
