import Stencil.Text.Bytes
import Stencil.Template.Basic

/-!
# Reading template text

A placeholder is `{`, one or more of `A-Z a-z 0-9 _ $ . -`, and `}`. Text is scanned once from left to right.
At each stop the scanner looks at the first `{` ahead:

* if a placeholder opens there, what stands before it is literal text and the placeholder is a reference;
* otherwise everything up to and including the next `}` is literal text, and all the rest if there is no `}`.

So only the first `{` ahead can open a placeholder, and a malformed one costs the text up to its `}`. No text
is refused.

What was seen at the first `{` ahead is remembered until the scan has passed it, since stray `}` may make the
scanner stop many times before that brace. Every cut is checked (`Text.slice?`), and `run?` goes on only
while each stop lies behind the last; `none` stands for an illegal cut or a stop that does not advance.
-/

namespace Stencil

/-- A `{` that may open a placeholder. -/
structure OpenBrace where
  /-- Its offset. -/
  offset : Nat
  /-- The offset of the `}` that ends the placeholder, if one opens here. -/
  closing? : Option Nat
  deriving DecidableEq

/-- Where a scan stands. -/
structure Scanner where
  /-- The offset up to which the text has been read. -/
  pos : Nat
  /-- Literal text that no node holds yet. -/
  literal : String
  /-- The nodes so far. -/
  nodes : Array Node
  /-- The last `{` that was looked at. -/
  seen? : Option OpenBrace
  /-- No `{` is left ahead. -/
  exhausted : Bool
  deriving DecidableEq

/-- The bytes that a reference is written with. -/
def isReferenceByte (b : UInt8) : Bool :=
  let c := Char.ofUInt8 b
  c.isAlphanum || c == '_' || c == '$' || c == '.' || c == '-'

/-- The offset of the `}` of a placeholder whose reference begins at `start`: a `}` right behind at least
one reference byte and nothing else. -/
def OpenBrace.closingAfter? (s : String) (start : Nat) : Option Nat :=
  let stop := Text.skipWhile s isReferenceByte start
  if start < stop ∧ Text.byte? s stop = some '}'.toUInt8 then some stop else none

/-- A fresh look at the first `{` at or after an offset. -/
def OpenBrace.after? (s : String) (pos : Nat) : Option OpenBrace :=
  (Text.findByte? s '{'.toUInt8 pos).map fun offset => ⟨offset, closingAfter? s (offset + 1)⟩

namespace Scanner

/-- A scan that has read nothing. -/
def start : Scanner := ⟨0, "", #[], none, false⟩

/-- Searches for the first `{` ahead and remembers the outcome. -/
def search? (s : String) (st : Scanner) : Option (Option OpenBrace × Scanner) :=
  if st.exhausted then
    some (none, st)
  else if Text.IsBoundary s st.pos then
    match OpenBrace.after? s st.pos with
    | some brace => some (some brace, { st with seen? := some brace })
    | none => some (none, { st with seen? := none, exhausted := true })
  else
    none

/-- The first `{` ahead: the one that was seen last, unless the scan has passed it, else a fresh search. -/
def lookAhead? (s : String) (st : Scanner) : Option (Option OpenBrace × Scanner) :=
  match st.seen? with
  | some brace => if st.pos ≤ brace.offset then some (some brace, st) else st.search? s
  | none => st.search? s

/-- Reads on to offset `stop` and keeps what was read as literal text. -/
def keepTo? (s : String) (stop : Nat) (st : Scanner) : Option Scanner :=
  (Text.slice? s st.pos stop).map fun part => { st with pos := stop, literal := st.literal ++ part }

/-- Turns the pending literal text into a node, unless it is empty. -/
def flush (st : Scanner) : Scanner :=
  if st.literal.isEmpty then st
  else { st with literal := "", nodes := st.nodes.push (.text st.literal) }

/-- Reads the placeholder with braces at `opening` and `closing`, and the literal text before it. -/
def placeholder? (s : String) (opening closing : Nat) (st : Scanner) : Option Scanner := do
  let st ← st.keepTo? s opening
  let dotted ← Text.slice? s (opening + 1) closing
  let st := st.flush
  some { st with pos := closing + 1, nodes := st.nodes.push (Node.ofDotted dotted) }

/-- Keeps everything up to and including the next `}` as literal text, or all the rest. -/
def keepThroughClose? (s : String) (st : Scanner) : Option Scanner :=
  if Text.IsBoundary s st.pos then
    match Text.findByte? s '}'.toUInt8 st.pos with
    | some close => st.keepTo? s (close + 1)
    | none => st.keepTo? s s.utf8ByteSize
  else
    none

/-- Reads on from one stop to the next. -/
def step? (s : String) (st : Scanner) : Option Scanner := do
  let (brace?, st) ← st.lookAhead? s
  match brace? with
  | some ⟨opening, some closing⟩ => st.placeholder? s opening closing
  | _ => st.keepThroughClose? s

/-- Reads on to the end of the text. -/
def run? (s : String) (st : Scanner) : Option Scanner :=
  if st.pos < s.utf8ByteSize then
    match st.step? s with
    | some next => if st.pos < next.pos then run? s next else none
    | none => none
  else
    some st.flush
termination_by s.utf8ByteSize - st.pos

end Scanner

/-- The template that a text is read as. -/
def Template.parse (s : String) : Template :=
  ⟨((Scanner.start.run? s).elim #[] Scanner.nodes).toList⟩

end Stencil
