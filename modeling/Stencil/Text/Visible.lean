/-!
# Visible text

What is left of a text where a terminal's control sequences cannot be shown. A sequence begins with the
character ESC, and how it goes on depends on what stands behind it (`ControlSequence`). Control characters
are left out as well, apart from those that move to another line or place: these are shown even inside most
sequences, and what they do to the sequence depends on where the text goes (`Medium`).
-/

namespace Stencil.Text

/-- Where a text goes. -/
inductive Medium where
  /-- A text that is kept. A character that is shown ends the sequence in which it stands. -/
  | text
  /-- A stream. Characters that are shown inside of a sequence only put it off: it goes on with the next
  character that could not be shown outside of sequences, unless a character beyond ASCII comes first. -/
  | stream
  deriving DecidableEq

/-- Where a reader of text with control sequences stands. -/
inductive ControlSequence where
  /-- Outside of any sequence. -/
  | outside
  /-- Right behind ESC. -/
  | escape
  /-- Behind ESC and characters up to the slash; the next character above it ends the sequence. -/
  | intermediate
  /-- In the parameters that ESC and `[` open; the next letter ends them. -/
  | parameters
  /-- In a command that ESC and `]` open; the character BEL ends it. -/
  | command
  /-- Right behind ESC and `P`. -/
  | device
  /-- In the parameters of a device command. -/
  | deviceParameters
  /-- Behind the parameters of a device command. -/
  | deviceIntermediate
  /-- In data, which ESC and one of `X`, `^`, `_` open, or the letter of a device command. -/
  | data
  deriving DecidableEq

/-- The character is shown outside of control sequences. -/
def isShown (c : Char) : Bool :=
  c == '\t' || c == '\n' || c == '\x0c' || c == '\r' || (' ' ≤ c && c != '\x7f')

/-- The byte 9C is among those that encode the character. -/
def hasStringEnd (c : Char) : Bool :=
  (String.utf8EncodeChar c).contains 0x9c

namespace ControlSequence

/-- Goes on by a character from the blank to the tilde. -/
def take (state : ControlSequence) (c : Char) : ControlSequence :=
  match state with
  | escape =>
    if c = '[' then parameters
    else if c = ']' then command
    else if c = 'P' then device
    else if c = 'X' ∨ c = '^' ∨ c = '_' then data
    else if c ≤ '/' then intermediate
    else outside
  | intermediate => if c ≤ '/' then intermediate else outside
  | parameters => if c ≤ '?' then parameters else outside
  | device => if c ≤ '/' then deviceIntermediate else if c ≤ '?' then deviceParameters else data
  | deviceParameters => if c ≤ '/' then deviceIntermediate else if c ≤ ';' then deviceParameters else data
  | deviceIntermediate => if c ≤ '/' then deviceIntermediate else data
  | state => state

/-- The state is one in which no character is shown. -/
def hidesAll : ControlSequence → Bool
  | command | device | deviceParameters | deviceIntermediate | data => true
  | _ => false

/-- Goes on by any character, and says whether it is shown. ESC begins a new sequence and two more characters
break a sequence off, wherever they stand. A character beyond ASCII says nothing inside of a sequence, but
data end at the byte 9C, also where that is part of a character. -/
def step (state : ControlSequence) (c : Char) : Bool × ControlSequence :=
  if c = '\x1b' then (false, escape)
  else if c = '\x18' ∨ c = '\x1a' then (false, outside)
  else if state = outside then (isShown c, outside)
  else if ' ' ≤ c ∧ c ≤ '~' then (false, state.take c)
  else if state = command ∧ c = '\x07' ∨ state = data ∧ hasStringEnd c then (false, outside)
  else (isShown c && c ≤ '~' && !state.hidesAll, state)

/-- The state behind a character that is shown. -/
def behindShown (medium : Medium) (state : ControlSequence) : ControlSequence :=
  match medium with
  | .text => outside
  | .stream => state

/-- The characters that are shown. While some are being shown, only one that could not be shown outside of
sequences is read as part of the sequence. -/
def shown (medium : Medium) : ControlSequence → Bool → List Char → List Char
  | _, _, [] => []
  | state, showing, c :: cs =>
    if showing && isShown c then
      c :: shown medium (if c ≤ '~' then state else outside) true cs
    else
      let (isShown, next) := state.step c
      if isShown then c :: shown medium (next.behindShown medium) true cs
      else shown medium next false cs

/-- Outside of sequences a character that is shown leaves the reader where it is. -/
theorem step_outside {c : Char} (h : isShown c = true) : outside.step c = (true, outside) := by
  have hesc : c ≠ '\x1b' := by rintro rfl; exact absurd h (by decide)
  have hcan : c ≠ '\x18' := by rintro rfl; exact absurd h (by decide)
  have hsub : c ≠ '\x1a' := by rintro rfl; exact absurd h (by decide)
  simp [step, hesc, hcan, hsub, h]

end ControlSequence

/-- A text without control sequences and control characters. -/
def visible (medium : Medium) (s : String) : String :=
  String.ofList (ControlSequence.outside.shown medium false s.toList)

/-- A text without control characters is left as it is. -/
theorem visible_eq_self {medium : Medium} {s : String} (h : s.toList.all isShown = true) :
    visible medium s = s := by
  have key (cs : List Char) (showing : Bool) (h : cs.all isShown = true) :
      ControlSequence.outside.shown medium showing cs = cs := by
    induction cs generalizing showing with
    | nil => rfl
    | cons c cs ih =>
      obtain ⟨hc, hcs⟩ := Bool.and_eq_true_iff.mp h
      have hbehind : ControlSequence.outside.behindShown medium = .outside := by cases medium <;> rfl
      cases showing <;> simp [ControlSequence.shown, ControlSequence.step_outside hc, hc, hbehind, ih _ hcs]
  rw [visible, key s.toList false h, String.ofList_toList]

end Stencil.Text
