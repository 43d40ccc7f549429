import Stencil.Text.Alphanumeric
import Stencil.Text.Blank
import Stencil.Text.Hex

/-!
# Patterns

A directive may ask for the value of a field by a pattern, a regular expression. Since no values are compared
here, all that matters of a pattern is whether it is one: whether it keeps to the grammar, asks for nothing
that needs tables of characters, and is not nested too deeply (`isPattern`).

A pattern stands between `=` and `}` in a list with commas, so it holds none of these three characters. A
brace that opens outside of a class is therefore never closed, and no part can be repeated a given number of
times.

The readers of repeated and nested parts are bounded by a count of steps. Each step reads at least one
character, so a count above the number of characters is never used up.
-/

namespace Stencil.Log.Pattern

/-! ## Modes -/

/-- How parts of a pattern are read. A group in the pattern may change it up to the end of the group around
it. -/
structure Modes where
  /-- Blanks between parts are passed over, and so is what follows `#` in a line. -/
  spaced : Bool
  /-- Letters match in either case. -/
  caseless : Bool
  /-- Characters are matched, and not bytes. -/
  unicode : Bool

/-- The modes in which a pattern begins. -/
def Modes.start : Modes := ⟨false, false, true⟩

/-- The text behind blanks and comments, read from inside of a comment or not. -/
def skipBlanks : Bool → List Char → List Char
  | _, [] => []
  | true, c :: cs => skipBlanks (c ≠ '\n') cs
  | false, c :: cs =>
    if Text.isBlank c then skipBlanks false cs
    else if c = '#' then skipBlanks true cs
    else c :: cs

/-- The first character that is neither blank nor the mark of the first comment. -/
def peekBehindBlanks? : Bool → List Char → Option Char
  | _, [] => none
  | marked, c :: cs =>
    if Text.isBlank c then peekBehindBlanks? marked cs
    else if c = '#' ∧ !marked then peekBehindBlanks? true cs
    else some c

namespace Modes

/-- The text from the next part on. -/
def skip (modes : Modes) (cs : List Char) : List Char :=
  if modes.spaced then skipBlanks false cs else cs

/-- The character that comes next, as a look ahead inside of a class finds it. -/
def peek? (modes : Modes) (cs : List Char) : Option Char :=
  if modes.spaced then (peekBehindBlanks? false cs).or cs.head? else cs.head?

/-- Whether letters set a mode: those before `-` set it, those behind `-` end it. -/
def set (letters : List Char) (letter : Char) (old : Bool) : Bool :=
  if letter ∈ letters then !(letters.takeWhile (· ≠ letter)).contains '-' else old

/-- The modes that letters change these modes to. -/
def change (letters : List Char) (modes : Modes) : Modes :=
  ⟨set letters 'x' modes.spaced, set letters 'i' modes.caseless, set letters 'u' modes.unicode⟩

end Modes

/-- Reads the letters of modes up to the `:` or `)` that ends them, and gives that character as well. No
letter may stand twice, and `-` may not be the last one. -/
def modeLetters? (cs : List Char) : Option (List Char × Char × List Char) :=
  let letters := cs.takeWhile fun c => c ≠ ':' && c ≠ ')'
  match cs.drop letters.length with
  | [] => none
  | stop :: rest =>
    if letters.all "imsRUux-".toList.contains ∧ letters.Nodup ∧ letters.getLast? ≠ some '-' then
      some (letters, stop, rest)
    else none

/-! ## Single parts -/

/-- A part that has no parts of its own. -/
inductive Primitive where
  /-- A character; `byte` if it is written as a byte by two hexadecimal digits. -/
  | literal (c : Char) (byte : Bool)
  /-- The point, which matches anything in a line. -/
  | any
  /-- A condition on the place; `word` if it is about the ends of words. -/
  | assertion (word : Bool)
  /-- The digits, the blanks or the characters of words; `negated` for all others. -/
  | shorthand (negated : Bool)
  /-- The characters with a property. -/
  | property

/-- Reads so many hexadecimal digits. -/
def hexDigits? (modes : Modes) : Nat → List Char → Option (List Nat × List Char)
  | 0, cs => some ([], cs)
  | _ + 1, [] => none
  | count + 1, c :: cs => do
    let digit ← Text.hexValue? c
    let (digits, rest) ← hexDigits? modes count (modes.skip cs)
    some (digit :: digits, rest)

/-- Reads a character that is written by the hexadecimal digits of its code point. -/
def codePoint? (modes : Modes) (count : Nat) (cs : List Char) : Option (Char × List Char) := do
  let (digits, rest) ← hexDigits? modes count (modes.skip cs)
  let n := digits.foldl (fun n digit => 16 * n + digit) 0
  if n.isValidChar then some (Char.ofNat n, rest) else none

/-- The control character that a letter behind a backslash stands for. -/
def control? (c : Char) : Option Char :=
  match c with
  | 'a' => some '\x07'
  | 'f' => some '\x0c'
  | 't' => some '\t'
  | 'n' => some '\n'
  | 'r' => some '\r'
  | 'v' => some '\x0b'
  | _ => none

/-- Reads what stands behind a backslash. Any mark of ASCII stands for itself there, but letters and digits
only have the meanings that they are given. -/
def escaped? (modes : Modes) : List Char → Option (Primitive × List Char)
  | [] => none
  | c :: rest =>
    if c = 'x' then (codePoint? modes 2 rest).map fun (c, rest) => (.literal c true, rest)
    else if c = 'u' then (codePoint? modes 4 rest).map fun (c, rest) => (.literal c false, rest)
    else if c = 'U' then (codePoint? modes 8 rest).map fun (c, rest) => (.literal c false, rest)
    else if c = 'd' ∨ c = 's' ∨ c = 'w' then some (.shorthand false, rest)
    else if c = 'D' ∨ c = 'S' ∨ c = 'W' then some (.shorthand true, rest)
    else if c = 'p' ∨ c = 'P' then some (.property, rest)
    else if c = 'A' ∨ c = 'z' then some (.assertion false, rest)
    else if c = 'b' ∨ c = 'B' ∨ c = '<' ∨ c = '>' then some (.assertion true, rest)
    else
      match control? c with
      | some c => some (.literal c false, rest)
      | none => if c.isAlphanum ∨ '\x7f' < c then none else some (.literal c false, rest)

namespace Primitive

/-- The part may stand by itself. Nothing may depend on the case of characters, on their properties or on
which of them belong to words, and no byte beyond ASCII may be matched without its character. -/
def isAllowed (modes : Modes) : Primitive → Bool
  | literal c byte => if modes.unicode then !modes.caseless else !byte || c ≤ '\x7f'
  | any => modes.unicode
  | assertion word => !word || !modes.unicode
  | shorthand negated => !negated && !modes.unicode
  | property => false

/-- The part may stand in a class. A class of bytes can only hold those of ASCII. -/
def isAllowedInClass (modes : Modes) : Primitive → Bool
  | literal c _ => if modes.unicode then !modes.caseless else c ≤ '\x7f'
  | shorthand negated => !negated && !modes.unicode
  | _ => false

end Primitive

/-- Reads a part that has no parts of its own, outside of classes. -/
def primitive? (modes : Modes) : List Char → Option (Primitive × List Char)
  | [] => none
  | '\\' :: cs => escaped? modes cs
  | '.' :: rest => some (.any, rest)
  | '^' :: rest => some (.assertion false, rest)
  | '$' :: rest => some (.assertion false, rest)
  | c :: rest => some (.literal c false, rest)

/-! ## Depth -/

/-- The depth of parts side by side: of a single part its own. -/
def joined : List Nat → Nat
  | [] => 0
  | [depth] => depth
  | depths => depths.foldl max 0 + 1

/-- How deeply parts may be nested. -/
def maxDepth : Nat := 250

/-! ## Classes -/

/-- The classes that have names. -/
def classNames : List String :=
  ["alnum", "alpha", "ascii", "blank", "cntrl", "digit", "graph", "lower", "print", "punct", "space", "upper",
    "word", "xdigit"]

/-- Reads a class by its name behind the opening bracket, and says whether it is negated. -/
def namedClass? : List Char → Option (Bool × List Char)
  | ':' :: cs =>
    let (negated, cs) := match cs with
      | '^' :: cs => (true, cs)
      | cs => (false, cs)
    let name := cs.takeWhile (· ≠ ':')
    match cs.drop name.length with
    | ':' :: ']' :: rest => if String.ofList name ∈ classNames then some (negated, rest) else none
    | _ => none
  | _ => none

/-- A class that is given by its name may stand in a class. -/
def isNamedAllowed (modes : Modes) (negated : Bool) : Bool :=
  if modes.unicode then !modes.caseless else !negated

/-- Reads a part of a class that has no parts of its own. -/
def classPrimitive? (modes : Modes) : List Char → Option (Primitive × List Char)
  | [] => none
  | '\\' :: cs => escaped? modes cs
  | c :: rest => some (.literal c false, rest)

/-- Reads a part of a class, or a range from one character to another that is not before it. A `-` makes a
range unless `]` or another `-` comes next. -/
def classRange? (modes : Modes) (cs : List Char) : Option (List Char) := do
  let (first, rest) ← classPrimitive? modes cs
  let single := if first.isAllowedInClass modes then some (modes.skip rest) else none
  match modes.skip rest with
  | '-' :: behind =>
    let ahead := modes.peek? behind
    if ahead = some ']' ∨ ahead = some '-' then single
    else do
      let (last, rest) ← classPrimitive? modes (modes.skip behind)
      match first, last with
      | .literal low _, .literal high _ =>
        if low ≤ high ∧ first.isAllowedInClass modes ∧ last.isAllowedInClass modes then some rest else none
      | _, _ => none
  | _ => single

/-- What has been read of a class. -/
structure ClassParts where
  /-- At the start of a class `-` and, as the first part, `]` stand for themselves. -/
  atStart : Bool
  /-- The depth of what stands before the last operation, if there was one. -/
  before? : Option Nat
  /-- The depths of the parts since then. -/
  depths : List Nat

namespace ClassParts

/-- Nothing has been read. -/
def start : ClassParts := ⟨true, none, []⟩

/-- Adds a part. -/
def add (depth : Nat) (parts : ClassParts) : ClassParts :=
  { parts with atStart := false, depths := depth :: parts.depths }

/-- The depth of all parts. -/
def depth (parts : ClassParts) : Nat :=
  match parts.before? with
  | none => joined parts.depths
  | some before => max before (joined parts.depths) + 1

/-- Goes on behind an operation. -/
def operate (parts : ClassParts) : ClassParts :=
  ⟨false, some parts.depth, []⟩

end ClassParts

/-- Reads the sign of negation behind the opening bracket of a class, if it is there. A class of bytes cannot
be negated, since it would hold bytes beyond ASCII. -/
def classStart? (modes : Modes) (cs : List Char) : Option (List Char) :=
  match modes.skip cs with
  | '^' :: rest => if modes.unicode then some rest else none
  | rest => some rest

/-- Reads the parts of a class up to its closing bracket, and gives the depth of the class. -/
def class? (modes : Modes) : Nat → ClassParts → List Char → Option (Nat × List Char)
  | 0, _, _ => none
  | steps + 1, parts, cs =>
    match modes.skip cs with
    | [] => none
    | c :: rest =>
      if parts.atStart ∧ (c = '-' ∨ c = ']' ∧ parts.depths.isEmpty) then
        if (Primitive.literal c false).isAllowedInClass modes then
          class? modes steps { parts.add 0 with atStart := c = '-' } rest
        else none
      else if c = ']' then some (parts.depth + 1, rest)
      else if c = '[' then
        match namedClass? rest with
        | some (negated, behind) =>
          if isNamedAllowed modes negated then class? modes steps (parts.add 0) behind else none
        | none => do
          let (depth, behind) ← class? modes steps .start (← classStart? modes rest)
          class? modes steps (parts.add depth) behind
      else if (c = '&' ∨ c = '-' ∨ c = '~') ∧ rest.head? = some c then
        class? modes steps parts.operate (rest.drop 1)
      else do
        class? modes steps (parts.add 0) (← classRange? modes (c :: rest))

/-! ## Groups -/

/-- What a bracket opens. -/
inductive Opening where
  /-- Nothing: the modes change up to the end of the group around it. -/
  | change (modes : Modes)
  /-- A group that is read in these modes, with its name if it has one. -/
  | group (modes : Modes) (name? : Option String)

/-- Reads the name of a group and the `>` behind it. -/
def groupName? (cs : List Char) : Option (String × List Char) :=
  let isPart (c : Char) := c == '_' || c == '.' || c == '[' || c == ']' || Text.isAlphanumeric c
  let name := cs.takeWhile (· ≠ '>')
  match name, cs.drop name.length with
  | first :: others, '>' :: rest =>
    if (first = '_' ∨ Text.isAlphabetic first) ∧ others.all isPart then some (String.ofList name, rest) else none
  | _, _ => none

/-- Reads what stands behind an opening bracket before the first part of the group. -/
def opening? (modes : Modes) (cs : List Char) : Option (Opening × List Char) :=
  match modes.skip cs with
  | '?' :: 'P' :: '<' :: rest => (groupName? rest).map fun (name, rest) => (.group modes (some name), rest)
  | '?' :: '<' :: rest => (groupName? rest).map fun (name, rest) => (.group modes (some name), rest)
  | '?' :: rest => do
    let (letters, stop, rest) ← modeLetters? rest
    if stop = ':' then some (.group (modes.change letters) none, rest)
    else if letters.isEmpty then none
    else some (.change (modes.change letters), rest)
  | rest => some (.group modes none, rest)

/-- What has been read of a group, or of the pattern outside of groups. -/
structure Reading where
  /-- The modes of the next part. -/
  modes : Modes
  /-- The names of all groups so far. -/
  names : List String
  /-- The depths of the alternatives that are complete. -/
  alternatives : List Nat
  /-- The depths of the parts of the last alternative, the last one first; `none` is a change of modes, which
  cannot be repeated. -/
  parts : List (Option Nat)

namespace Reading

/-- Adds a part. -/
def add (depth : Nat) (r : Reading) : Reading :=
  { r with parts := some depth :: r.parts }

/-- The depth of the last alternative. -/
def lastDepth (r : Reading) : Nat :=
  joined (r.parts.map (·.getD 0))

/-- The depth of all that has been read. -/
def depth (r : Reading) : Nat :=
  joined (r.lastDepth :: r.alternatives)

end Reading

/-- Reads up to the end of the group or of the text. -/
def alternatives? : Nat → Reading → List Char → Option (Reading × List Char)
  | 0, _, _ => none
  | steps + 1, r, cs =>
    match r.modes.skip cs with
    | [] => some (r, [])
    | c :: rest =>
      if c = ')' then some (r, c :: rest)
      else if c = '|' then
        alternatives? steps { r with alternatives := r.lastDepth :: r.alternatives, parts := [] } rest
      else if c = '(' then
        match opening? r.modes rest with
        | none => none
        | some (.change modes, behind) =>
          alternatives? steps { r with modes := modes, parts := none :: r.parts } behind
        | some (.group modes name?, behind) =>
          if name?.any r.names.contains then none
          else
            match alternatives? steps ⟨modes, name?.toList ++ r.names, [], []⟩ behind with
            | some (inner, ')' :: behind) =>
              alternatives? steps { r.add (inner.depth + 1) with names := inner.names } behind
            | _ => none
      else if c = '[' then do
        let (depth, behind) ← class? r.modes steps .start (← classStart? r.modes rest)
        alternatives? steps (r.add depth) behind
      else if c = '?' ∨ c = '*' ∨ c = '+' then
        match r.parts with
        | some depth :: parts =>
          alternatives? steps { r with parts := some (depth + 1) :: parts }
            (if rest.head? = some '?' then rest.drop 1 else rest)
        | _ => none
      else if c = '\x7b' then none
      else do
        let (part, behind) ← primitive? r.modes (c :: rest)
        if part.isAllowed r.modes then alternatives? steps (r.add 0) behind else none

/-- The text is a pattern. -/
def isPattern (cs : List Char) : Bool :=
  match alternatives? (cs.length + 1) ⟨.start, [], [], []⟩ cs with
  | some (r, []) => r.depth ≤ maxDepth
  | _ => false

end Stencil.Log.Pattern
