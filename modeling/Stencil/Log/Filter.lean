import Stencil.Log.Event
import Stencil.Log.Pattern
import Stencil.Text.Alphanumeric
import Stencil.Text.Blank
import Stencil.Text.Cut

/-!
# Log filters

A filter is a list of directives with commas between them. A directive admits events up to a level; it may be
restricted to the targets that begin with a text, to events that have a field, or to a span:

    level   target   target=level   target[span]=level   target[{field}]=level   [{field=value}]=level

Of the directives that concern an event, the most specific one decides. Events do not belong to spans here
and fields are not compared with values, so a directive that asks for either decides nothing; but it counts
as a directive, and only a filter without any admits errors by default. It also has to be well formed: a value
is a number or a pattern (`isValue`), and a filter with any other value is invalid.

A text is read as a filter, or it is invalid, or its reader crashes: it cuts parts out of a directive at offsets that
blanks before the directive shift, and an offset inside of a character ends the program.
-/

namespace Stencil.Log

/-- The greatest level that is admitted; `none` admits nothing. -/
abbrev Threshold := Option Level

/-- The threshold that a text names: a level in letters of any case, `off`, or its rank as a number. -/
def threshold? (s : String) : Option Threshold :=
  let digits := match s.toList with
    | '+' :: digits => digits
    | digits => digits
  if digits ≠ [] ∧ digits.all Char.isDigit then
    match Nat.ofDigitChars 10 digits 0 with
    | 0 => some none
    | rank => (Level.all.find? (·.rank == rank)).map some
  else
    let name := s.map Char.toLower
    if name = "off" then some none else (Level.all.find? (·.name == name)).map some

/-- Why a text is not read as a filter. -/
inductive Failure where
  /-- It is not the text of a filter. -/
  | invalid
  /-- Its reader has crashed, with this report. -/
  | crash (report : String)

/-- A part that is not there makes a text invalid. -/
def Failure.orInvalid {α : Type} : Option α → Except Failure α
  | some a => .ok a
  | none => .error invalid

/-- One part of a filter. -/
structure Directive where
  /-- What the target of an event must begin with. -/
  target? : Option String
  /-- The span that events must belong to. -/
  span? : Option String
  /-- The fields that an event must have, and whether a value is asked for. -/
  fields : List (String × Bool)
  /-- What is admitted. -/
  threshold : Threshold

namespace Directive

open Failure (orInvalid)

/-- A directive without restrictions. -/
def plain (threshold : Threshold) : Directive :=
  ⟨none, none, [], threshold⟩

/-- Where the reader of a directive stands. Offsets say where the part that is being read begins. -/
inductive Stage where
  /-- Nothing has been read. -/
  | start
  /-- In a level or a target. -/
  | levelOrTarget (start : Nat)
  /-- In the name of a span. -/
  | span (start : Nat)
  /-- In a field. -/
  | field (start : Nat)
  /-- Behind the fields. -/
  | fields
  /-- Behind the bracket that ends the restrictions. -/
  | target
  /-- In a level. -/
  | level (start : Nat)

/-- The text is a decimal with an exponent or without. -/
def isDecimal (cs : List Char) : Bool :=
  let whole := cs.takeWhile Char.isDigit
  let (fraction, rest) := match cs.drop whole.length with
    | '.' :: cs => (cs.takeWhile Char.isDigit, cs.dropWhile Char.isDigit)
    | cs => ([], cs)
  let isExponent := match rest with
    | [] => true
    | c :: '+' :: digits => c.toLower == 'e' && digits ≠ [] && digits.all Char.isDigit
    | c :: '-' :: digits => c.toLower == 'e' && digits ≠ [] && digits.all Char.isDigit
    | c :: digits => c.toLower == 'e' && digits ≠ [] && digits.all Char.isDigit
  (whole ≠ [] || fraction ≠ []) && isExponent

/-- The text is a number, which may have a sign, be infinite or not be any number. -/
def isNumber (cs : List Char) : Bool :=
  let size := match cs with
    | '+' :: cs => cs
    | '-' :: cs => cs
    | cs => cs
  isDecimal size || ["inf", "infinity", "nan"].contains (String.ofList (size.map Char.toLower))

/-- The text is a value that a field can be compared with: a number or a pattern. The names of the truth values
are patterns. -/
def isValue (cs : List Char) : Bool :=
  isNumber cs || Pattern.isPattern cs

/-- A field as it is written: its name, and whether a value is asked for by a `=` behind it. What stands behind
another `=` is passed over. -/
def field? (s : String) : Option (String × Bool) :=
  let name := s.toList.takeWhile (· ≠ '=')
  match s.toList.drop name.length with
  | [] => some (String.ofList name, false)
  | _ :: behind => if isValue (behind.takeWhile (· ≠ '=')) then some (String.ofList name, true) else none

/-- A part of a directive. A cut through a character is a crash. -/
def part (s : String) (start stop : Nat) : Except Failure String :=
  (Text.cut s start stop).mapError .crash

/-- Reads one character at a byte offset. The parts are cut out of `s`. -/
def step (s : String) (d : Directive) (stage : Stage) (offset : Nat) (c : Char) :
    Except Failure (Directive × Stage) :=
  match stage with
  | .start =>
    if c = '[' then .ok (d, .span (offset + 1))
    else if c = '-' ∨ c = ':' ∨ c = '_' ∨ Text.isAlphanumeric c then .ok (d, .levelOrTarget offset)
    else .error .invalid
  | .levelOrTarget start =>
    if c = '=' then do
      let target ← part s start offset
      return ({ d with target? := some target }, .level (offset + 1))
    else if c = '[' then do
      let target ← part s start offset
      return ({ d with target? := some target }, .span (offset + 1))
    else .ok (d, stage)
  | .span start =>
    if c = ']' then do
      let span ← part s start offset
      return ({ d with span? := some span }, .target)
    else if c = '\x7b' then do
      let span ← part s start offset
      return ({ d with span? := if span = "" then none else some span }, .field (offset + 1))
    else .ok (d, stage)
  | .field start =>
    if c = '\x7d' then do
      let written ← part s start offset
      let field ← orInvalid (if written = "" then none else field? written)
      return ({ d with fields := d.fields ++ [field] }, .fields)
    else .ok (d, stage)
  | .fields => if c = ']' then .ok (d, .target) else .error .invalid
  | .target => if c = '=' then .ok (d, .level (offset + 1)) else .error .invalid
  | .level _ => .ok (d, stage)

/-- Reads characters from a byte offset on. -/
def steps (s : String) : Directive → Stage → Nat → List Char → Except Failure (Directive × Stage)
  | d, stage, _, [] => .ok (d, stage)
  | d, stage, offset, c :: cs => do
    let (d, stage) ← step s d stage offset c
    steps s d stage (offset + c.utf8Size) cs

/-- Reads a text as a directive. Blanks around it are passed over when it is scanned, but the parts are cut out of the
text with its blanks, at the offsets that they have without them. A level that is left out admits everything. -/
def read (s : String) : Except Failure Directive := do
  let (d, stage) ← steps s ⟨none, none, [], some .trace⟩ .start 0 (Text.trim s.toList)
  match stage with
  | .levelOrTarget start =>
    let written ← part s start s.utf8ByteSize
    match threshold? written with
    | some threshold => return { d with threshold := threshold, target? := none }
    | none => return { d with threshold := some .trace, target? := some written }
  | .level start =>
    let written ← part s start s.utf8ByteSize
    let threshold ← orInvalid (if written = "" then some (some .trace) else threshold? written)
    return { d with threshold := threshold }
  | .target => return d
  | _ => .error .invalid

/-- The directive asks for a span or for the value of a field. -/
def decidesNothing (d : Directive) : Bool :=
  d.span?.isSome || d.fields.any Prod.snd

/-- The directive concerns an event. -/
def concerns (d : Directive) (e : Event) : Bool :=
  (d.target?.getD "").toList.isPrefixOf e.target.toList && d.fields.all fun (name, _) => e.fieldNames.contains name

/-- Compares how specific two directives are: by the length of the target, the number of fields, and the
order of the texts. -/
def specificity (a b : Directive) : Ordering :=
  let size (d : Directive) := (d.target?.map fun t => t.utf8ByteSize + 1).getD 0
  (compare (size a) (size b)).then <| (compare a.fields.length b.fields.length).then <|
    (compare (a.target?.getD "") (b.target?.getD "")).then <|
      compare (a.fields.map Prod.fst) (b.fields.map Prod.fst)

end Directive

/-- The directives that decide, the most specific one first. -/
structure Filter where
  /-- The directives. -/
  directives : List Directive

/-- How texts are read as filters. -/
abbrev FilterReader := String → Except Failure Filter

namespace Filter

/-- Adds a directive in its place. It replaces one that is equally specific. -/
def insert (d : Directive) : List Directive → List Directive
  | [] => [d]
  | other :: rest =>
    match Directive.specificity d other with
    | .gt => d :: other :: rest
    | .eq => d :: rest
    | .lt => other :: insert d rest

/-- The filter of these directives; without any, errors are admitted. -/
def ofDirectives (directives : List Directive) : Filter :=
  if directives.isEmpty then ⟨[.plain (some .error)]⟩
  else ⟨(directives.filter (!·.decidesNothing)).foldl (fun ds d => insert d ds) []⟩

/-- Reads the directives of a text in order, up to the first one that fails. -/
def read : FilterReader := fun s => do
  let parts := ((s.toList.splitOn ',').filter (· ≠ [])).map String.ofList
  return ofDirectives (← parts.mapM Directive.read)

/-- The event is admitted. -/
def admits (f : Filter) (e : Event) : Bool :=
  match f.directives.find? (·.concerns e) with
  | none => false
  | some d =>
    match d.threshold with
    | none => false
    | some level => e.level.rank ≤ level.rank

end Filter

end Stencil.Log
