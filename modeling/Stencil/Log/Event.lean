/-!
# Log events

What the program reports about its work, on standard error only. An event has a level, the part of the
program that it comes from, a message, and fields with values.
-/

namespace Stencil.Log

/-- How much an event matters. -/
inductive Level where
  /-- Something failed. -/
  | error
  /-- Something may be wrong. -/
  | warn
  /-- A step of the work. -/
  | info
  /-- What a step did. -/
  | debug
  /-- Every detail. -/
  | trace
  deriving DecidableEq

namespace Level

/-- All levels, from the one that matters most. -/
def all : List Level :=
  [error, warn, info, debug, trace]

/-- The place of a level, counted from one. -/
def rank : Level → Nat
  | error => 1
  | warn => 2
  | info => 3
  | debug => 4
  | trace => 5

/-- The name of a level in small letters. -/
def name : Level → String
  | error => "error"
  | warn => "warn"
  | info => "info"
  | debug => "debug"
  | trace => "trace"

/-- The name of a level as a line shows it: five wide, in capitals. -/
def label : Level → String
  | error => "ERROR"
  | warn => " WARN"
  | info => " INFO"
  | debug => "DEBUG"
  | trace => "TRACE"

end Level

/-- Something that the program reports. -/
structure Event where
  /-- The level. -/
  level : Level
  /-- The part of the program, a path of names with `::` between them. -/
  target : String
  /-- The message. -/
  message : String
  /-- The fields besides the message, with their values as they are shown. -/
  fields : List (String × String)

namespace Event

/-- The names of all fields; the message counts as one. -/
def fieldNames (e : Event) : List String :=
  "message" :: e.fields.map Prod.fst

/-- The line that shows an event. -/
def line (e : Event) : String :=
  e.level.label ++ " " ++ e.message ++ String.join (e.fields.map fun (name, value) => " " ++ name ++ "=" ++ value)

end Event

end Stencil.Log
