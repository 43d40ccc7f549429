import Stencil.CommandLine.Options
import Stencil.CommandLine.Similarity
import Stencil.Text.Visible

/-!
# Arguments

How the arguments of a call are read. An argument that begins with `--` is a long option, one that begins with
a single `-` is a row of letters, and everything else is told by its place, as are `-` alone and all arguments
behind the first `--`. The arguments are read in order up to the first that decides the outcome, help and
version included; only then is it asked whether something is missing.
-/

namespace Stencil.CommandLine

/-- What a call asks for. -/
structure Request where
  /-- The path of the template file. -/
  templatePath : String
  /-- The values, as a query string. -/
  query : String
  /-- Log the steps of the work. -/
  verbose : Bool
  /-- Drop one newline at the end of the template. -/
  trimNewline : Bool
  deriving DecidableEq

/-- What to do about an unexpected argument. -/
inductive Tip where
  /-- Use the option with a similar name. -/
  | similar (flag : Flag)
  /-- Put `--` in front of it. -/
  | asValue

/-- Why arguments are rejected. -/
inductive Rejection where
  /-- An argument that is not known, or one too many. -/
  | unexpected (argument : String) (tip? : Option Tip) (usage : Usage)
  /-- An option that was given before. -/
  | repeated (flag : Flag)
  /-- An option with a value. -/
  | unneededValue (flag : Flag) (value : String) (usage : Usage)
  /-- Arguments that are missing. -/
  | missing (positionals : List Positional) (usage : Usage)

/-- What ends the reading of arguments, other than their end. -/
inductive Stop where
  /-- The help is asked for. -/
  | help
  /-- The version is asked for. -/
  | version
  /-- The arguments are rejected. -/
  | rejected (reason : Rejection)

/-- The usage line that goes with a rejection. -/
def Rejection.usage : Rejection → Usage
  | unexpected _ _ usage => usage
  | repeated _ => .general
  | unneededValue _ _ usage => usage
  | missing _ usage => usage

/-- What a tip says about an argument. -/
def Tip.text (medium : Text.Medium) (argument : String) : Tip → String
  | similar flag => "a similar argument exists: '" ++ flag.long ++ "'"
  | asValue =>
    let argument := Text.visible medium argument
    "to pass '" ++ argument ++ "' as a value, use '-- " ++ argument ++ "'"

/-- What a rejection says, without the usage. Arguments are quoted as far as they are visible. -/
def Rejection.reason (medium : Text.Medium) : Rejection → String
  | unexpected argument tip? _ =>
    "unexpected argument '" ++ Text.visible medium argument ++ "' found"
      ++ (tip?.map fun tip => "\n\n  tip: " ++ tip.text medium argument).getD ""
  | repeated flag => "the argument '" ++ flag.long ++ "' cannot be used multiple times"
  | unneededValue flag value _ =>
    "unexpected value '" ++ Text.visible medium value ++ "' for '" ++ flag.long ++ "' found; no more were expected"
  | missing positionals _ =>
    "the following required arguments were not provided:"
      ++ String.join (positionals.map fun p => "\n  " ++ p.shown false)

/-- The message of a rejection. -/
def Rejection.message (medium : Text.Medium) (optional : Bool) (r : Rejection) : String :=
  "error: " ++ r.reason medium ++ "\n\n" ++ r.usage.text optional ++ "\n\nFor more information, try '--help'.\n"

/-- What has been read of the arguments. -/
structure Progress where
  /-- The options, in order. -/
  flags : List Flag
  /-- The arguments that are told by their place, in order. -/
  positionals : List String
  /-- How many of these have had something behind them. The last one is not settled before that. -/
  settled : Nat

namespace Progress

/-- Nothing has been read. -/
def start : Progress := ⟨[], [], 0⟩

/-- All arguments so far are settled. -/
def settle (p : Progress) : Progress :=
  { p with settled := p.positionals.length }

/-- Takes an option. -/
def flag (flag : Flag) (p : Progress) : Except Stop Progress :=
  match flag with
  | .help => .error .help
  | .version => .error .version
  | flag =>
    if flag ∈ p.flags then .error (.rejected (.repeated flag))
    else .ok { p.settle with flags := p.flags ++ [flag] }

/-- The option is unknown. If a similar one exists, the usage goes on as though that one had been given. -/
def unknownLong (name : String) (p : Progress) : Rejection :=
  let similar? := mostSimilar? Flag.name name Flag.all
  let flags := p.flags ++ similar?.toList
  let usage := if flags.isEmpty && p.positionals.isEmpty then .general else .given flags p.positionals.length
  .unexpected ("--" ++ name) (some ((similar?.map Tip.similar).getD .asValue)) usage

/-- Takes a long option, given what stands behind its dashes. -/
def long (body : List Char) (p : Progress) : Except Stop Progress :=
  let name := String.ofList (body.takeWhile (· ≠ '='))
  match Flag.named? name with
  | none => .error (.rejected (p.unknownLong name))
  | some flag =>
    if '=' ∈ body then
      let value := String.ofList ((body.dropWhile (· ≠ '=')).drop 1)
      .error (.rejected (.unneededValue flag value (.given (p.flags ++ [flag]) p.settled)))
    else p.flag flag

/-- Takes a row of option letters. -/
def letters (row : List Char) (p : Progress) : Except Stop Progress :=
  row.foldlM
    (fun p letter =>
      match Flag.lettered? letter with
      | none => .error (.rejected (.unexpected (String.ofList ['-', letter]) (some .asValue) .general))
      | some flag => p.flag flag)
    p

/-- Takes an argument that is told by its place. -/
def positional (argument : String) (p : Progress) : Except Stop Progress :=
  if p.positionals.length < Positional.all.length then
    .ok { p.settle with positionals := p.positionals ++ [argument] }
  else
    .error (.rejected (.unexpected argument none .general))

/-- Takes all arguments. -/
def read (p : Progress) : List String → Except Stop Progress
  | [] => .ok p
  | argument :: rest =>
    match argument.toList with
    | ['-', '-'] => rest.foldlM (fun p argument => p.positional argument) p
    | '-' :: '-' :: body => do (← p.long body).read rest
    | '-' :: letter :: row => do (← p.letters (letter :: row)).read rest
    | _ => do (← p.positional argument).read rest

end Progress

/-- Arguments that may be left out are missing all the same where they are needed. -/
inductive Outcome where
  /-- All arguments are there. -/
  | request (request : Request)
  /-- An argument that may be left out is missing. -/
  | incomplete (missing : Positional)

/-- Reads the arguments of a call, without the name of the program. If `optional` holds, missing arguments are
no reason for rejection. -/
def read (optional : Bool) (arguments : List String) : Except Stop Outcome := do
  let p ← Progress.start.read arguments
  let verbose := decide (Flag.verbose ∈ p.flags)
  let trimNewline := decide (Flag.trimNewline ∈ p.flags)
  match p.positionals with
  | path :: query :: _ => .ok (.request ⟨path, query, verbose, trimNewline⟩)
  | given =>
    let missing := Positional.all.drop given.length
    if optional then .ok (.incomplete (missing.headD .values))
    else .error (.rejected (.missing missing (.given p.flags given.length)))

end Stencil.CommandLine
