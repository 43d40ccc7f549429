/-!
# Options and usage

The options and arguments of the program, and the texts that explain them.
-/

namespace Stencil.CommandLine

/-- The name of the program. -/
def program : String := "tinytemper"

/-- The version of the program. -/
def version : String := "0.2.0"

/-- An option. None takes a value. -/
inductive Flag where
  /-- Log the steps of the work. -/
  | verbose
  /-- Drop one newline at the end of the template. -/
  | trimNewline
  /-- Show the help. -/
  | help
  /-- Show the version. -/
  | version
  deriving DecidableEq

namespace Flag

/-- All options, in the order in which the help shows them. -/
def all : List Flag :=
  [verbose, trimNewline, help, version]

/-- The long name, without its dashes. -/
def name : Flag → String
  | verbose => "verbose"
  | trimNewline => "trim-newline"
  | help => "help"
  | version => "version"

/-- The letter, for options that have one. -/
def letter? : Flag → Option Char
  | verbose => some 'v'
  | trimNewline => none
  | help => some 'h'
  | version => some 'V'

/-- How the option is written by its long name. -/
def long (flag : Flag) : String :=
  "--" ++ flag.name

/-- What the help says about the option. -/
def about : Flag → String
  | verbose => "Log debug output to stderr"
  | trimNewline => "Drop one trailing newline from the template file"
  | help => "Print help"
  | version => "Print version"

/-- The option with a long name. -/
def named? (name : String) : Option Flag :=
  all.find? (·.name == name)

/-- The option with a letter. -/
def lettered? (letter : Char) : Option Flag :=
  all.find? (·.letter? == some letter)

end Flag

/-- An argument that is told by its place. -/
inductive Positional where
  /-- The path of the template file. -/
  | template
  /-- The values, as a query string. -/
  | values
  deriving DecidableEq

namespace Positional

/-- All arguments in the order of their places. -/
def all : List Positional :=
  [template, values]

/-- The name of an argument. -/
def label : Positional → String
  | template => "TEMPLATE"
  | values => "VALUES"

/-- What the help says about the argument. -/
def about : Positional → String
  | template => "Path to the template file"
  | values => "Values as a query string, e.g. name1=value1&name2=value2"

/-- How an argument is shown: in angles if it must be given, in brackets if it may be left out. -/
def shown (optional : Bool) (p : Positional) : String :=
  if optional then "[" ++ p.label ++ "]" else "<" ++ p.label ++ ">"

end Positional

/-- Which usage line is shown. -/
inductive Usage where
  /-- The line for any call. -/
  | general
  /-- The line that goes on from what was given: these options, and so many arguments. -/
  | given (flags : List Flag) (count : Nat)

/-- The usage line. What has been given must stay, so it is shown as required. -/
def Usage.text (optional : Bool) : Usage → String
  | general => " ".intercalate (["Usage:", program, "[OPTIONS]"] ++ Positional.all.map (·.shown optional))
  | given flags count =>
    let positionals := Positional.all.zipIdx.map fun (p, place) => p.shown (optional && count ≤ place)
    " ".intercalate (["Usage:", program] ++ flags.eraseDups.map Flag.long ++ positionals)

/-- Text with blanks behind it, up to a width. -/
def padded (width : Nat) (s : String) : String :=
  s ++ String.ofList (List.replicate (width - s.length) ' ')

/-- The help. -/
def helpText (optional : Bool) : String :=
  let positional (p : Positional) := "  " ++ padded 10 (p.shown optional) ++ "  " ++ p.about ++ "\n"
  let option (f : Flag) :=
    let letter := match f.letter? with
      | some c => String.ofList ['-', c, ',', ' ']
      | none => "    "
    "  " ++ letter ++ padded 14 f.long ++ "  " ++ f.about ++ "\n"
  "Render a template file against query-string encoded values\n\n" ++ Usage.general.text optional ++ "\n\nArguments:\n"
    ++ String.join (Positional.all.map positional) ++ "\nOptions:\n" ++ String.join (Flag.all.map option)

/-- The version line. -/
def versionText : String :=
  program ++ " " ++ version ++ "\n"

end Stencil.CommandLine
