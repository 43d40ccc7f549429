import Stencil.Cache.Basic
import Stencil.CommandLine.Arguments
import Stencil.CommandLine.Error
import Stencil.File.Tree
import Stencil.Log.Filter
import Stencil.Query.Values
import Stencil.Sink
import Stencil.Text.Quoted

/-!
# A run of the program

`Request.run` reads the template, decodes the values, renders, and delivers the output to a sink. `call` is the
program as a whole: from the arguments, the environment and the files to the exit status and the two output
texts. Standard output holds the rendered text and nothing else; log lines and errors go to standard error.

What is read is given as a function from paths, so that files in memory and files on disk serve alike. How a text is
read as a log filter is given to `callWith` in the same way; `call` reads filters by `Filter.read`.
-/

namespace Stencil.CommandLine

open Log (Event Filter FilterReader Level)

/-- The outcome of reading the file at a path as text. -/
abbrev Reads := String → Except ReadError String

/-- The newline that a text ends with: a line feed with the carriage return before it, if there is one. -/
def finalNewline (s : String) : String :=
  match s.toList.reverse with
  | '\n' :: '\r' :: _ => "\r\n"
  | '\n' :: _ => "\n"
  | _ => ""

/-- A text without the newline that it ends with. -/
def withoutFinalNewline (s : String) : String :=
  String.ofList (s.toList.take (s.toList.length - (finalNewline s).length))

/-- The final newline and nothing else is taken away. -/
theorem withoutFinalNewline_append (s : String) : withoutFinalNewline s ++ finalNewline s = s := by
  have key (kept ending : List Char) (hs : s.toList.reverse = ending.reverse ++ kept.reverse)
      (he : finalNewline s = String.ofList ending) : withoutFinalNewline s ++ finalNewline s = s := by
    have hs : s.toList = kept ++ ending := by
      rw [← List.reverse_inj, hs, List.reverse_append]
    apply String.ext
    simp [withoutFinalNewline, he, hs]
  have he := finalNewline.eq_def s
  split at he
  · rename_i rest h
    exact key rest.reverse ['\r', '\n'] (by simp [h]) he
  · rename_i rest _ h
    exact key rest.reverse ['\n'] (by simp [h]) he
  · exact key s.toList [] (by simp) he

/-- Why a run fails: at which of its two ends, and the error there. -/
inductive RunError where
  /-- The template could not be loaded. -/
  | loading (error : CommandError)
  /-- The output could not be delivered. -/
  | delivering (error : CommandError)

namespace RunError

/-- The error itself. -/
def error : RunError → CommandError
  | loading error => error
  | delivering error => error

/-- The message, with what was being done where that is not plain from the error. -/
def message : RunError → String
  | loading error => "failed to load template: " ++ error.message
  | delivering error => error.message

end RunError

/-- An account of a run. -/
structure Run where
  /-- What was reported. -/
  events : List Event
  /-- The delivery of the output, if it came to that. -/
  delivery? : Option Delivery
  /-- How the run ended. -/
  result : Except RunError Unit

/-- The part of the program that runs a call. -/
def appTarget : String := "tinytemper::cli::app"

/-- The cache reports how it found a source. -/
def lookupEvent (lookup : Lookup) (source : String) : Event :=
  let message := match lookup with
    | .hit => "template cache hit"
    | .hitAfterWait => "template cache hit after wait"
    | .miss => "template cache miss"
  ⟨.trace, "tinytemper::template::cache", message, [("source", Text.quoted source)]⟩

/-- The reader of templates reports what it has read. -/
def parsedEvent (source : String) (t : Template) : Event :=
  ⟨.debug, "tinytemper::template::parser", "parsed template",
    [("nodes", t.nodes.length.repr), ("len", source.utf8ByteSize.repr)]⟩

/-- What is reported when a cache compiles a source. -/
def compileEvents (lookup : Lookup) (source : String) (t : Template) : List Event :=
  match lookup with
  | .miss => [lookupEvent .miss source, parsedEvent source t]
  | lookup => [lookupEvent lookup source]

namespace Request

/-- The level of the log unless the environment asks for another. -/
def logLevel (request : Request) : Level :=
  if request.verbose then .debug else .warn

/-- The text of the template, without its final newline if that is asked for. -/
def readTemplate (request : Request) (reads : Reads) : Except CommandError String :=
  match reads request.templatePath with
  | .error reason => .error (.unreadable request.templatePath reason.message)
  | .ok text => .ok (if request.trimNewline then withoutFinalNewline text else text)

/-- The report that rendering begins. -/
def renderingEvent (request : Request) (values : Members Json) : Event :=
  ⟨.info, appTarget, "rendering template", [("path", request.templatePath), ("keys", values.length.repr)]⟩

/-- The report that the log is ready. -/
def loggingEvent (request : Request) : Event :=
  ⟨.debug, appTarget, "Logging initialized with level: " ++ request.logLevel.name, []⟩

/-- Renders the template against the values of the query and delivers the text. -/
def run (request : Request) (reads : Reads) (cache : Cache) (sink : Sink) : Run :=
  match request.readTemplate reads with
  | .error error => ⟨[], none, .error (.loading error)⟩
  | .ok source =>
    let values := Query.members (Query.pairs request.query)
    let (lookup, handle, _) := cache.compile 0 source
    let events := request.renderingEvent values :: compileEvents lookup source handle.template
    let delivery := sink.deliver (handle.template.render (Json.obj values))
    match delivery.result with
    | .ok () => ⟨events, some delivery, .ok ()⟩
    | .error reason => ⟨events, some delivery, .error (.delivering (.output reason))⟩

end Request

/-- The values of the environment variables that are set. A value that is no text counts as none, since it is no filter
either. -/
abbrev Environment := String → Option String

/-- The variables that may hold a log filter. The earlier one counts if both do. -/
def logVariables : List String := ["RUST_LOG", "TINYTEMPER_LOG"]

/-- The first filter that one of the variables holds, if there is one. A variable that is not set or whose value is
invalid is passed over, and a crash ends the search with its report. -/
def heldFilter (reader : FilterReader) (environment : Environment) : List String → Except String (Option Filter)
  | [] => .ok none
  | name :: names =>
    match (environment name).map reader with
    | some (.ok filter) => .ok (some filter)
    | some (.error (.crash report)) => .error report
    | some (.error .invalid) | none => heldFilter reader environment names

/-- The log filter, or the report of the crash by which it is not found: what a variable holds, and otherwise the level
that the call asks for. -/
def logFilter (reader : FilterReader) (environment : Environment) (level : Level) : Except String Filter := do
  let held ← heldFilter reader environment logVariables
  return held.getD (Filter.ofDirectives [.plain (some level)])

/-- What a call leaves behind. -/
structure Result where
  /-- The exit status. -/
  status : Nat
  /-- The bytes on standard output. -/
  stdout : List UInt8
  /-- The text on standard error. -/
  stderr : String

/-- The text of lines, with an end behind each. -/
def lines (ls : List String) : String :=
  String.join (ls.map (· ++ "\n"))

/-- What a crash leaves behind. Besides its report, the system names the thread and the place in the code. -/
def Result.crashed (report : String) : Result :=
  ⟨101, [], lines [report]⟩

/-- Runs a call with complete arguments, with all output accepted. -/
def Request.call (reader : FilterReader) (request : Request) (environment : Environment) (reads : Reads) : Result :=
  match logFilter reader environment request.logLevel with
  | .error report => .crashed report
  | .ok filter =>
    let run := request.run reads .empty .accepting
    let log := ((request.loggingEvent :: run.events).filter filter.admits).map Event.line
    let stdout := (run.delivery?.map Delivery.taken).getD []
    match run.result with
    | .ok () => ⟨0, stdout, lines log⟩
    | .error e => ⟨e.error.exitStatus, stdout, lines (log ++ ["Error: " ++ e.message])⟩

/-- The error of a call that lacks an argument. -/
def missingArgument (p : Positional) : CommandError :=
  .arguments ("missing " ++ p.label ++ " argument")

/-- The program, but for how it reads log filters: the outcome of a call with those arguments, without the name of the
program. -/
def callWith (reader : FilterReader) (arguments : List String) (environment : Environment) (reads : Reads) : Result :=
  match read false arguments with
  | .ok (.request request) => request.call reader environment reads
  | .ok (.incomplete p) => ⟨(missingArgument p).exitStatus, [], lines [(missingArgument p).message]⟩
  | .error .help => ⟨0, Text.encode (helpText false), ""⟩
  | .error .version => ⟨0, Text.encode versionText, ""⟩
  | .error (.rejected reason) => ⟨1, [], reason.message .stream false⟩

/-- The program. -/
def call : List String → Environment → Reads → Result :=
  callWith Filter.read

end Stencil.CommandLine
