import Stencil.Proofs.CommandLine.Arguments
import Stencil.Proofs.CommandLine.Run
import Stencil.Proofs.Log.Filter

/-!
# The outcome of a call

What a call leaves behind: the rendered text and status 0, or no output and status 1, or a text that was asked for.
What it logs shows neither in the output nor in the status (`call_outcome`). That takes a reader of log filters that
answers for the values of the log variables (`AnswersIn`); if it crashes instead, the call ends there without output.
-/

namespace Stencil.CommandLine

open Log (Event Filter FilterReader)

variable {request : Request} {arguments louder : List String} {reads : Reads}
variable {reader : FilterReader} {environment environment' : Environment} {filter : Filter}

/-- Two calls leave the same behind, but for standard error. -/
structure Result.Agree (r s : Result) : Prop where
  status : r.status = s.status
  stdout : r.stdout = s.stdout

/-! ## Log filters -/

/-- The reader answers for all that the log variables hold: it reads a filter, or it says that there is none. -/
def AnswersIn (reader : FilterReader) (environment : Environment) : Prop :=
  ∀ name ∈ logVariables, ∀ value, environment name = some value → ∀ report, reader value ≠ .error (.crash report)

/-- The program itself reads filters in such a way, as long as no directive begins with a blank. -/
theorem answersIn_read (h : ∀ name ∈ logVariables, ∀ value, environment name = some value →
    ∀ directive ∈ value.toList.splitOn ',', directive.head?.any Text.isBlank = false) :
    AnswersIn Filter.read environment :=
  fun name hname value hvalue => Filter.read_ne_crash (h name hname value hvalue)

theorem exists_heldFilter {names : List String}
    (h : ∀ name ∈ names, ∀ value, environment name = some value → ∀ report, reader value ≠ .error (.crash report)) :
    ∃ held, heldFilter reader environment names = .ok held := by
  induction names with
  | nil => exact ⟨none, rfl⟩
  | cons name names ih =>
    obtain ⟨hname, hnames⟩ := List.forall_mem_cons.mp h
    unfold heldFilter
    cases hvalue : environment name with
    | none => exact ih hnames
    | some value =>
      rw [Option.map_some]
      cases hread : reader value with
      | ok filter => exact ⟨some filter, rfl⟩
      | error failure =>
        cases failure with
        | invalid => exact ih hnames
        | crash report => exact absurd hread (hname value hvalue report)

theorem AnswersIn.exists_logFilter (h : AnswersIn reader environment) (level : Log.Level) :
    ∃ filter, logFilter reader environment level = .ok filter := by
  obtain ⟨held, hheld⟩ := exists_heldFilter h
  unfold logFilter
  rw [hheld]
  exact ⟨_, rfl⟩

/-! ## Texts on standard error -/

theorem RunError.message_loading_unreadable (path reason : String) :
    (loading (.unreadable path reason)).message =
      "failed to load template: " ++ ("Cannot read template: " ++ (path ++ ": " ++ reason)) := by
  unfold RunError.message CommandError.unreadable CommandError.message
  exact Eq.refl _

theorem Request.line_loggingEvent (request : Request) :
    request.loggingEvent.line =
      "DEBUG Logging initialized with level: " ++ (if request.verbose then "debug" else "warn") := by
  unfold loggingEvent logLevel Event.line
  cases request.verbose with
  | true => decide
  | false => decide

/-- The line of an event, if it is admitted, and another line. -/
theorem lines_admitted (filter : Filter) (event : Event) (message : String) :
    lines (([event].filter filter.admits).map Event.line ++ [message]) =
      (if filter.admits event then event.line ++ "\n" else "") ++ (message ++ "\n") := by
  by_cases h : filter.admits event
  · simp [lines, h, String.join_cons]
  · simp [lines, h, String.join_cons]

namespace Request

theorem call_of_crash {report : String} (h : logFilter reader environment request.logLevel = .error report)
    (reads : Reads) : request.call reader environment reads = .crashed report := by
  rw [call, h]

theorem call_of_read {text : String} (hfilter : logFilter reader environment request.logLevel = .ok filter)
    (h : reads request.templatePath = .ok text) :
    (request.call reader environment reads).status = 0 ∧
      (request.call reader environment reads).stdout =
        Text.encode (evaluate (if request.trimNewline then withoutFinalNewline text else text)
          (Query.values request.query)) := by
  have hread := readTemplate_of_ok h
  have hresult := result_run_accepting Cache.sound_empty hread
  have houtput := output_run_accepting Cache.sound_empty hread
  rw [call, hfilter]
  simp only [hresult]
  exact ⟨trivial, houtput⟩

theorem call_of_unreadable {reason : ReadError}
    (hfilter : logFilter reader environment request.logLevel = .ok filter)
    (h : reads request.templatePath = .error reason) :
    (request.call reader environment reads).status = 1 ∧ (request.call reader environment reads).stdout = [] ∧
      (request.call reader environment reads).stderr =
        (if filter.admits request.loggingEvent then
          "DEBUG Logging initialized with level: " ++ (if request.verbose then "debug" else "warn") ++ "\n"
        else "") ++
        "Error: failed to load template: Cannot read template: " ++ request.templatePath ++ ": " ++ reason.message ++
          "\n" := by
  have hread := readTemplate_of_error h
  have hbegin : "Error: failed to load template: Cannot read template: " =
      "Error: " ++ ("failed to load template: " ++ "Cannot read template: ") := by decide
  rw [call, hfilter, run_of_readTemplate_error hread]
  refine ⟨rfl, rfl, ?_⟩
  show lines (([request.loggingEvent].filter filter.admits).map Event.line ++ [_]) = _
  rw [lines_admitted, line_loggingEvent, RunError.message_loading_unreadable, hbegin]
  simp only [String.append_assoc]

/-- Neither the verbose option nor the environment shows in what a call leaves behind. -/
theorem call_agree {louder : Request} (h : louder = { request with verbose := louder.verbose })
    (hanswers : AnswersIn reader environment) (hanswers' : AnswersIn reader environment') (reads : Reads) :
    (request.call reader environment reads).Agree (louder.call reader environment' reads) := by
  have hpath : louder.templatePath = request.templatePath := by rw [h]
  have htrim : louder.trimNewline = request.trimNewline := by rw [h]
  have hquery : louder.query = request.query := by rw [h]
  obtain ⟨filter, hfilter⟩ := hanswers.exists_logFilter request.logLevel
  obtain ⟨filter', hfilter'⟩ := hanswers'.exists_logFilter louder.logLevel
  cases hread : reads request.templatePath with
  | ok text =>
    obtain ⟨hstatus, hstdout⟩ := call_of_read hfilter hread
    obtain ⟨hstatus', hstdout'⟩ := call_of_read hfilter' (hpath ▸ hread)
    rw [htrim, hquery] at hstdout'
    exact ⟨hstatus.trans hstatus'.symm, hstdout.trans hstdout'.symm⟩
  | error reason =>
    obtain ⟨hstatus, hstdout, -⟩ := call_of_unreadable hfilter hread
    obtain ⟨hstatus', hstdout', -⟩ := call_of_unreadable hfilter' (hpath ▸ hread)
    exact ⟨hstatus.trans hstatus'.symm, hstdout.trans hstdout'.symm⟩

end Request

/-! ## Calls by their arguments -/

theorem call_of_request (h : read false arguments = .ok (.request request)) :
    callWith reader arguments environment reads = request.call reader environment reads := by
  rw [callWith, h]

theorem call_of_rejected {reason : Rejection} (h : read false arguments = .error (.rejected reason)) :
    callWith reader arguments environment reads = ⟨1, [], reason.message .stream false⟩ := by
  rw [callWith, h]

theorem call_of_help (h : read false arguments = .error .help) :
    callWith reader arguments environment reads = ⟨0, Text.encode (helpText false), ""⟩ := by
  rw [callWith, h]

theorem call_of_version (h : read false arguments = .error .version) :
    callWith reader arguments environment reads = ⟨0, Text.encode versionText, ""⟩ := by
  rw [callWith, h]

/-- Two lists ask for the same, but for the verbose option and the reason of a rejection. -/
inductive SameDemand : Except Stop Outcome → Except Stop Outcome → Prop where
  | request {request louder : Request} (h : louder = { request with verbose := louder.verbose }) :
    SameDemand (.ok (.request request)) (.ok (.request louder))
  | help : SameDemand (.error .help) (.error .help)
  | version : SameDemand (.error .version) (.error .version)
  | rejected (reason reason' : Rejection) : SameDemand (.error (.rejected reason)) (.error (.rejected reason'))

theorem SameDemand.refl (arguments : List String) : SameDemand (read false arguments) (read false arguments) := by
  cases hread : read false arguments with
  | ok outcome =>
    cases outcome with
    | request request => exact .request rfl
    | incomplete missing => exact absurd hread (read_ne_incomplete arguments missing)
  | error stop =>
    cases stop with
    | help => exact .help
    | version => exact .version
    | rejected reason => exact .rejected reason reason

/-- Reading that goes alike asks for the same, unless the option is repeated. -/
theorem SameDemand.of_alike (h : Alike (Progress.start.read arguments) (Progress.start.read louder)) :
    read false louder = .error (.rejected (.repeated .verbose)) ∨
      SameDemand (read false arguments) (read false louder) := by
  generalize hread : Progress.start.read arguments = outcome at h
  generalize hread' : Progress.start.read louder = outcome' at h
  cases h with
  | repeated => exact .inl (read_of_error hread' false)
  | help =>
    rw [read_of_error hread, read_of_error hread']
    exact .inr .help
  | version =>
    rw [read_of_error hread, read_of_error hread']
    exact .inr .version
  | rejected reason reason' =>
    rw [read_of_error hread, read_of_error hread']
    exact .inr (.rejected reason reason')
  | @ok p q h =>
    right
    by_cases hfew : p.positionals.length < 2
    · obtain ⟨reason, hreason⟩ := read_of_few hread hfew
      obtain ⟨reason', hreason'⟩ := read_of_few hread' (h.positionals ▸ hfew)
      rw [hreason, hreason']
      exact .rejected reason reason'
    · obtain ⟨path, query, rest, hp⟩ : ∃ path query rest, p.positionals = path :: query :: rest := by
        match hp : p.positionals with
        | path :: query :: rest => exact ⟨path, query, rest, rfl⟩
        | [_] => simp [hp] at hfew
        | [] => simp [hp] at hfew
      have htrim : decide (Flag.trimNewline ∈ q.flags) = decide (Flag.trimNewline ∈ p.flags) :=
        decide_eq_decide.mpr (h.flags .trimNewline (by decide))
      rw [read_of_two hread hp, read_of_two hread' (h.positionals.trans hp), htrim]
      exact .request rfl

/-- Lists that ask for the same are calls that leave the same behind, in any environments that the reader answers
in. -/
theorem call_agree (h : SameDemand (read false arguments) (read false louder))
    (hanswers : AnswersIn reader environment) (hanswers' : AnswersIn reader environment') (reads : Reads) :
    (callWith reader arguments environment reads).Agree (callWith reader louder environment' reads) := by
  generalize hread : read false arguments = outcome at h
  generalize hread' : read false louder = outcome' at h
  cases h with
  | request h =>
    rw [call_of_request hread, call_of_request hread']
    exact Request.call_agree h hanswers hanswers' reads
  | help =>
    rw [call_of_help hread, call_of_help hread']
    exact ⟨rfl, rfl⟩
  | version =>
    rw [call_of_version hread, call_of_version hread']
    exact ⟨rfl, rfl⟩
  | rejected reason reason' =>
    rw [call_of_rejected hread, call_of_rejected hread']
    exact ⟨rfl, rfl⟩

/-- What a call leaves behind, for any reader of log filters. If its arguments are accepted and the reader answers, the
output is the rendered text or, if the template cannot be read, nothing at all; rejected arguments give no output
either. The status says which it was, and the failed load is reported behind what was logged. Neither the log variables
nor the verbose option change the output or the status, unless that option is given twice. A crash of the reader ends
the call before there is any output. -/
theorem call_outcome (reader : FilterReader) (arguments : List String) (environment : Environment) (reads : Reads) :
    let result := callWith reader arguments environment reads
    (∀ request, read false arguments = .ok (.request request) →
      (AnswersIn reader environment → ∃ filter, logFilter reader environment request.logLevel = .ok filter ∧
        (∀ text, reads request.templatePath = .ok text →
          result.status = 0 ∧
            result.stdout = Text.encode (evaluate (if request.trimNewline then withoutFinalNewline text else text)
              (Query.values request.query))) ∧
        ∀ reason, reads request.templatePath = .error reason →
          result.status = 1 ∧ result.stdout = [] ∧
            result.stderr =
              (if filter.admits request.loggingEvent then
                "DEBUG Logging initialized with level: " ++ (if request.verbose then "debug" else "warn") ++ "\n"
              else "") ++
              "Error: failed to load template: Cannot read template: " ++ request.templatePath ++ ": " ++
                reason.message ++ "\n") ∧
      (∀ report, logFilter reader environment request.logLevel = .error report →
        result.status = 101 ∧ result.stdout = [] ∧ result.stderr = report ++ "\n") ∧
      ∀ arguments' request' environment', read false arguments' = .ok (.request request') →
        request' = { request with verbose := request'.verbose } →
        AnswersIn reader environment → AnswersIn reader environment' →
        result.Agree (callWith reader arguments' environment' reads)) ∧
    (∀ reason, read false arguments = .error (.rejected reason) → result.status = 1 ∧ result.stdout = []) ∧
    (read false arguments = .error .help ∨ read false arguments = .error .version → result.status = 0) ∧
    (∀ missing, read false arguments ≠ .ok (.incomplete missing)) ∧
    (AnswersIn reader environment → ∀ environment', AnswersIn reader environment' →
      result.Agree (callWith reader arguments environment' reads) ∧
      ∀ before flag after, arguments = before ++ after → "--" ∉ before → flag = "-v" ∨ flag = "--verbose" →
        read false (before ++ flag :: after) = .error (.rejected (.repeated .verbose)) ∨
          result.Agree (callWith reader (before ++ flag :: after) environment' reads)) := by
  intro result
  refine ⟨fun request hrequest => ?_, ?_, ?_, read_ne_incomplete arguments, fun hanswers environment' hanswers' =>
    ⟨call_agree (.refl arguments) hanswers hanswers' reads, ?_⟩⟩
  · have hcall : result = request.call reader environment reads := call_of_request hrequest
    refine ⟨fun hanswers => ?_, fun report hreport => ?_, ?_⟩
    · obtain ⟨filter, hfilter⟩ := hanswers.exists_logFilter request.logLevel
      rw [hcall]
      exact ⟨filter, hfilter, fun text => Request.call_of_read hfilter,
        fun reason => Request.call_of_unreadable hfilter⟩
    · rw [hcall, Request.call_of_crash hreport]
      exact ⟨rfl, rfl, by simp [Result.crashed, lines, String.join_cons]⟩
    · intro arguments' request' environment' hrequest' hverbose hanswers hanswers'
      have hsame : SameDemand (read false arguments) (read false arguments') := by
        rw [hrequest, hrequest']
        exact .request hverbose
      exact call_agree hsame hanswers hanswers' reads
  · intro reason hreason
    have hcall : result = ⟨1, [], reason.message .stream false⟩ := call_of_rejected hreason
    rw [hcall]
    exact ⟨rfl, rfl⟩
  · rintro (hhelp | hversion)
    · have hcall : result = ⟨0, Text.encode (helpText false), ""⟩ := call_of_help hhelp
      rw [hcall]
    · have hcall : result = ⟨0, Text.encode versionText, ""⟩ := call_of_version hversion
      rw [hcall]
  · intro before flag after harguments hdashes hflag
    subst harguments
    have halike : Alike (Progress.start.read (before ++ after)) (Progress.start.read (before ++ flag :: after)) :=
      Progress.alike_read_insert hdashes hflag Progress.start
    exact (SameDemand.of_alike halike).imp_right fun h => call_agree h hanswers hanswers' reads

theorem call_outcome_verbose :
    let reads : Reads := fun path => if path = "t" then .ok "\x7ba\x7d\n" else .error .notFound
    let silent : Environment := fun _ => none
    let traced : Environment := fun _ => some "trace"
    let cut : Environment := fun _ => some " é=info"
    (AnswersIn Filter.read silent ∧ AnswersIn Filter.read traced) ∧
    read false ["t", "--trim-newline", "a=1"] = .ok (.request ⟨"t", "a=1", false, true⟩) ∧
    ((call ["t", "--trim-newline", "a=1"] silent reads).status = 0 ∧
      (call ["t", "--trim-newline", "a=1"] silent reads).stdout = Text.encode "1") ∧
    ((call ["t", "-v", "--trim-newline", "a=1"] traced reads).status = 0 ∧
      (call ["t", "-v", "--trim-newline", "a=1"] traced reads).stdout = Text.encode "1") ∧
    ((call ["u", "a=1"] traced reads).status = 1 ∧ (call ["u", "a=1"] traced reads).stdout = [] ∧
      (call ["u", "a=1"] traced reads).stderr =
        "DEBUG Logging initialized with level: warn\n" ++
        "Error: failed to load template: Cannot read template: u: No such file or directory (os error 2)\n") ∧
    ((call ["u", "a=1"] cut reads).status = 101 ∧ (call ["u", "a=1"] cut reads).stdout = []) := by
  intro reads silent traced cut
  have hsilent : AnswersIn Filter.read silent := by
    intro name _ value hvalue
    cases hvalue
  have htraced : AnswersIn Filter.read traced := by
    refine answersIn_read fun name _ value hvalue => ?_
    obtain rfl := Option.some.inj hvalue
    decide
  have hread : read false ["t", "--trim-newline", "a=1"] = .ok (.request ⟨"t", "a=1", false, true⟩) := rfl
  let missing : Request := ⟨"u", "a=1", false, false⟩
  have hmissing : read false ["u", "a=1"] = .ok (.request missing) := rfl
  have hlouder : read false ["t", "-v", "--trim-newline", "a=1"] = .ok (.request ⟨"t", "a=1", true, true⟩) := rfl
  have hevaluate : evaluate (withoutFinalNewline "\x7ba\x7d\n") (Query.values "a=1") = "1" := by
    have hnodes : (Template.parse (withoutFinalNewline "\x7ba\x7d\n")).nodes = [.reference ["a"]] := by
      rw [Template.nodes_parse_eq_readChunks]
      decide
    rw [evaluate, Template.render, hnodes]
    decide
  obtain ⟨hrequest, -, -, -, hagree⟩ := call_outcome Filter.read ["t", "--trim-newline", "a=1"] silent reads
  obtain ⟨-, -, htext, -⟩ := (hrequest _ hread).1 hsilent
  obtain ⟨hstatus, hstdout⟩ := htext "\x7ba\x7d\n" rfl
  rw [if_pos rfl, hevaluate] at hstdout
  have hsingle : read false ["t", "-v", "--trim-newline", "a=1"] ≠ .error (.rejected (.repeated .verbose)) := by
    intro h
    rw [hlouder] at h
    cases h
  have hsame := ((hagree hsilent traced htraced).2 ["t"] "-v" ["--trim-newline", "a=1"] rfl (by decide)
    (.inl rfl)).resolve_left hsingle
  obtain ⟨filter, hfilter, -, hreason⟩ :=
    ((call_outcome Filter.read ["u", "a=1"] traced reads).1 _ hmissing).1 htraced
  have hadmits : (logFilter Filter.read traced missing.logLevel).toOption.map (·.admits missing.loggingEvent) =
      some true := by decide +kernel
  rw [hfilter] at hadmits
  obtain ⟨hstatus', hstdout', hstderr⟩ := hreason .notFound rfl
  rw [if_pos (Option.some.inj hadmits)] at hstderr
  obtain ⟨report, hreport⟩ : ∃ report, logFilter Filter.read cut missing.logLevel = .error report := by
    have hfails : (logFilter Filter.read cut missing.logLevel).isOk = false := by decide +kernel
    cases h : logFilter Filter.read cut missing.logLevel with
    | ok filter =>
      rw [h] at hfails
      cases hfails
    | error report => exact ⟨report, rfl⟩
  obtain ⟨hcrashed, hnothing, -⟩ :=
    ((call_outcome Filter.read ["u", "a=1"] cut reads).1 _ hmissing).2.1 report hreport
  exact ⟨⟨hsilent, htraced⟩, hread, ⟨hstatus, hstdout⟩,
    ⟨hsame.status.symm.trans hstatus, hsame.stdout.symm.trans hstdout⟩, ⟨hstatus', hstdout', hstderr⟩, hcrashed,
    hnothing⟩

end Stencil.CommandLine
