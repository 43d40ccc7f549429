import Stencil.Proofs.CommandLine.Run

/-!
# Deliveries call by call

A delivery keeps account of calls that are told here one by one (`Sink.calls`, `Sink.deliverFrom_eq_ofCalls`). Whatever
the sink answers, they keep to one order (`Sink.Follows`): every write offers just what has not been taken, a failure
ends the delivery, and the flush comes when nothing is left. So at no time has a sink taken anything but a first part
of the output, and a run reports success only if the sink has all of it and has been flushed (`CommandLine.run_sink`).
-/

namespace Stencil

namespace Sink

/-- A call to a sink with its answer. -/
inductive Call where
  | interrupted (offered : List UInt8)
  | took (offered : List UInt8) (count : Nat)
  | refused (offered : List UInt8) (reason : String)
  | flushed (outcome : Except String Unit)

/-- The bytes that a call offers. A flush offers none. -/
def Call.offered? : Call → Option (List UInt8)
  | interrupted offered => some offered
  | took offered _ => some offered
  | refused offered _ => some offered
  | flushed _ => none

def Call.taken : Call → List UInt8
  | took offered count => offered.take count
  | _ => []

/-- Why a call ends the delivery without success. -/
def Call.failure? : Call → Option String
  | took _ 0 => some stalled
  | refused _ reason => some reason
  | flushed (.error reason) => some reason
  | _ => none

/-- The bytes that were taken in a list of calls. -/
def takenIn (calls : List Call) : List UInt8 :=
  calls.flatMap Call.taken

/-- The calls that are made to deliver the bytes, from the write with that number on. -/
def calls (sink : Sink) (number : Nat) (bytes : List UInt8) : List Call :=
  if h : bytes = [] then
    [.flushed sink.flush]
  else
    let answer := sink.write number bytes
    let retried := List.replicate answer.interruptions (Call.interrupted bytes)
    match answer.outcome with
    | .error reason => retried ++ [.refused bytes reason]
    | .ok 0 => retried ++ [.took bytes 0]
    | .ok (count + 1) =>
      have : (bytes.drop (count + 1)).length < bytes.length := by
        have := List.length_pos_iff.mpr h
        simp only [List.length_drop]
        omega
      retried ++ .took bytes (count + 1) :: sink.calls (number + 1) (bytes.drop (count + 1))
termination_by bytes.length

end Sink

/-- The account of a list of calls. The first failure is the result. -/
def Delivery.ofCalls (calls : List Sink.Call) : Delivery where
  taken := Sink.takenIn calls
  writes := calls.countP fun call => call.offered?.isSome
  flushes := calls.countP fun call => call.offered?.isNone
  result := match calls.findSome? Sink.Call.failure? with
    | some reason => .error reason
    | none => .ok ()

namespace Sink

variable {sink : Sink} {left output : List UInt8} {made before after : List Call}

theorem takenIn_cons (call : Call) (calls : List Call) : takenIn (call :: calls) = call.taken ++ takenIn calls :=
  List.flatMap_cons

/-! ## The account of a delivery -/

theorem ofCalls_flushed (outcome : Except String Unit) :
    Delivery.ofCalls [.flushed outcome] = ⟨[], 0, 1, outcome⟩ := by
  cases outcome <;> rfl

theorem ofCalls_interrupted_cons (bytes : List UInt8) (calls : List Call) :
    Delivery.ofCalls (.interrupted bytes :: calls) =
      { Delivery.ofCalls calls with writes := (Delivery.ofCalls calls).writes + 1 } := by
  unfold Delivery.ofCalls
  rw [List.findSome?_cons_of_isNone rfl]
  simp [takenIn_cons, Call.taken, Call.offered?]

theorem ofCalls_took_cons (bytes : List UInt8) (count : Nat) (calls : List Call) :
    Delivery.ofCalls (.took bytes (count + 1) :: calls) =
      { Delivery.ofCalls calls with
        taken := bytes.take (count + 1) ++ (Delivery.ofCalls calls).taken
        writes := (Delivery.ofCalls calls).writes + 1 } := by
  unfold Delivery.ofCalls
  rw [List.findSome?_cons_of_isNone rfl]
  simp [takenIn_cons, Call.taken, Call.offered?]

theorem ofCalls_interrupted_append (count : Nat) (bytes : List UInt8) (calls : List Call) :
    Delivery.ofCalls (List.replicate count (.interrupted bytes) ++ calls) =
      { Delivery.ofCalls calls with writes := count + (Delivery.ofCalls calls).writes } := by
  induction count with
  | zero => rw [List.replicate_zero, List.nil_append, Nat.zero_add]
  | succ count ih =>
    rw [List.replicate_succ, List.cons_append, ofCalls_interrupted_cons, ih]
    simp only [Delivery.mk.injEq, true_and, and_true]
    omega

/-- A delivery keeps account of its calls. -/
theorem deliverFrom_eq_ofCalls (sink : Sink) (number : Nat) (bytes : List UInt8) :
    sink.deliverFrom number bytes = Delivery.ofCalls (sink.calls number bytes) := by
  fun_induction calls sink number bytes with
  | case1 number => rw [deliverFrom, dif_pos rfl, ofCalls_flushed]
  | case2 number bytes h answer retried reason houtcome =>
    rw [deliverFrom, dif_neg h, ofCalls_interrupted_append]
    simp only [answer, houtcome]
    rfl
  | case3 number bytes h answer retried houtcome =>
    rw [deliverFrom, dif_neg h, ofCalls_interrupted_append]
    simp only [answer, houtcome]
    rfl
  | case4 number bytes h answer retried count houtcome hlt ih =>
    rw [deliverFrom, dif_neg h, ofCalls_interrupted_append, ofCalls_took_cons, ← ih]
    simp only [answer, houtcome, Delivery.mk.injEq, true_and, and_true]
    omega

/-! ## The order of the calls -/

/-- Calls that deliver what is left, whatever the sink answers. -/
inductive Follows : List UInt8 → List Call → Prop where
  | flushed (outcome : Except String Unit) : Follows [] [.flushed outcome]
  | interrupted {left : List UInt8} {calls : List Call} (hleft : left ≠ []) (h : Follows left calls) :
      Follows left (.interrupted left :: calls)
  | refused {left : List UInt8} (hleft : left ≠ []) (reason : String) : Follows left [.refused left reason]
  | stalled {left : List UInt8} (hleft : left ≠ []) : Follows left [.took left 0]
  | took {left : List UInt8} {calls : List Call} (hleft : left ≠ []) (count : Nat)
      (h : Follows (left.drop (count + 1)) calls) : Follows left (.took left (count + 1) :: calls)

theorem Follows.interruptions (hleft : left ≠ []) (h : Follows left made) (count : Nat) :
    Follows left (List.replicate count (.interrupted left) ++ made) := by
  induction count with
  | zero => exact h
  | succ count ih => exact .interrupted hleft ih

theorem follows_calls (sink : Sink) (number : Nat) (bytes : List UInt8) :
    Follows bytes (sink.calls number bytes) := by
  fun_induction calls sink number bytes with
  | case1 number => exact .flushed sink.flush
  | case2 number bytes h answer retried reason houtcome => exact .interruptions h (.refused h reason) _
  | case3 number bytes h answer retried houtcome => exact .interruptions h (.stalled h) _
  | case4 number bytes h answer retried count houtcome hlt ih => exact .interruptions h (.took h count ih) _

/-- At any time the bytes that were taken and those that are left make up the output, and as long as the delivery goes
on its calls are about what is left. -/
theorem Follows.exists_left (h : Follows output made) (hmade : made = before ++ after) :
    ∃ left, takenIn before ++ left = output ∧ (after ≠ [] → Follows left after) := by
  induction before generalizing output made with
  | nil => exact ⟨output, rfl, fun _ => by rwa [hmade] at h⟩
  | cons call before ih =>
    rw [List.cons_append] at hmade
    cases h with
    | interrupted hleft h =>
      obtain ⟨rfl, hrest⟩ := List.cons.inj hmade
      obtain ⟨left, htaken, hafter⟩ := ih h hrest
      exact ⟨left, htaken, hafter⟩
    | took hleft count h =>
      obtain ⟨rfl, hrest⟩ := List.cons.inj hmade
      obtain ⟨left, htaken, hafter⟩ := ih h hrest
      refine ⟨left, ?_, hafter⟩
      rw [takenIn_cons, List.append_assoc, htaken]
      exact List.take_append_drop _ _
    | flushed | refused | stalled =>
      obtain ⟨rfl, hrest⟩ := List.cons.inj hmade
      obtain ⟨rfl, rfl⟩ := List.append_eq_nil_iff.mp hrest.symm
      exact ⟨_, List.nil_append _, fun hne => absurd rfl hne⟩

theorem Follows.takenIn_prefix (h : Follows output made) (hbefore : before <+: made) : takenIn before <+: output := by
  obtain ⟨after, hmade⟩ := hbefore
  obtain ⟨left, htaken, -⟩ := h.exists_left hmade.symm
  exact ⟨left, htaken⟩

theorem Follows.offered_eq_left {call : Call} {offered : List UInt8} (h : Follows output made)
    (hmade : made = before ++ call :: after) (hoffered : call.offered? = some offered) :
    takenIn before ++ offered = output := by
  obtain ⟨left, htaken, hafter⟩ := h.exists_left hmade
  cases hafter (List.cons_ne_nil _ _) with
  | flushed outcome => cases hoffered
  | interrupted | refused | stalled | took =>
    cases hoffered
    exact htaken

theorem Follows.flushed_last {outcome : Except String Unit} (h : Follows output made)
    (hmade : made = before ++ .flushed outcome :: after) : takenIn before = output ∧ after = [] := by
  obtain ⟨left, htaken, hafter⟩ := h.exists_left hmade
  cases hafter (List.cons_ne_nil _ _) with
  | flushed outcome =>
    rw [List.append_nil] at htaken
    exact ⟨htaken, rfl⟩

/-! ## The end of a delivery -/

theorem Follows.result_of_failure {call : Call} {reason : String} (h : Follows output made) (hcall : call ∈ made)
    (hfailure : call.failure? = some reason) : (Delivery.ofCalls made).result = .error reason := by
  induction h with
  | flushed | refused | stalled =>
    obtain rfl := List.mem_singleton.mp hcall
    unfold Delivery.ofCalls
    rw [List.findSome?_cons_of_isSome (by rw [hfailure]; rfl), hfailure]
  | interrupted hleft h ih =>
    rcases List.mem_cons.mp hcall with rfl | hrest
    · cases hfailure
    · rw [ofCalls_interrupted_cons]
      exact ih hrest
  | took hleft count h ih =>
    rcases List.mem_cons.mp hcall with rfl | hrest
    · cases hfailure
    · rw [ofCalls_took_cons]
      exact ih hrest

theorem Follows.result_eq_ok_iff (h : Follows output made) :
    (Delivery.ofCalls made).result = .ok () ↔ takenIn made = output ∧ .flushed (.ok ()) ∈ made := by
  induction h with
  | flushed outcome =>
    rw [ofCalls_flushed, List.mem_singleton, Call.flushed.injEq, eq_comm]
    exact (and_iff_right rfl).symm
  | interrupted hleft h ih =>
    rw [ofCalls_interrupted_cons, List.mem_cons]
    simpa [takenIn_cons, Call.taken] using ih
  | refused hleft reason =>
    refine iff_of_false (by simp [Delivery.ofCalls, Call.failure?]) ?_
    rintro ⟨htaken, -⟩
    exact hleft htaken.symm
  | stalled hleft =>
    refine iff_of_false (by simp [Delivery.ofCalls, Call.failure?]) ?_
    rintro ⟨htaken, -⟩
    exact hleft htaken.symm
  | @took left calls hleft count h ih =>
    have htaken : takenIn (.took left (count + 1) :: calls) = left ↔ takenIn calls = left.drop (count + 1) := by
      have hleft := List.take_append_drop (count + 1) left
      rw [takenIn_cons]
      constructor
      · intro heq
        exact List.append_cancel_left (heq.trans hleft.symm)
      · intro heq
        rw [heq]
        exact hleft
    rw [ofCalls_took_cons, List.mem_cons, htaken]
    simpa using ih

end Sink

namespace CommandLine

/-- What a run makes of the answers of its sink. A template that cannot be read ends the run before any call. Otherwise
the bytes taken so far are always a first part of the rendered text, every write offers the rest of it, and the flush
is the last call and comes when all of it has been taken. The run succeeds exactly if it was, and if the flush
succeeded. Each failure of a call is the error of the run. Nothing is written of an empty text, and only the flush
counts then. -/
theorem run_sink (request : Request) (reads : Reads) (sink : Sink) {cache : Cache} (hcache : cache.Sound) :
    let run := request.run reads cache sink
    (∀ reason, reads request.templatePath = .error reason →
      run = ⟨[], none, .error (.loading (.unreadable request.templatePath reason.message))⟩) ∧
    ∀ text, reads request.templatePath = .ok text →
      let output := Text.encode (evaluate (if request.trimNewline then withoutFinalNewline text else text)
        (Query.values request.query))
      let calls := sink.calls 0 output
      run.delivery? = some (.ofCalls calls) ∧
      (∀ before, before <+: calls → Sink.takenIn before <+: output) ∧
      (∀ before call after offered, calls = before ++ call :: after → call.offered? = some offered →
        Sink.takenIn before ++ offered = output) ∧
      (run.result = .ok () ↔ Sink.takenIn calls = output ∧ .flushed (.ok ()) ∈ calls) ∧
      (∀ before outcome after, calls = before ++ .flushed outcome :: after →
        Sink.takenIn before = output ∧ after = []) ∧
      (∀ call ∈ calls, ∀ reason, call.failure? = some reason →
        run.result = .error (.delivering (.output reason))) ∧
      (output = [] → calls = [.flushed sink.flush] ∧
        run.result = sink.flush.mapError fun reason => .delivering (.output reason)) := by
  intro run
  refine ⟨?_, ?_⟩
  · intro reason hreason
    exact run_of_readTemplate_error (readTemplate_of_error hreason)
  · intro text htext output calls
    have hread := readTemplate_of_ok htext
    have hfollows : Sink.Follows output calls := Sink.follows_calls sink 0 output
    have hdeliver : sink.deliver (evaluate (if request.trimNewline then withoutFinalNewline text else text)
        (Query.values request.query)) = .ofCalls calls := Sink.deliverFrom_eq_ofCalls sink 0 output
    have hdelivery : run.delivery? = some (.ofCalls calls) := by
      rw [← hdeliver]
      exact delivery?_run hcache hread
    have hresult : run.result =
        (Delivery.ofCalls calls).result.mapError fun reason => .delivering (.output reason) := by
      rw [← hdeliver]
      exact result_run hcache hread
    refine ⟨hdelivery, fun before => hfollows.takenIn_prefix,
      fun before call after offered => hfollows.offered_eq_left, ?_,
      fun before outcome after => hfollows.flushed_last, ?_, ?_⟩
    · rw [← hfollows.result_eq_ok_iff, hresult]
      cases (Delivery.ofCalls calls).result with
      | ok => exact iff_of_true rfl rfl
      | error reason => exact iff_of_false nofun nofun
    · intro call hcall reason hfailure
      rw [hresult, hfollows.result_of_failure hcall hfailure]
      rfl
    · intro hempty
      have hcalls : calls = [.flushed sink.flush] := by
        show sink.calls 0 output = _
        rw [hempty, Sink.calls, dif_pos rfl]
      refine ⟨hcalls, ?_⟩
      rw [hresult, hcalls, Sink.ofCalls_flushed]

theorem run_sink_stalled_and_chunked :
    let request : Request := ⟨"t", "b=xy", false, true⟩
    let reads : Reads := fun path => if path = "t" then .ok "a\x7bb\x7dc\n" else .error .notFound
    let stalling : Sink := ⟨fun number _ => if number = 0 then ⟨1, .ok 2⟩ else ⟨0, .ok 0⟩, .ok ()⟩
    (Cache.empty.Sound ∧ reads "t" = .ok "a\x7bb\x7dc\n" ∧ reads "u" = .error .notFound) ∧
    ((request.run reads .empty stalling).output = Text.encode "ax" ∧
      (request.run reads .empty stalling).result = .error (.delivering (.output "failed to write whole buffer"))) ∧
    ((request.run reads .empty (.chunked 3)).output = Text.encode "axyc" ∧
      (request.run reads .empty (.chunked 3)).result = .ok ()) ∧
    ({ request with templatePath := "u" }.run reads .empty stalling).delivery? = none := by
  intro request reads stalling
  have hread : reads request.templatePath = .ok "a\x7bb\x7dc\n" := rfl
  have hunread : reads "u" = .error .notFound := rfl
  have hevaluate : evaluate (withoutFinalNewline "a\x7bb\x7dc\n") (Query.values "b=xy") = "axyc" := by
    have hnodes : (Template.parse (withoutFinalNewline "a\x7bb\x7dc\n")).nodes =
        [.text "a", .reference ["b"], .text "c"] := by
      rw [Template.nodes_parse_eq_readChunks]
      decide
    rw [evaluate, Template.render, hnodes]
    decide
  have hstalling : stalling.calls 0 (Text.encode "axyc") =
      [.interrupted [97, 120, 121, 99], .took [97, 120, 121, 99] 2, .took [121, 99] 0] := by cbv
  have hchunked : (Sink.chunked 3).calls 0 (Text.encode "axyc") =
      [.took [97, 120, 121, 99] 3, .took [99] 3, .flushed (.ok ())] := by cbv
  obtain ⟨hdelivery, -, -, -, -, hfailure, -⟩ := (run_sink request reads stalling Cache.sound_empty).2 _ hread
  obtain ⟨hdelivery', -, -, hok, -, -, -⟩ := (run_sink request reads (.chunked 3) Cache.sound_empty).2 _ hread
  have hunreadable := (run_sink { request with templatePath := "u" } reads stalling Cache.sound_empty).1 _ hunread
  rw [if_pos rfl, hevaluate] at hdelivery hfailure hdelivery' hok
  rw [hstalling] at hdelivery hfailure
  rw [hchunked] at hdelivery' hok
  refine ⟨⟨Cache.sound_empty, hread, hunread⟩, ⟨?_, ?_⟩, ⟨?_, ?_⟩, ?_⟩
  · rw [Run.output, hdelivery]
    rfl
  · exact hfailure (.took [121, 99] 0) (by simp) _ rfl
  · rw [Run.output, hdelivery']
    rfl
  · exact hok.mpr ⟨by rfl, by simp⟩
  · rw [hunreadable]

end CommandLine

end Stencil
