import Stencil.CommandLine.Run
import Stencil.Proofs.Cache.Entries
import Stencil.Proofs.Template.Append

/-!
# The output of a run

A run that can read its template delivers the text that the template evaluates to, whatever the cache holds from before
(`delivery?_run`). The final newline of a template holds no brace, so nothing is read differently without it, and the
output loses the newline and nothing else (`run_trimNewline`).
-/

namespace Stencil

/-! ## Sinks that take everything -/

theorem Sink.deliverFrom_accepting (number : Nat) (bytes : List UInt8) :
    (Sink.accepting.deliverFrom number bytes).taken = bytes ∧
      (Sink.accepting.deliverFrom number bytes).result = .ok () := by
  have hnil (number : Nat) : Sink.accepting.deliverFrom number [] = ⟨[], 0, 1, .ok ()⟩ := by
    rw [deliverFrom, dif_pos rfl]
    rfl
  cases bytes with
  | nil =>
    rw [hnil]
    exact ⟨rfl, rfl⟩
  | cons b bytes =>
    have hanswer : (Sink.accepting.write number (b :: bytes)).outcome = .ok (bytes.length + 1) := rfl
    have hdrop : (b :: bytes).drop (bytes.length + 1) = [] := List.drop_length
    have htake : (b :: bytes).take (bytes.length + 1) = b :: bytes := List.take_length (l := b :: bytes)
    rw [deliverFrom, dif_neg (List.cons_ne_nil b bytes)]
    simp only [hanswer, hdrop, htake, hnil, List.append_nil, and_self]

theorem Sink.taken_deliver_accepting (output : String) :
    (Sink.accepting.deliver output).taken = Text.encode output :=
  (deliverFrom_accepting 0 (Text.encode output)).1

theorem Sink.result_deliver_accepting (output : String) : (Sink.accepting.deliver output).result = .ok () :=
  (deliverFrom_accepting 0 (Text.encode output)).2

/-! ## Templates from a cache -/

theorem Cache.Sound.template_compile {cache : Cache} (h : cache.Sound) (stamp : Nat) (source : String) :
    (cache.compile stamp source).2.1.template = Template.parse source := by
  rw [Cache.compile_snd, Cache.settle_handle]
  cases hfind : cache.find? source with
  | some handle => exact h.template_eq_parse hfind
  | none => rfl

namespace CommandLine

/-! ## Runs -/

/-- The bytes that a run has put out. -/
def Run.output (run : Run) : List UInt8 :=
  (run.delivery?.map Delivery.taken).getD []

variable {request : Request} {reads : Reads} {cache : Cache} {sink : Sink} {source : String}

theorem readTemplate_of_ok {text : String} (h : reads request.templatePath = .ok text) :
    request.readTemplate reads = .ok (if request.trimNewline then withoutFinalNewline text else text) := by
  rw [Request.readTemplate, h]

theorem readTemplate_of_error {reason : ReadError} (h : reads request.templatePath = .error reason) :
    request.readTemplate reads = .error (.unreadable request.templatePath reason.message) := by
  rw [Request.readTemplate, h]

theorem run_of_readTemplate_error {error : CommandError} (h : request.readTemplate reads = .error error) :
    request.run reads cache sink = ⟨[], none, .error (.loading error)⟩ := by
  rw [Request.run, h]

/-- A run delivers what its template evaluates to, and ends as the delivery does. -/
theorem exists_run_eq (sink : Sink) (hcache : cache.Sound) (h : request.readTemplate reads = .ok source) :
    let delivery := sink.deliver (evaluate source (Query.values request.query))
    ∃ events, request.run reads cache sink =
      ⟨events, some delivery, delivery.result.mapError fun reason => .delivering (.output reason)⟩ := by
  intro delivery
  have htemplate := hcache.template_compile 0 source
  have hdelivery : delivery =
      sink.deliver ((cache.compile 0 source).2.1.template.render (Query.values request.query)) := by
    rw [htemplate]
    rfl
  rw [hdelivery, Query.values, Request.run, h]
  simp only
  split
  · rename_i hresult
    rw [hresult]
    exact ⟨_, rfl⟩
  · rename_i reason hresult
    rw [hresult]
    exact ⟨_, rfl⟩

theorem delivery?_run (hcache : cache.Sound) (h : request.readTemplate reads = .ok source) :
    (request.run reads cache sink).delivery? = some (sink.deliver (evaluate source (Query.values request.query))) := by
  obtain ⟨events, hrun⟩ := exists_run_eq sink hcache h
  rw [hrun]

theorem result_run (hcache : cache.Sound) (h : request.readTemplate reads = .ok source) :
    (request.run reads cache sink).result =
      (sink.deliver (evaluate source (Query.values request.query))).result.mapError
        fun reason => .delivering (.output reason) := by
  obtain ⟨events, hrun⟩ := exists_run_eq sink hcache h
  rw [hrun]

theorem output_run_accepting (hcache : cache.Sound) (h : request.readTemplate reads = .ok source) :
    (request.run reads cache .accepting).output = Text.encode (evaluate source (Query.values request.query)) := by
  rw [Run.output, delivery?_run hcache h, Option.map_some, Option.getD_some, Sink.taken_deliver_accepting]

theorem result_run_accepting (hcache : cache.Sound) (h : request.readTemplate reads = .ok source) :
    (request.run reads cache .accepting).result = .ok () := by
  rw [result_run hcache h, Sink.result_deliver_accepting]
  rfl

/-! ## The final newline -/

theorem finalNewline_eq_ite (s : String) :
    finalNewline s =
      if "\r\n".toList <:+ s.toList then "\r\n" else if "\n".toList <:+ s.toList then "\n" else "" := by
  have hreverse (ending : List Char) : ending <:+ s.toList ↔ ending.reverse <+: s.toList.reverse :=
    List.reverse_prefix.symm
  have hcrlf : "\r\n".toList.reverse = ['\n', '\r'] := rfl
  have hlf : "\n".toList.reverse = ['\n'] := rfl
  simp only [hreverse, hcrlf, hlf]
  unfold finalNewline
  split
  · rename_i rest h
    rw [h, if_pos (by simp)]
  · rename_i rest hne h
    have hcarriage : ¬ ['\n', '\r'] <+: '\n' :: rest := by
      rintro ⟨more, hmore⟩
      exact hne more (List.cons.inj hmore).2.symm
    rw [h, if_neg hcarriage, if_pos (by simp)]
  · rename_i hne hne'
    have hfeed : ¬ ['\n'] <+: s.toList.reverse := by
      rintro ⟨more, hmore⟩
      exact hne' more hmore.symm
    have hcarriage : ¬ ['\n', '\r'] <+: s.toList.reverse := by
      rintro ⟨more, hmore⟩
      exact hne more hmore.symm
    rw [if_neg hcarriage, if_neg hfeed]

theorem not_mem_finalNewline (s : String) : '}' ∉ (finalNewline s).toList := by
  rw [finalNewline_eq_ite]
  split
  · decide
  · split
    · decide
    · decide

/-- Dropping the final newline of a template drops it from the output and changes nothing else. No part of the
template is read differently because of it. -/
theorem run_trimNewline (request : Request) {reads : Reads} {text : String}
    (hread : reads request.templatePath = .ok text) {cache other : Cache} (hcache : cache.Sound)
    (hother : other.Sound) :
    let newline :=
      if "\r\n".toList <:+ text.toList then "\r\n" else if "\n".toList <:+ text.toList then "\n" else ""
    let kept := { request with trimNewline := false }.run reads cache .accepting
    let trimmed := { request with trimNewline := true }.run reads other .accepting
    kept.result = .ok () ∧ trimmed.result = .ok () ∧ kept.output = trimmed.output ++ Text.encode newline ∧
      ∃ source, text = source ++ newline ∧
        trimmed.output = Text.encode (evaluate source (Query.values request.query)) ∧
        (Template.parse text).nodes =
          Template.appendNodes (Template.parse source).nodes (Template.parse newline).nodes := by
  intro newline kept trimmed
  have hnewline : finalNewline text = newline := finalNewline_eq_ite text
  have htext : text = withoutFinalNewline text ++ newline := by
    rw [← hnewline, withoutFinalNewline_append]
  have hclose : '}' ∉ newline.toList := hnewline ▸ not_mem_finalNewline text
  have hkept : { request with trimNewline := false }.readTemplate reads = .ok text := by
    simp [Request.readTemplate, hread]
  have htrimmed : { request with trimNewline := true }.readTemplate reads = .ok (withoutFinalNewline text) := by
    simp [Request.readTemplate, hread]
  have hevaluate : evaluate text (Query.values request.query) =
      evaluate (withoutFinalNewline text) (Query.values request.query) ++ newline := by
    rw [← Template.evaluate_append_of_not_mem _ _ hclose, ← htext]
  have hnodes := Template.nodes_parse_append (a := withoutFinalNewline text) (.inr hclose)
  rw [← htext] at hnodes
  have houtput : trimmed.output = Text.encode (evaluate (withoutFinalNewline text) (Query.values request.query)) :=
    output_run_accepting hother htrimmed
  refine ⟨result_run_accepting hcache hkept, result_run_accepting hother htrimmed, ?_, withoutFinalNewline text,
    htext, houtput, hnodes⟩
  have hencode (s t : String) : Text.encode (s ++ t) = Text.encode s ++ Text.encode t := by
    simp [Text.encode]
  rw [houtput, ← hencode, ← hevaluate]
  exact output_run_accepting hcache hkept

theorem run_trimNewline_open_brace :
    let request : Request := ⟨"t", "a=1", false, false⟩
    let reads : Reads := fun _ => .ok "\x7ba\x7d\x7bb\r\n"
    (reads request.templatePath = .ok "\x7ba\x7d\x7bb\r\n" ∧ Cache.empty.Sound) ∧
    ({ request with trimNewline := true }.run reads .empty .accepting).output = Text.encode "1\x7bb" ∧
    ({ request with trimNewline := false }.run reads .empty .accepting).output = Text.encode "1\x7bb\r\n" := by
  intro request reads
  have hread : reads request.templatePath = .ok "\x7ba\x7d\x7bb\r\n" := rfl
  obtain ⟨-, -, hkept, source, htext, htrimmed, -⟩ :=
    run_trimNewline request hread Cache.sound_empty Cache.sound_empty
  have hnewline : (if "\r\n".toList <:+ "\x7ba\x7d\x7bb\r\n".toList then "\r\n"
      else if "\n".toList <:+ "\x7ba\x7d\x7bb\r\n".toList then "\n" else "") = "\r\n" := by decide
  rw [hnewline] at hkept htext
  have hsource : source = "\x7ba\x7d\x7bb" := (String.append_left_inj "\r\n").mp htext.symm
  have hevaluate : evaluate "\x7ba\x7d\x7bb" (Query.values "a=1") = "1\x7bb" := by
    have hnodes : (Template.parse "\x7ba\x7d\x7bb").nodes = [.reference ["a"], .text "\x7bb"] := by
      rw [Template.nodes_parse_eq_readChunks]
      decide
    rw [evaluate, Template.render, hnodes]
    decide
  rw [hsource] at htrimmed
  have houtput : ({ request with trimNewline := true }.run reads .empty .accepting).output =
      Text.encode "1\x7bb" := by
    rw [htrimmed, hevaluate]
  refine ⟨⟨hread, Cache.sound_empty⟩, houtput, ?_⟩
  rw [hkept, houtput]
  decide

end CommandLine

end Stencil
