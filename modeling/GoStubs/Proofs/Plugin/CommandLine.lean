import GoStubs.Plugin.CommandLine
import GoStubs.Proofs.Plugin.Independence
import GoStubs.Proofs.Wire.Request
import GoStubs.Proofs.Wire.Response
/-!
# The program and its bytes

What the program reads is what was written, and what it writes can be read again. A request is read
back from its bytes up to a depth of nesting that its reader allows; bytes that are no request are
the only ones on which the program itself fails. For every request its output is a response, which
carries either the error of the run or the files that were asked for.

* `Responds`: what the response to a request is.
* `Rereads`: what becomes of a request between writing and reading.
* `readRequest_encodeRequest`, `execute_answers`: requests are reread, and all bytes are answered.
-/

namespace GoStubs.Plugin

open GoStubs.Proto (WithinLevels)
open GoStubs.Wire

/-! ## Responses -/

/-- What the response to a request is: either the message of the error that stops the run, and no
file, or else no error and one file for each that the request names, in their order. -/
inductive Responds (request : Proto.Request) : Proto.Response → Prop where
  | failure {e : Error} (h : (generate request).result = .error e) :
      Responds request ⟨some e.message, 1, []⟩
  | success {config : Config} {files : List Proto.OutputFile}
      (hconfig : (Config.parse request.parameter).result = .ok config)
      (h : (generate request).result = .ok files)
      (hfiles : List.Forall₂ (Generates config request.files) request.filesToGenerate files) :
      Responds request ⟨none, 1, files⟩

theorem responds_respond (request : Proto.Request) : Responds request (respond request).2 := by
  cases hresult : (generate request).result with
  | error e =>
    rw [respond_of_error hresult]
    exact .failure hresult
  | ok files =>
    rw [respond_of_ok hresult]
    have hrun := hresult
    rw [result_generate] at hrun
    obtain ⟨config, hconfig, hfiles⟩ := bind_eq_ok_iff.mp hrun
    refine .success hconfig hresult ((mapM_eq_ok_iff.mp hfiles).imp fun _ _ hfile => ?_)
    exact generateNamed_eq_ok_iff.mp hfile

theorem supportedFeatures_lt {request : Proto.Request} {response : Proto.Response}
    (h : Responds request response) : response.supportedFeatures < 2 ^ 64 := by
  have hone : 1 < 2 ^ 64 := by decide
  cases h with
  | failure _ => exact hone
  | success _ _ _ => exact hone

/-! ## Requests -/

theorem readRequest_eq_ok_iff {bytes : List UInt8} {request : Proto.Request} :
    readRequest bytes = .ok request ↔ decodeRequest bytes = some request := by
  unfold readRequest
  cases decodeRequest bytes <;> simp

theorem readRequest_eq_error_iff {bytes : List UInt8} :
    readRequest bytes = .error (.malformedRequest malformedCause) ↔ decodeRequest bytes = none := by
  unfold readRequest
  cases decodeRequest bytes <;> simp

/-- What becomes of a request between writing and reading. -/
structure Rereads (request : Proto.Request) : Prop where
  /-- It is read back exactly if no message in its files is declared more than 99 levels deep, given
  that every length in its bytes could be written. -/
  reread : readRequest (encodeRequest request) = .ok request ↔
    (∀ f ∈ request.files, WithinLevels 99 f.messages) ∧ (requestFields request).Measured
  /-- That is so for all lengths if the bytes are less than `2 ^ 64`. -/
  measured : (encodeRequest request).length < 2 ^ 64 → (requestFields request).Measured
  /-- It is refused if some message is declared deeper. -/
  tooDeep : (∃ f ∈ request.files, ¬ WithinLevels 99 f.messages) →
    readRequest (encodeRequest request) = .error (.malformedRequest malformedCause)
  /-- It is never read as another request. -/
  unchanged : ∀ other, readRequest (encodeRequest request) = .ok other → request = other

/-- **Rereading.** Reading undoes writing for all requests whose messages are declared at most 99
levels deep inside each other, and for no other requests. -/
theorem readRequest_encodeRequest (request : Proto.Request) : Rereads request where
  reread := by
    rw [readRequest_eq_ok_iff, decodeRequest_encodeRequest_eq_some_iff]
    simp only [and_true]
  measured := measured_requestFields
  tooDeep := by
    intro ⟨f, hf, hdeep⟩
    rw [readRequest_eq_error_iff, Option.eq_none_iff_forall_ne_some]
    intro other hother
    exact hdeep ((decodeRequest_encodeRequest_eq_some_iff.mp hother).1.1 f hf)
  unchanged := by
    intro other hother
    exact (decodeRequest_encodeRequest_eq_some_iff.mp (readRequest_eq_ok_iff.mp hother)).2

/-! ## The program -/

/-- What the program does without arguments if it reads a request: it succeeds, and what it writes
is read back as the response to the request. -/
structure Answers (request : Proto.Request) (x : Execution) : Prop where
  exitCode : x.exitCode = 0
  responds : Responds request (respond request).2
  output : x.output = encodeResponse (respond request).2
  /-- The response is read back if every length in it could be written. -/
  readsBack : ReadsBack x.output (respond request).2 ↔
    (responseFields (respond request).2).Measured
  /-- That is so if the output has less than `2 ^ 64` bytes. -/
  measured : x.output.length < 2 ^ 64 → (responseFields (respond request).2).Measured

/-- The encoded response answers the request, whatever else the user is told. -/
theorem answers_of_output {request : Proto.Request} {x : Execution} (hexit : x.exitCode = 0)
    (houtput : x.output = encodeResponse (respond request).2) : Answers request x := by
  have hresponds := responds_respond request
  have hfeatures := supportedFeatures_lt hresponds
  refine ⟨hexit, hresponds, houtput, ?_, ?_⟩
  · rw [houtput]
    exact readsBack_encodeResponse_iff hfeatures
  · rw [houtput]
    exact measured_responseFields hfeatures

theorem execute_nil (input : List UInt8) : execute [] input =
    match decodeRequest input with
    | none => .failed (Error.malformedRequest malformedCause).message
    | some request =>
      ⟨0, encodeResponse (respond request).2, shownReports (respond request).1⟩ := by
  simp only [execute, Command.parse?, answer, readRequest]
  cases decodeRequest input <;> rfl

/-- **Answers.** Without arguments, the program fails on bytes that encode no request and then
writes nothing; on all others it succeeds and answers the request. -/
theorem execute_answers (input : List UInt8) :
    match decodeRequest input with
    | none => (execute [] input).exitCode = 1 ∧ (execute [] input).output = []
    | some request => Answers request (execute [] input) := by
  rw [execute_nil]
  cases decodeRequest input with
  | none => exact ⟨rfl, rfl⟩
  | some request => exact answers_of_output rfl rfl

/-- A number that is cut off is no request. -/
example : (execute [] [0xff, 0xff, 0xff]).exitCode = 1 := by rfl

/-- The empty request is one, and there is nothing to generate. -/
example : (execute [] []).output = encodeResponse ⟨none, 1, []⟩ := by rfl

end GoStubs.Plugin
