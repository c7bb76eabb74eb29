import AutoImport.Binding.Json
import AutoImport.Proofs.Json.RoundTrip
import AutoImport.Proofs.Pieces

/-!
# Answers for programs

Whatever sequence of calls the output gets, a program that reads it is told each result once
(`json_answers_agree`): in one document on one stream, which parses, and has in it what the call was
given and the exit status that the call returns. What is for people only writes nothing.

The parts of an answer are put together in several places, and have to agree. An answer is
consistent if its code is that of its exit status, and it brings data just if that is a success
(`Response.Consistent`). Every way to make an answer gives a consistent one, and giving it a context
keeps it consistent; and of a consistent answer all fields agree (`Response.Consistent.isIn`).
-/

namespace AutoImport

/-- The name of an exit status in answers. -/
def ExitStatus.name : ExitStatus → String
  | success => "OK"
  | generalError => "GENERAL_ERROR"
  | notFound => "NOT_FOUND"
  | parseError => "PARSE_ERROR"
  | ioError => "FILE_READ_ERROR"
  | configError => "CONFIG_ERROR"

theorem ExitStatus.code_eq_zero_iff (status : ExitStatus) :
    status.code = 0 ↔ status = .success := by
  cases status <;> decide

/-- A binding fits, whatever its texts are. -/
theorem Binding.fits_toJson (b : Binding) : b.toJson.fits := by
  simp [toJson, fields, Json.fits, Json.fieldsFit]

/-! ## What is told -/

/-- What a program is told: on which stream, how the command ends, a message, and the data that was
    asked for or the details of a failure. -/
structure Told where
  stream : Stream
  status : ExitStatus
  message : String
  outcome : Outcome

/-- What is told of a success. -/
def Told.success (data : Json) : Told :=
  ⟨.out, .success, "Operation completed successfully", .data data⟩

/-- What is told of something that is not there. -/
def Told.notFound (entity name : String) : Told :=
  ⟨.out, .notFound, entity ++ " '" ++ name ++ "' not found",
    .failure ["Check the spelling", "Ensure the imports file lists it"] none⟩

/-- A JSON value tells all of this, each in a field of its own, and nothing that contradicts it. -/
structure Told.IsIn (told : Told) (j : Json) : Prop where
  object : ∃ fields, j = .obj fields ∧ (fields.map (·.1)).Nodup
  exitCode : j.get? "exit_code" = some (.int told.status.code)
  status : j.get? "status" = some (.str (if told.status.code = 0 then "success" else "error"))
  code : j.get? "code" = some (.str told.status.name)
  message : j.get? "message" = some (.str told.message)
  data : (j.get? "data").isSome ↔ told.status.code = 0
  error : (j.get? "error").isSome ↔ told.status.code ≠ 0
  outcome : match told.outcome with
    | .data value => j.get? "data" = some value
    | .failure suggestions context? => ∃ details, j.get? "error" = some details ∧
        details.get? "suggestions" = some (.arr (suggestions.map .str)) ∧
        details.get? "context" = context?

/-- The JSON values of an outcome fit. -/
def Outcome.fits : Outcome → Bool
  | data value => value.fits
  | failure _ context? => context?.all Json.fits

namespace Response

variable {r : Response}

/-- The code of an answer is that of its exit status, and it brings data just if that is a
    success. -/
structure Consistent (r : Response) : Prop where
  code : r.code = r.exitStatus.name
  outcome : (∃ value, r.outcome = .data value) ↔ r.exitStatus = .success

theorem consistent_success (data : Json) : (success data).Consistent :=
  ⟨rfl, by simp [success]⟩

theorem consistent_notFound (entity name : String) : (notFound entity name).Consistent :=
  ⟨rfl, by simp [notFound]⟩

theorem consistent_ofFailure (f : Failure) : (ofFailure f).Consistent := by
  cases f <;> exact ⟨rfl, by simp [ofFailure, Failure.exitStatus]⟩

/-- With a context, an answer is as consistent as before. -/
theorem Consistent.withContext (h : r.Consistent) (context : Json) :
    (r.withContext context).Consistent := by
  have houtcome := h.outcome
  rw [Response.withContext]
  split
  · exact h
  · rename_i hr
    rw [hr] at houtcome
    exact ⟨h.code, by simpa using houtcome⟩

/-- Of a consistent answer all fields agree. -/
theorem Consistent.isIn (h : r.Consistent) (stream : Stream) :
    (Told.mk stream r.exitStatus r.message r.outcome).IsIn r.toJson := by
  obtain ⟨code, message, outcome, status⟩ := r
  obtain ⟨hcode, houtcome⟩ := h
  obtain rfl : code = status.name := hcode
  cases outcome with
  | data value =>
    obtain rfl : status = .success := houtcome.1 ⟨value, rfl⟩
    have hnames : ["status", "code", "message", "data", "exit_code"].Nodup := by decide
    exact ⟨⟨_, rfl, hnames⟩, rfl, rfl, rfl, rfl, iff_of_true rfl rfl,
      iff_of_false Bool.false_ne_true fun hcode => hcode rfl, rfl⟩
  | failure suggestions context? =>
    have hstatus : status.code ≠ 0 := by
      rw [ne_eq, status.code_eq_zero_iff]
      exact fun hsuccess => by
        obtain ⟨value, hvalue⟩ := houtcome.2 hsuccess
        cases hvalue
    have hnames : ["status", "code", "message", "error", "exit_code"].Nodup := by decide
    refine ⟨⟨_, rfl, hnames⟩, rfl, ?_, rfl, rfl, iff_of_false Bool.false_ne_true hstatus,
      iff_of_true rfl hstatus, ⟨_, rfl, ?_, ?_⟩⟩
    · exact congrArg (some <| Json.str ·) (if_neg hstatus).symm
    · cases context? <;> rfl
    · cases context? <;> rfl

/-- An answer fits if what it brings does. -/
theorem fits_toJson (h : r.outcome.fits) : r.toJson.fits := by
  obtain ⟨code, message, outcome, status⟩ := r
  have hcode : status.code < 0x10000000000000000 := by cases status <;> decide
  have hsuggestions (suggestions : List String) : Json.itemsFit (suggestions.map .str) := by
    simp [Json.itemsFit_eq_all, Json.fits]
  cases outcome with
  | data value =>
    have hvalue : value.fits := h
    simpa [toJson, Json.fits, Json.fieldsFit, hvalue] using hcode
  | failure suggestions context? =>
    cases context? with
    | none => simpa [toJson, failureJson, Json.fits, Json.fieldsFit, hsuggestions] using hcode
    | some context =>
      have hcontext : context.fits := h
      simpa [toJson, failureJson, Json.fits, Json.fieldsFit, hsuggestions, hcontext] using hcode

/-- The text of an answer ends with the brace that closes its object. -/
theorem getLast?_pretty (r : Response) : r.toJson.pretty.toList.getLast? = some '}' := by
  rw [toJson, Json.pretty, String.toList_ofList, Json.write, List.getLast?_concat]

end Response

namespace Output

open Writing

/-- A way to give a result, or to say something to people on the way. -/
inductive Call where
  | success (answer : Answer)
  | notFound (entity name : String)
  | collection (answers : List Answer) (entity : String)
  | failure (f : Failure) (context? : Option Json)
  | info (text : String)

namespace Call

/-- Carries out a call. A result comes with its exit status. -/
def run (format : Format) : Call → Writing (Option ExitStatus)
  | success answer => do return some (← Output.success format answer)
  | notFound entity name => do return some (← Output.notFound format entity name)
  | collection answers entity => do return some (← Output.collection format answers entity)
  | failure f context? => do return some (← Output.failure format f context?)
  | info text => do
    Output.info format text
    return none

/-- What programs are told by a call, if anything. That there is nothing to list is told as
    something that is not there. -/
def told? : Call → Option Told
  | success answer => some (.success answer.json)
  | notFound entity name => some (.notFound entity name)
  | collection [] entity => some (.notFound entity "any")
  | collection answers _ => some (.success (.arr (answers.map (·.json))))
  | failure f context? => some ⟨.err, f.exitStatus, f.message, .failure f.suggestions context?⟩
  | info _ => none

/-- The JSON values given to a call fit. -/
def fits : Call → Bool
  | success answer => answer.json.fits
  | collection answers _ => answers.all (·.json.fits)
  | failure _ context? => context?.all Json.fits
  | _ => true

/-- The exit status that a call returns, if it tells something. -/
def status? (call : Call) : Option ExitStatus :=
  call.told?.map (·.status)

/-- What is written by a call is one document and a line feed, which tells what programs are to be
    told. Where they are to be told nothing, it is nothing. -/
def IsAnswered (call : Call) (pieces : List Piece) : Prop :=
  match call.told? with
  | none => pieces = []
  | some told => ∃ text j, pieces = [⟨told.stream, text ++ "\n"⟩] ∧
      text.toList.getLast? = some '}' ∧ Json.parse text = .ok j ∧ told.IsIn j

/-- A call that writes the document of a consistent answer is answered, if it tells the same. -/
theorem exists_isAnswered_of_document {call : Call} {stream : Stream} {r : Response}
    (hrun : call.run .json = do return some (← document stream r))
    (htold : call.told? = some ⟨stream, r.exitStatus, r.message, r.outcome⟩)
    (hconsistent : r.Consistent) (hfits : r.outcome.fits) :
    ∃ pieces, call.IsAnswered pieces ∧ Writes pieces call.status? (call.run .json) := by
  refine ⟨[⟨stream, r.toJson.pretty ++ "\n"⟩], ?_, ?_⟩
  · rw [IsAnswered, htold]
    exact ⟨_, _, rfl, r.getLast?_pretty, Json.parse_pretty (Response.fits_toJson hfits),
      hconsistent.isIn stream⟩
  · rw [hrun, status?, htold]
    exact (writes_document stream r).bind (.pure (some r.exitStatus))

/-- Each call is answered. -/
theorem exists_isAnswered (call : Call) (hfits : call.fits) :
    ∃ pieces, call.IsAnswered pieces ∧ Writes pieces call.status? (call.run .json) := by
  cases call with
  | success answer =>
    exact exists_isAnswered_of_document rfl rfl (Response.consistent_success answer.json) hfits
  | notFound entity name =>
    exact exists_isAnswered_of_document rfl rfl (Response.consistent_notFound entity name) rfl
  | collection answers entity =>
    cases answers with
    | nil =>
      exact exists_isAnswered_of_document rfl rfl (Response.consistent_notFound entity "any") rfl
    | cons answer answers =>
      have hitems : (Json.arr ((answer :: answers).map (·.json))).fits := by
        simpa [Json.fits, Json.itemsFit_eq_all, fits] using hfits
      exact exists_isAnswered_of_document rfl rfl (Response.consistent_success _) hitems
  | failure f context? =>
    have hconsistent := Response.consistent_ofFailure f
    cases context? with
    | none => exact exists_isAnswered_of_document rfl rfl hconsistent rfl
    | some context =>
      exact exists_isAnswered_of_document rfl rfl (hconsistent.withContext context) hfits
  | info text => exact ⟨[], rfl, .pure none⟩

end Call

/-- The calls of a sequence are answered one after the other. -/
theorem exists_answers (calls : List Call) (hfits : ∀ call ∈ calls, call.fits) :
    ∃ answers, List.Forall₂ Call.IsAnswered calls answers ∧
      Writes answers.flatten (calls.map Call.status?) (calls.mapM (Call.run .json)) := by
  induction calls with
  | nil => exact ⟨[], .nil, .pure []⟩
  | cons call calls ih =>
    obtain ⟨hcall, hcalls⟩ := List.forall_mem_cons.1 hfits
    obtain ⟨pieces, hanswered, hwrites⟩ := call.exists_isAnswered hcall
    obtain ⟨answers, hall, hrest⟩ := ih hcalls
    refine ⟨pieces :: answers, .cons hanswered hall, ?_⟩
    rw [List.mapM_cons, List.flatten_cons, ← List.append_nil answers.flatten]
    exact hwrites.bind (hrest.bind (.pure _))

/-- Where nothing is refused, programs are told each result once, and what they are told agrees with
    the exit status that is returned. -/
theorem json_answers_agree (calls : List Call) (hfits : ∀ call ∈ calls, call.fits)
    {console : Console} (hconsole : console.Accepts) :
    ∃ answers, List.Forall₂ Call.IsAnswered calls answers ∧
      (calls.mapM (Call.run .json)).run console =
        .ok (calls.map Call.status?) (console.appendAll answers.flatten) := by
  obtain ⟨answers, hanswered, hwrites⟩ := exists_answers calls hfits
  have hrefused : answers.flatten.any (·.isRefused console.refuses) = false :=
    Piece.any_isRefused_eq_false fun stream hrefuses => by simp [hconsole stream] at hrefuses
  refine ⟨answers, hanswered, ?_⟩
  rw [hwrites.run_eq, hrefused, if_neg Bool.false_ne_true]

/-- Texts with quotes, control characters and accents, an empty list, a binding, and a failure with
    a context of several levels. -/
theorem json_answers_agree_assorted :
    let calls : List Call :=
      [.success ⟨"", .str "\"caf\u00e9\"\\\x07\n"⟩, .collection [] "imports", .info "not told",
        .collection [⟨"path", (Binding.mk "os" "path" "path").toJson⟩] "imports",
        .failure (.unrecognizedLines "/tmp/\"x\"" 2)
          (some (.arr [.obj [("line", .int 3), ("text", .str "x\ty")],
            .float ⟨false, 0x18000000000000, -52, by decide⟩]))]
    ∃ answers, List.Forall₂ Call.IsAnswered calls answers ∧
      (calls.mapM (Call.run .json)).run (.fresh fun _ => false) =
        .ok [some .success, some .notFound, none, some .success, some .parseError]
          (Console.appendAll (.fresh fun _ => false) answers.flatten) := by
  intro calls
  have hfits : ∀ call ∈ calls, call.fits := by
    simp [calls, Call.fits, Json.fits, Json.itemsFit, Json.fieldsFit, Binding.fits_toJson]
  exact json_answers_agree calls hfits fun _ => rfl

end Output

end AutoImport
