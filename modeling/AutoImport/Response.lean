import AutoImport.Failure
import AutoImport.Json.Basic

/-!
# Answers for programs

The one shape of everything the program says in JSON: whether it worked, a code and a message, and
then either the data that was asked for or what is known about the failure. The exit status is part
of the answer, so that a program that reads it need not ask for it.
-/

namespace AutoImport

/-- What an answer brings. -/
inductive Outcome where
  /-- It worked; this is what was asked for. -/
  | data (value : Json)
  /-- It failed; what to try next, and what else is known about it. -/
  | failure (suggestions : List String) (context? : Option Json)

/-- An answer. -/
structure Response where
  code : String
  message : String
  outcome : Outcome
  exitStatus : ExitStatus

/-- What is said when something is not there. -/
def notFoundMessage (entity name : String) : String :=
  entity ++ " '" ++ name ++ "' not found"

namespace Response

/-- The answer to a command that worked. -/
def success (data : Json) : Response :=
  ⟨"OK", "Operation completed successfully", .data data, .success⟩

/-- The answer when something is not there. -/
def notFound (entity name : String) : Response :=
  ⟨"NOT_FOUND", notFoundMessage entity name,
    .failure ["Check the spelling", "Ensure the imports file lists it"] none, .notFound⟩

/-- The answer to a command that failed. -/
def ofFailure (f : Failure) : Response :=
  ⟨f.code, f.message, .failure f.suggestions none, f.exitStatus⟩

/-- The answer with more known about the failure, in the place of what was known before. An answer
    without a failure has no place for it. -/
def withContext (r : Response) (context : Json) : Response :=
  match r.outcome with
  | .data _ => r
  | .failure suggestions _ => { r with outcome := .failure suggestions (some context) }

/-- The details of a failure. -/
def failureJson (suggestions : List String) (context? : Option Json) : Json :=
  .obj (("suggestions", .arr (suggestions.map .str)) ::
    match context? with
    | none => []
    | some context => [("context", context)])

/-- The object of an answer. -/
def toJson (r : Response) : Json :=
  let (status, part) := match r.outcome with
    | .data value => ("success", ("data", value))
    | .failure suggestions context? => ("error", ("error", failureJson suggestions context?))
  .obj [("status", .str status), ("code", .str r.code), ("message", .str r.message), part,
    ("exit_code", .int r.exitStatus.code)]

end Response

end AutoImport
