import AutoImport.Console
import AutoImport.Response

/-!
# Saying results

How the result of a command is said: to people as text, or to programs as one JSON document. In both
forms results go to standard output and failures to standard error; that something was not found is
a result for programs, and a remark on standard error for people.

Every function returns the exit status that goes with what it says.
-/

namespace AutoImport

/-- Whom the output is for. -/
inductive Format where
  /-- People. -/
  | text
  /-- Programs. -/
  | json
  deriving DecidableEq, Repr

/-- Something to be shown, in both forms. -/
structure Answer where
  text : String
  json : Json

namespace Output

open Writing

/-- Writes one JSON document. -/
def document (stream : Stream) (response : Response) : Writing ExitStatus := do
  writeLine stream response.toJson.pretty
  return response.exitStatus

/-- Says what was asked for. -/
def success (format : Format) (answer : Answer) : Writing ExitStatus := do
  match format with
  | .json => document .out (.success answer.json)
  | .text =>
    writeLine .out answer.text
    return .success

/-- Says that something is not there. -/
def notFound (format : Format) (entity name : String) : Writing ExitStatus := do
  match format with
  | .json => document .out (.notFound entity name)
  | .text =>
    writeLine .err (notFoundMessage entity name)
    return .notFound

/-- Says several things at once. Nothing to say counts as not found. -/
def collection (format : Format) (answers : List Answer) (entity : String) :
    Writing ExitStatus := do
  if answers.isEmpty then notFound format entity "any"
  else
    match format with
    | .json => document .out (.success (.arr (answers.map (·.json))))
    | .text =>
      writeLine .out ("Found " ++ answers.length.repr ++ " " ++ entity ++ ":")
      writeLine .out (String.ofList (List.replicate 40 '='))
      answers.forM fun answer => writeLine .out answer.text
      return .success

/-- Says that something failed, with what else is known about it. The context is for programs only,
    the suggestions are for people too. -/
def failure (format : Format) (f : Failure) (context? : Option Json) : Writing ExitStatus := do
  match format with
  | .json =>
    let response := Response.ofFailure f
    document .err (context?.elim response response.withContext)
  | .text =>
    writeLine .err ("Error: " ++ f.message)
    f.suggestions.forM fun suggestion => writeLine .err ("  Suggestion: " ++ suggestion)
    return f.exitStatus

/-- Says something to people only. -/
def info (format : Format) (text : String) : Writing Unit := do
  match format with
  | .json => return ()
  | .text => writeLine .out text

/-- Puts a text on standard output as it is. -/
def raw (text : String) : Writing Unit :=
  write .out text

end Output

end AutoImport
