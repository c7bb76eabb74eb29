import AutoImport.Log.Directive

/-!
# The log

Which events are written to the log, and how. A filter is a list of directives, written with commas
between them. Of the directives that are about an event the most special one decides: that with the
longest target, and of those one with a field. An event that no directive is about is not written.

No event of this program is inside a span, and every one has a single field, its message. So a
directive about a span, or about the value of a field of one, is about no event at all.

A log is read on a terminal, and an imports file may hold anything. So characters of a message that
would make a terminal do something are written as escapes.
-/

namespace AutoImport

namespace Log

/-- A list of rules. -/
abbrev Filter := List Directive

/-- Whether a directive is about an event. -/
def Directive.concerns (d : Directive) (event : Event) : Bool :=
  d.target.toList.isPrefixOf event.target.toList && d.span?.isNone &&
    d.field?.all fun field => field.name == "message" && field.value?.isNone

namespace Filter

/-- The filter that lets everything pass down to a level. -/
def atLevel (level : Level) : Filter :=
  [⟨"", none, none, some level⟩]

/-- Reads a filter. One without directives lets errors pass. -/
def read? (text : String) : Option Filter := do
  let directives ← ((text.toList.splitOn ',').filter (!·.isEmpty)).mapM Directive.read?
  some (if directives.isEmpty then atLevel .error else directives)

/-- How special a directive is: by the length of its target, and then by whether it has a field. -/
def rank (d : Directive) : Nat :=
  2 * d.target.length + (if d.field?.isSome then 1 else 0)

/-- The directive that decides about an event: the most special one, the last of several. -/
def deciding? (filter : Filter) (event : Event) : Option Directive :=
  (filter.filter (·.concerns event)).foldl
    (fun best? d =>
      match best? with
      | some best => if rank d < rank best then some best else some d
      | none => some d)
    none

/-- Whether an event is written. -/
def passes (filter : Filter) (event : Event) : Bool :=
  ((filter.deciding? event).bind (·.level?)).any fun level => event.level.rank ≤ level.rank

end Filter

/-- A character of a message as it is written: the bell, the backspace, the form feed, the escape,
    the delete and the second range of control characters by their numbers. -/
def escapeControl (c : Char) : List Char :=
  let digits := Nat.toDigits 16 c.toNat
  if c = '\x07' || c = '\x08' || c = '\x0c' || c = '\x1b' || c = '\x7f' then
    ['\\', 'x'] ++ List.replicate (2 - digits.length) '0' ++ digits
  else if 0x80 ≤ c.toNat && c.toNat ≤ 0x9F then ['\\', 'u', '\x7b'] ++ digits ++ ['\x7d']
  else [c]

/-- The line of an event. -/
def line (time : String) (event : Event) : String :=
  time ++ " " ++ event.level.label ++ " " ++
    .ofList (event.message.toList.flatMap escapeControl)

end Log

end AutoImport
