import AutoImport.Binding
import AutoImport.Text.Blank

/-!
# Comma-separated names

The names of an import statement are a list of segments between commas. A segment of one word binds
that word; a segment of three words, the middle one `as`, binds the first word under the third. A
segment of any other shape, such as the empty one after a trailing comma, binds nothing and is
skipped.

The list is read lazily. `Names` holds the segments not yet visited, and `Names.next` visits
segments until one binds something. Whoever reads only the first names never visits the rest.

* Every segment means exactly one thing (`Segment.read`): a binding, or that it is malformed.
* What a list binds and what it skips are two views of the same readings (`Names.bindings`,
  `Names.skipped`); taking steps to the end brings both (`Names.drain`).
-/

namespace AutoImport

/-- What one segment of a list of names says. -/
inductive SegmentReading where
  /-- The segment binds a name. -/
  | binds (binding : Binding)
  /-- The segment has neither shape; its text, without the blanks around it. -/
  | malformed (text : String)
  deriving DecidableEq, Repr

namespace SegmentReading

/-- The binding that was read, if one was. -/
def binding? : SegmentReading → Option Binding
  | binds b => some b
  | malformed _ => none

/-- The text that was skipped, if it was. -/
def skipped? : SegmentReading → Option String
  | binds _ => none
  | malformed text => some text

end SegmentReading

/-- Reads one segment, of names from a given module. -/
def readSegment (module : String) (segment : List Char) : SegmentReading :=
  match Text.words segment with
  | [name] => .binds (.plain module (.ofList name))
  | [name, ['a', 's'], localName] => .binds ⟨module, .ofList name, .ofList localName⟩
  | _ => .malformed (.ofList (Text.trim segment))

/-- A list of names from one module, as far as it has not been read yet. -/
structure Names where
  /-- The module all the names come from. -/
  module : String
  /-- The segments not yet visited. -/
  segments : List (List Char)
  deriving DecidableEq, Repr

namespace Names

/-- The names in a text, none of them visited yet. -/
def ofText (module names : String) : Names :=
  ⟨module, names.toList.splitOn ','⟩

/-- What the segments still to be visited say, in order. -/
def readings (ns : Names) : List SegmentReading :=
  ns.segments.map (readSegment ns.module)

/-- The bindings still to come. -/
def bindings (ns : Names) : List Binding :=
  ns.readings.filterMap SegmentReading.binding?

/-- The segments still to be skipped. -/
def skipped (ns : Names) : List String :=
  ns.readings.filterMap SegmentReading.skipped?

/-- What one step of reading brings: the texts it skips, the binding it stops at, and the rest. -/
structure Step where
  skipped : List String
  binding? : Option Binding
  rest : Names
  deriving DecidableEq, Repr

/-- Visits segments up to and including the first that binds a name. -/
def next : Names → Step
  | ⟨module, []⟩ => ⟨[], none, ⟨module, []⟩⟩
  | ⟨module, segment :: segments⟩ =>
    match readSegment module segment with
    | .binds b => ⟨[], some b, ⟨module, segments⟩⟩
    | .malformed text =>
      let step := next ⟨module, segments⟩
      { step with skipped := text :: step.skipped }
  termination_by ns => ns.segments.length

/-- A step that stops at a binding leaves fewer segments. -/
theorem length_next_lt {ns : Names} {b : Binding} (h : ns.next.binding? = some b) :
    ns.next.rest.segments.length < ns.segments.length := by
  fun_induction next ns with
  | case1 => cases h
  | case2 => exact Nat.lt_succ_self _
  | case3 _ _ _ _ _ _ ih => exact Nat.lt_succ_of_lt (ih h)

/-- Reads on until no binding comes: all bindings in order, and the texts skipped on the way. -/
def drain (ns : Names) : List Binding × List String :=
  match _h : ns.next.binding? with
  | none => ([], ns.next.skipped)
  | some b =>
    let (bs, texts) := drain ns.next.rest
    (b :: bs, ns.next.skipped ++ texts)
  termination_by ns.segments.length
  decreasing_by exact length_next_lt _h

end Names

end AutoImport
