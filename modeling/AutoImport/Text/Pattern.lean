/-!
# Patterns

Regular expressions with groups: which texts they match, and what their groups keep of them.

`Pattern.Matches` is the meaning of a pattern, as a relation. `Pattern.groups?` decides it, and
where a text can be matched in several ways it takes the preferred one: every part of a pattern,
from the left, takes as much as it can, and gives back only what the parts after it need. The search
runs through the pattern once for each way it tries, with what is to follow as a continuation
(`Pattern.scan`).

A pattern matches a text from its first to its last character. A line feed that ends the text is a
character like any other.
-/

namespace AutoImport.Text

/-- A regular expression with groups. -/
inductive Pattern where
  /-- These characters. -/
  | literal (text : String)
  /-- One character of a class. -/
  | one (accepts : Char → Bool)
  /-- Any number of characters of a class, as many as possible. -/
  | run (accepts : Char → Bool)
  /-- One pattern and then another. -/
  | seq (first second : Pattern)
  /-- A pattern or nothing, preferably the pattern. -/
  | option (p : Pattern)
  /-- A pattern any number of times, as often as possible, and never for nothing. -/
  | many (p : Pattern)
  /-- A pattern whose match is kept. -/
  | group (p : Pattern)

namespace Pattern

/-! ## Meaning -/

/-- The texts a pattern matches, with what its groups keep, in the order in which they open. -/
inductive Matches : Pattern → List Char → List (List Char) → Prop
  | literal {text} : Matches (.literal text) text.toList []
  | one {accepts c} : accepts c → Matches (.one accepts) [c] []
  | run {accepts cs} : (∀ c ∈ cs, accepts c) → Matches (.run accepts) cs []
  | seq {first second cs ds kept kept'} :
    Matches first cs kept → Matches second ds kept' →
    Matches (.seq first second) (cs ++ ds) (kept ++ kept')
  | skip {p} : Matches (.option p) [] []
  | option {p cs kept} : Matches p cs kept → Matches (.option p) cs kept
  | stop {p} : Matches (.many p) [] []
  | again {p cs ds kept kept'} :
    Matches p cs kept → cs ≠ [] → Matches (.many p) ds kept' →
    Matches (.many p) (cs ++ ds) (kept ++ kept')
  | group {p cs kept} : Matches p cs kept → Matches (.group p) cs (cs :: kept)

/-! ## Search -/

/-- What is left of a text behind each run of accepted characters at its front, the longest run
    first. -/
def rests (accepts : Char → Bool) : List Char → List (List Char) → List (List Char)
  | [], shorter => [] :: shorter
  | c :: cs, shorter =>
    if accepts c then rests accepts cs ((c :: cs) :: shorter) else (c :: cs) :: shorter

/-- What is to follow a match: it is given the rest of the text and what the groups have kept, and
    may refuse them. -/
abbrev Next (α : Type) := List Char → List (List Char) → Option α

/-- Takes a step as often as possible, as long as each time takes something away. -/
def scanMany {α : Type} (step : List Char → Next α → Option α) (cs : List Char) (next : Next α) :
    Option α :=
  (step cs fun rest kept =>
    if rest.length < cs.length then scanMany step rest fun rest' kept' => next rest' (kept ++ kept')
    else none).orElse fun _ => next cs []
  termination_by cs.length

/-- Matches a pattern at the front of a text, in the most preferred way that can be followed. -/
def scan {α : Type} : Pattern → List Char → Next α → Option α
  | literal text, cs, next => (text.toList.isPrefixOf? cs).bind (next · [])
  | one _, [], _ => none
  | one accepts, c :: cs, next => if accepts c then next cs [] else none
  | run accepts, cs, next => (rests accepts cs []).findSome? (next · [])
  | seq first second, cs, next =>
    first.scan cs fun rest kept => second.scan rest fun rest' kept' => next rest' (kept ++ kept')
  | option p, cs, next => (p.scan cs next).orElse fun _ => next cs []
  | many p, cs, next => scanMany p.scan cs next
  | group p, cs, next =>
    p.scan cs fun rest kept => next rest (cs.take (cs.length - rest.length) :: kept)

/-- What the groups keep of a text that the pattern matches in full. -/
def groups? (p : Pattern) (cs : List Char) : Option (List (List Char)) :=
  p.scan cs fun rest kept => if rest.isEmpty then some kept else none

end Pattern

end AutoImport.Text
