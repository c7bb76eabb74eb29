import AutoImport.OsError

/-!
# The two output streams

Standard output and standard error, as what they have taken so far. Either of them may refuse
whatever is written to it, as a full disk does; what the other has taken stays written.
-/

namespace AutoImport

/-- One of the two output streams. -/
inductive Stream where
  | out
  | err
  deriving DecidableEq, Repr

/-- The state of the two output streams. -/
structure Console where
  /-- What standard output has taken. -/
  out : String
  /-- What standard error has taken. -/
  err : String
  /-- Whether a stream refuses to be written to. -/
  refuses : Stream → Bool

/-- Something that writes to the streams, and may be refused. What was written before stays. -/
abbrev Writing := EStateM OsError Console

namespace Console

/-- Nothing written yet. -/
def fresh (refuses : Stream → Bool) : Console :=
  ⟨"", "", refuses⟩

/-- The streams with more text on one of them. -/
def append (c : Console) (stream : Stream) (text : String) : Console :=
  match stream with
  | .out => { c with out := c.out ++ text }
  | .err => { c with err := c.err ++ text }

end Console

namespace Writing

/-- Writes a text to a stream. Writing nothing is never refused. -/
def write (stream : Stream) (text : String) : Writing Unit := do
  if !text.isEmpty && (← get).refuses stream then throw .noSpaceLeft
  modify (·.append stream text)

/-- Writes a line. -/
def writeLine (stream : Stream) (text : String) : Writing Unit :=
  write stream (text ++ "\n")

/-- Writes a line whose loss does not matter. -/
def offerLine (stream : Stream) (text : String) : Writing Unit :=
  tryCatch (writeLine stream text) fun _ => pure ()

end Writing

end AutoImport
