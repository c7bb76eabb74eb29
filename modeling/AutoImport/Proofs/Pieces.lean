import AutoImport.Proofs.Console
import Mathlib.Data.List.TakeWhile

/-!
# Pieces of text

What an action writes is often known before it is carried out: some pieces of text, each for one of
the streams, one after the other, and then a result (`Writing.Writes`). Everything about it follows
from these pieces and from what the streams refuse (`Writing.Writes.run_eq`). Where no piece is
refused, all of them are written and the result is given, and otherwise only those are written that
are before the first one that is refused.

The ways to give a result are such actions, whatever the format.
-/

namespace AutoImport

/-- A text for a stream. -/
structure Piece where
  stream : Stream
  text : String

namespace Piece

/-- Whether a piece is refused. Writing nothing never is. -/
def isRefused (refuses : Stream → Bool) (p : Piece) : Bool :=
  !p.text.isEmpty && refuses p.stream

/-- The pieces before the first that is refused. -/
def beforeRefused (refuses : Stream → Bool) (ps : List Piece) : List Piece :=
  ps.takeWhile fun p => !p.isRefused refuses

/-- The texts of pieces for a stream, one after the other. -/
def textOn (stream : Stream) (ps : List Piece) : String :=
  .join ((ps.filter (·.stream = stream)).map (·.text))

/-- Texts for standard output, and then texts for standard error. -/
def ofTexts (outs errs : List String) : List Piece :=
  outs.map (mk .out) ++ errs.map (mk .err)

variable {refuses : Stream → Bool} {stream : Stream} {p : Piece} {ps ps' : List Piece}

theorem textOn_cons : textOn stream (p :: ps) =
    (if p.stream = stream then p.text else "") ++ textOn stream ps := by
  by_cases h : p.stream = stream <;> simp [textOn, h, String.join_cons]

@[simp] theorem textOn_append :
    textOn stream (ps ++ ps') = textOn stream ps ++ textOn stream ps' := by
  simp [textOn, String.join_append]

/-- Pieces for one stream put all their texts on it. -/
@[simp] theorem textOn_map_mk (stream : Stream) (texts : List String) :
    textOn stream (texts.map (mk stream)) = .join texts := by
  induction texts with
  | nil => rfl
  | cons text texts ih => rw [List.map_cons, textOn_cons, ih, if_pos rfl, String.join_cons]

/-- Pieces for other streams put nothing on a stream. -/
theorem textOn_eq_empty (h : ∀ p ∈ ps, p.stream ≠ stream) : textOn stream ps = "" := by
  rw [textOn, List.filter_eq_nil_iff.2 (by simpa using h)]
  rfl

theorem textOn_out_ofTexts (outs errs : List String) :
    textOn .out (ofTexts outs errs) = .join outs := by
  rw [ofTexts, textOn_append, textOn_map_mk, textOn_eq_empty (by simp), String.append_empty]

theorem textOn_err_ofTexts (outs errs : List String) :
    textOn .err (ofTexts outs errs) = .join errs := by
  rw [ofTexts, textOn_append, textOn_map_mk, textOn_eq_empty (by simp), String.empty_append]

/-- A stream that refuses, and on which pieces put something, refuses one of them. -/
theorem any_isRefused_of_textOn_ne (hrefuses : refuses stream = true)
    (h : textOn stream ps ≠ "") : ps.any (·.isRefused refuses) = true := by
  induction ps with
  | nil => exact absurd rfl h
  | cons p ps ih =>
    rw [List.any_cons, Bool.or_eq_true]
    by_cases hp : p.isRefused refuses = true
    · exact .inl hp
    · -- What the piece puts on the stream is nothing, so the others put something on it.
      refine .inr (ih fun hrest => h ?_)
      rw [textOn_cons, hrest, String.append_empty]
      split
      · rename_i hstream
        simpa [isRefused, hstream, hrefuses] using hp
      · rfl

/-- Pieces that put nothing on the streams that refuse are not refused. -/
theorem any_isRefused_eq_false (h : ∀ stream, refuses stream = true → textOn stream ps = "") :
    ps.any (·.isRefused refuses) = false := by
  induction ps with
  | nil => rfl
  | cons p ps ih =>
    have happend (stream : Stream) (hrefuses : refuses stream = true) :=
      String.append_eq_empty_iff.1 (textOn_cons.symm.trans (h stream hrefuses))
    rw [List.any_cons, Bool.or_eq_false_iff]
    refine ⟨?_, ih fun stream hrefuses => (happend stream hrefuses).2⟩
    cases hrefuses : refuses p.stream with
    | false => simp [isRefused, hrefuses]
    | true =>
      have hempty := (happend p.stream hrefuses).1
      rw [if_pos rfl] at hempty
      simp [isRefused, hempty]

theorem beforeRefused_eq_self (h : ps.any (·.isRefused refuses) = false) :
    beforeRefused refuses ps = ps := by
  rw [beforeRefused, List.takeWhile_eq_self_iff]
  simpa [List.any_eq_false] using h

/-- Where standard output refuses nothing, no text for it is lost. -/
theorem textOn_out_beforeRefused_ofTexts (h : refuses .out = false) (outs errs : List String) :
    textOn .out (beforeRefused refuses (ofTexts outs errs)) = .join outs := by
  have hout : ∀ p ∈ outs.map (mk .out), (!p.isRefused refuses) = true := by simp [isRefused, h]
  have herr : textOn .out (beforeRefused refuses (errs.map (mk .err))) = "" :=
    textOn_eq_empty fun p hp => by
      obtain ⟨text, -, rfl⟩ := List.mem_map.1 (List.takeWhile_subset _ hp)
      simp
  rw [beforeRefused, ofTexts, List.takeWhile_append_of_pos hout, textOn_append, textOn_map_mk]
  exact (congrArg _ herr).trans String.append_empty

end Piece

namespace Console

variable (c : Console) (ps : List Piece)

/-- The streams with several pieces on them, one after the other. -/
def appendAll : Console :=
  ps.foldl (fun c p => c.append p.stream p.text) c

@[simp] theorem refuses_append (stream : Stream) (text : String) :
    (c.append stream text).refuses = c.refuses := by
  cases stream <;> rfl

@[simp] theorem refuses_appendAll : (c.appendAll ps).refuses = c.refuses := by
  induction ps generalizing c with
  | nil => rfl
  | cons p ps ih => exact (ih (c.append p.stream p.text)).trans (c.refuses_append _ _)

theorem out_appendAll : (c.appendAll ps).out = c.out ++ Piece.textOn .out ps := by
  induction ps generalizing c with
  | nil => exact String.append_empty.symm
  | cons p ps ih =>
    refine (ih (c.append p.stream p.text)).trans ?_
    rw [Piece.textOn_cons, ← String.append_assoc]
    cases h : p.stream <;> simp [append]

theorem err_appendAll : (c.appendAll ps).err = c.err ++ Piece.textOn .err ps := by
  induction ps generalizing c with
  | nil => exact String.append_empty.symm
  | cons p ps ih =>
    refine (ih (c.append p.stream p.text)).trans ?_
    rw [Piece.textOn_cons, ← String.append_assoc]
    cases h : p.stream <;> simp [append]

end Console

namespace Writing

variable {α β : Type} {a : α} {b : β} {w : Writing α} {ps ps' : List Piece}

/-- Writes a piece. -/
def writePiece (p : Piece) : Writing Unit :=
  write p.stream p.text

/-- An action writes some pieces, one after the other, and then gives a result. -/
def Writes (ps : List Piece) (a : α) (w : Writing α) : Prop :=
  w = do ps.forM writePiece; return a

theorem Writes.pure (a : α) : Writes [] a (Pure.pure a : Writing α) :=
  rfl

theorem writes_write (stream : Stream) (text : String) :
    Writes [⟨stream, text⟩] () (write stream text) := by
  simp [Writes, writePiece]

theorem writes_writeLine (stream : Stream) (text : String) :
    Writes [⟨stream, text ++ "\n"⟩] () (writeLine stream text) :=
  writes_write stream (text ++ "\n")

/-- Of two actions one after the other, the second may depend on the result of the first. -/
theorem Writes.bind {w' : α → Writing β} (hw : Writes ps a w) (hw' : Writes ps' b (w' a)) :
    Writes (ps ++ ps') b (w >>= w') := by
  rw [Writes, List.forM_eq_forM] at hw hw' ⊢
  rw [hw, List.forM_append, bind_assoc, bind_assoc, pure_bind, hw']

/-- A list of actions that write one piece each. -/
theorem writes_forM {γ : Type} {w : γ → Writing PUnit} {piece : γ → Piece}
    (h : ∀ x, Writes [piece x] ⟨⟩ (w x)) (xs : List γ) : Writes (xs.map piece) ⟨⟩ (xs.forM w) := by
  induction xs with
  | nil => exact .pure _
  | cons x xs ih => exact (h x).bind ih

theorem run_writePiece (p : Piece) (c : Console) : (writePiece p).run c =
    if p.isRefused c.refuses then .error .noSpaceLeft c
    else .ok () (c.append p.stream p.text) := by
  cases hempty : p.text.isEmpty <;> cases hrefuses : c.refuses p.stream <;>
    simp [writePiece, write, EStateM.run_bind, Piece.isRefused, hempty, hrefuses]

/-- Pieces are written up to the first that is refused. -/
theorem run_forM_writePiece (ps : List Piece) (c : Console) : (ps.forM writePiece).run c =
    if ps.any (·.isRefused c.refuses) then
      .error .noSpaceLeft (c.appendAll (Piece.beforeRefused c.refuses ps))
    else .ok ⟨⟩ (c.appendAll ps) := by
  induction ps generalizing c with
  | nil => rfl
  | cons p ps ih =>
    have hcons : (p :: ps).forM writePiece = writePiece p >>= fun _ => ps.forM writePiece := rfl
    rw [hcons, EStateM.run_bind, run_writePiece, List.any_cons, Piece.beforeRefused,
      List.takeWhile_cons]
    cases h : p.isRefused c.refuses with
    | true => rfl
    | false =>
      have hrest := ih (c.append p.stream p.text)
      rw [Console.refuses_append] at hrest
      exact hrest

/-- An action that writes some pieces gives its result unless one of them is refused. Then it has
    written those before. -/
theorem Writes.run_eq (h : Writes ps a w) (c : Console) : w.run c =
    if ps.any (·.isRefused c.refuses) then
      .error .noSpaceLeft (c.appendAll (Piece.beforeRefused c.refuses ps))
    else .ok a (c.appendAll ps) := by
  rw [h, EStateM.run_bind, run_forM_writePiece]
  cases ps.any (·.isRefused c.refuses) <;> rfl

end Writing

/-! ## Results -/

namespace Output

open Writing

/-- A document is one piece. -/
theorem writes_document (stream : Stream) (response : Response) :
    Writes [⟨stream, response.toJson.pretty ++ "\n"⟩] response.exitStatus
      (document stream response) :=
  (writes_writeLine stream response.toJson.pretty).bind (.pure _)

/-- What was asked for is one piece, for standard output. -/
theorem exists_writes_success (format : Format) (answer : Answer) :
    ∃ text, Writes [⟨.out, text⟩] .success (success format answer) := by
  cases format with
  | json => exact ⟨_, writes_document .out (.success answer.json)⟩
  | text => exact ⟨_, (writes_writeLine .out answer.text).bind (.pure _)⟩

/-- That something is not there is one piece: for programs on standard output, and for people on
    standard error. -/
theorem exists_writes_notFound (format : Format) (entity name : String) :
    ∃ text, text ≠ "" ∧
      Writes [⟨match format with | .json => .out | .text => .err, text⟩] .notFound
        (notFound format entity name) := by
  cases format with
  | json => exact ⟨_, by simp, writes_document .out (.notFound entity name)⟩
  | text => exact ⟨_, by simp, (writes_writeLine .err (notFoundMessage entity name)).bind (.pure _)⟩

/-- A failure is at least one piece, all of them for standard error. -/
theorem exists_writes_failure (format : Format) (f : Failure) (context? : Option Json) :
    ∃ texts : List String, String.join texts ≠ "" ∧
      Writes (texts.map (Piece.mk .err)) f.exitStatus (failure format f context?) := by
  cases format with
  | json =>
    cases context? with
    | none => exact ⟨[_], by simp [String.join_cons], writes_document .err (.ofFailure f)⟩
    | some context =>
      -- With a context the response has the same exit status.
      exact ⟨[_], by simp [String.join_cons],
        writes_document .err ((Response.ofFailure f).withContext context)⟩
  | text =>
    let line (suggestion : String) : String := "  Suggestion: " ++ suggestion ++ "\n"
    refine ⟨("Error: " ++ f.message ++ "\n") :: f.suggestions.map line, by simp [String.join_cons],
      ?_⟩
    have hsuggestions : Writes (f.suggestions.map fun s => ⟨.err, line s⟩) ⟨⟩
        (f.suggestions.forM fun s => writeLine .err ("  Suggestion: " ++ s)) :=
      writes_forM (fun s => writes_writeLine .err ("  Suggestion: " ++ s)) f.suggestions
    have hpieces :
        (("Error: " ++ f.message ++ "\n") :: f.suggestions.map line).map (Piece.mk .err) =
          [⟨.err, "Error: " ++ f.message ++ "\n"⟩] ++
            (f.suggestions.map (fun s => ⟨.err, line s⟩) ++ []) := by
      simp
    rw [hpieces]
    refine .bind (writes_writeLine .err ("Error: " ++ f.message)) ?_
    exact .bind hsuggestions (.pure f.exitStatus)

/-- What is for people only is at most one piece, for standard output. -/
theorem exists_writes_info (format : Format) (text : String) :
    ∃ texts : List String, Writes (texts.map (Piece.mk .out)) () (info format text) := by
  cases format with
  | json => exact ⟨[], .pure _⟩
  | text => exact ⟨[_], writes_writeLine .out text⟩

end Output

end AutoImport
