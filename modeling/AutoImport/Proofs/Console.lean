import AutoImport.Output
import Mathlib.Tactic.SplitIfs

/-!
# What writing leaves alone

An action that writes changes the streams it writes to, and may be refused half way. What it leaves
alone in either case is an observation of the streams that it keeps (`Writing.Keeps`), and actions
made of ones that keep something keep it. So standard output has taken nothing new from whatever is
written to standard error (`Writing.keeps_out_writeLine_err`).

What an action gives back may be known without knowing what it is refused (`Writing.Returns`), as
the exit status that goes with a failure is (`Output.returns_failure`). And where nothing is refused
it gives something back (`Writing.Completes`).
-/

namespace AutoImport

/-- Neither stream refuses what is written to it. -/
def Console.Accepts (c : Console) : Prop :=
  ∀ stream, c.refuses stream = false

namespace Writing

variable {α β γ : Type} {f : Console → γ}

/-! ## Lines -/

/-- A line is written, unless the stream refuses it. -/
theorem run_writeLine (stream : Stream) (text : String) (c : Console) :
    (writeLine stream text).run c =
      if c.refuses stream then .error .noSpaceLeft c
      else .ok () (c.append stream (text ++ "\n")) := by
  -- Only nothing is never refused, and a line has at least its line feed.
  have hne : (text ++ "\n").isEmpty = false := by simp
  cases h : c.refuses stream <;>
    simp [writeLine, write, EStateM.run_bind, hne, h]

/-! ## What is kept -/

/-- The streams after an action, whichever way it ended. -/
def after (w : Writing α) (c : Console) : Console :=
  match w.run c with
  | .ok _ c' => c'
  | .error _ c' => c'

/-- An action keeps an observation of the streams if it is the same after it, whichever way it
    ended. -/
def Keeps (f : Console → γ) (w : Writing α) : Prop :=
  ∀ c, f (w.after c) = f c

theorem Keeps.pure (a : α) : Keeps f (Pure.pure a : Writing α) :=
  fun _ => rfl

theorem Keeps.bind {w : Writing α} {w' : α → Writing β} (hw : Keeps f w)
    (hw' : ∀ a, Keeps f (w' a)) : Keeps f (w >>= w') := by
  intro c
  have hc := hw c
  rw [after] at hc ⊢
  rw [EStateM.run_bind]
  cases h : w.run c with
  | ok a c' =>
    rw [h] at hc
    exact (hw' a c').trans hc
  | error e c' =>
    rw [h] at hc
    exact hc

/-- Whether the loss of a line matters makes no difference to the streams. -/
theorem after_offerLine (stream : Stream) (text : String) (c : Console) :
    (offerLine stream text).after c = (writeLine stream text).after c := by
  have hcatch : (offerLine stream text).run c =
      EStateM.tryCatch (writeLine stream text) (fun _ => pure ()) c := rfl
  rw [after, after, hcatch, EStateM.tryCatch, EStateM.run]
  cases writeLine stream text c <;> rfl

theorem Keeps.offerLine {stream : Stream} {text : String} (h : Keeps f (writeLine stream text)) :
    Keeps f (offerLine stream text) :=
  fun c => (congrArg f (after_offerLine stream text c)).trans (h c)

/-- What each action of a list keeps is kept by all of them, one after the other. -/
theorem Keeps.forM {as : List α} {w : α → Writing PUnit} (h : ∀ a ∈ as, Keeps f (w a)) :
    Keeps f (as.forM w) := by
  induction as with
  | nil => exact Keeps.pure _
  | cons a as ih =>
    exact (h a List.mem_cons_self).bind fun _ => ih fun a' ha' => h a' (List.mem_cons_of_mem _ ha')

/-- What is written to standard error is not on standard output. -/
theorem keeps_out_writeLine_err (text : String) : Keeps Console.out (writeLine .err text) := by
  intro c
  rw [after, run_writeLine]
  split_ifs <;> rfl

/-! ## Results -/

/-- An action that is not refused gives a result that is known before. -/
def Returns (a : α) (w : Writing α) : Prop :=
  ∀ c b c', w.run c = .ok b c' → b = a

theorem Returns.pure (a : α) : Returns a (Pure.pure a : Writing α) := by
  intro c b c' h
  cases h
  rfl

/-- The result of the last action is that of all. -/
theorem Returns.bind {w : Writing α} {w' : α → Writing β} {b : β} (h : ∀ a, Returns b (w' a)) :
    Returns b (w >>= w') := by
  intro c b' c' hrun
  rw [EStateM.run_bind] at hrun
  cases hw : w.run c with
  | ok a c₁ =>
    rw [hw] at hrun
    exact h a c₁ b' c' hrun
  | error e c₁ =>
    rw [hw] at hrun
    cases hrun

/-! ## Streams that refuse nothing -/

/-- An action completes if it gives a result wherever nothing is refused. -/
def Completes (w : Writing α) : Prop :=
  ∀ c : Console, c.Accepts → ∃ a c', w.run c = .ok a c' ∧ c'.Accepts

theorem Completes.pure (a : α) : Completes (Pure.pure a : Writing α) :=
  fun c hc => ⟨a, c, rfl, hc⟩

theorem Completes.bind {w : Writing α} {w' : α → Writing β} (hw : Completes w)
    (hw' : ∀ a, Completes (w' a)) : Completes (w >>= w') := by
  intro c hc
  obtain ⟨a, c₁, hrun, hc₁⟩ := hw c hc
  obtain ⟨b, c₂, hrun', hc₂⟩ := hw' a c₁ hc₁
  refine ⟨b, c₂, ?_, hc₂⟩
  rw [EStateM.run_bind, hrun]
  exact hrun'

theorem Completes.forM {as : List α} {w : α → Writing PUnit} (h : ∀ a ∈ as, Completes (w a)) :
    Completes (as.forM w) := by
  induction as with
  | nil => exact .pure _
  | cons a as ih =>
    exact (h a List.mem_cons_self).bind fun _ => ih fun a' ha' => h a' (List.mem_cons_of_mem _ ha')

theorem completes_writeLine (stream : Stream) (text : String) :
    Completes (writeLine stream text) := by
  intro c hc
  refine ⟨(), c.append stream (text ++ "\n"), ?_, ?_⟩
  · rw [run_writeLine, hc stream]
    rfl
  · cases stream <;> exact hc

theorem Completes.offerLine {stream : Stream} {text : String}
    (h : Completes (writeLine stream text)) : Completes (offerLine stream text) := by
  intro c hc
  obtain ⟨u, c', hrun, hc'⟩ := h c hc
  refine ⟨u, c', ?_, hc'⟩
  change EStateM.tryCatch (writeLine stream text) (fun _ => Pure.pure ()) c = _
  rw [EStateM.tryCatch, show writeLine stream text c = _ from hrun]

end Writing

namespace Output

open Writing

/-- What was asked for is said to people in one line of standard output. -/
theorem run_success_text (answer : Answer) (c : Console) :
    (success .text answer).run c =
      if c.refuses .out then .error .noSpaceLeft c
      else .ok .success (c.append .out (answer.text ++ "\n")) := by
  have hbind : success .text answer =
      writeLine .out answer.text >>= fun _ => pure ExitStatus.success := rfl
  rw [hbind, EStateM.run_bind, run_writeLine]
  cases c.refuses .out <;> rfl

/-- What was asked for is a success, in either form. -/
theorem returns_success (format : Format) (answer : Answer) :
    Returns .success (success format answer) := by
  cases format <;> exact .bind fun _ => .pure _

theorem completes_success (format : Format) (answer : Answer) :
    Completes (success format answer) := by
  cases format <;> exact (completes_writeLine _ _).bind fun _ => .pure _

theorem completes_info (format : Format) (text : String) : Completes (info format text) := by
  cases format with
  | text => exact completes_writeLine _ _
  | json => exact .pure _

/-- A document gives the exit status of its response. -/
theorem returns_document (stream : Stream) (response : Response) :
    Returns response.exitStatus (document stream response) :=
  .bind fun _ => .pure _

/-- Saying that something failed gives the exit status of the failure, if it can be said. -/
theorem returns_failure (format : Format) (f : Failure) (context? : Option Json) :
    Returns f.exitStatus (failure format f context?) := by
  cases format with
  | text => exact .bind fun _ => .bind fun _ => .pure _
  | json => cases context? <;> exact returns_document _ _

end Output

end AutoImport
