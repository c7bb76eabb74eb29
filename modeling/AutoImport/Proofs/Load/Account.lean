import AutoImport.Proofs.Load.Effect
import Mathlib.Data.List.Forall2

/-!
# The account of a load

Every line of a content that a load gets to see is of one of three kinds, told by its text without
the blanks around it: it is blank or a comment, or it is outside the grammar, or it is a statement.
What a line of each kind adds to a load is said by `LineEffect`, and the load of any content has
what its lines add and nothing else (`Load.Accounts`):

* `lineEffect_ofLine`: a line adds what a line of its kind should;
* `pairwise_number_ofLines`: lines outside the grammar are listed in the order of the file;
* `Load.ofOpened_content`: after its lines a load only says how it ended.
-/

namespace AutoImport

/-! ## Kinds of lines -/

/-- One of three holds, and only one. -/
def ExactlyOne (p q r : Prop) : Prop :=
  (p ∧ ¬q ∧ ¬r) ∨ (¬p ∧ q ∧ ¬r) ∨ (¬p ∧ ¬q ∧ r)

/-- A line without the blanks around it. -/
def trimmed (line : String) : String :=
  .ofList (Text.trim line.toList)

/-- The text is blank or a comment. -/
def IsIdle (text : String) : Prop :=
  text = "" ∨ text.toList.head? = some '#'

/-- The text is outside the grammar. -/
def IsRejected (text : String) : Prop :=
  ¬IsIdle text ∧ readLine? text = none

/-- The text is a statement that binds at least one name. -/
def IsAccepted (text : String) : Prop :=
  ∃ names b bs, readLine? text = some names ∧ names.drain = (b :: bs, [])

variable {path text : String} {number : Nat} {names : Names}

theorem head?_of_derivesLine {cs : List Char} {bs : List Binding} (h : DerivesLine cs bs) :
    cs.head? = some 'i' ∨ cs.head? = some 'f' := by
  cases h with
  | importStatement => exact .inl rfl
  | fromStatement => exact .inr rfl

/-- A statement is neither blank nor a comment. -/
theorem not_isIdle_of_readLine? (h : readLine? text = some names) : ¬IsIdle text := by
  have hhead := head?_of_derivesLine (derives_of_readLine? h)
  rintro (rfl | hidle)
  · simp at hhead
  · rw [hidle] at hhead
    simp at hhead

/-- A statement binds at least one name, and nothing in it is skipped. -/
theorem drain_of_readLine? (h : readLine? text = some names) :
    ∃ b bs, names.bindings = b :: bs ∧ names.drain = (b :: bs, []) := by
  obtain ⟨b, bs, hbs⟩ := List.exists_cons_of_ne_nil (bindings_ne_nil_of_readLine? h)
  exact ⟨b, bs, hbs, by rw [Names.drain_eq, hbs, skipped_of_readLine? h]⟩

/-- A text is of one kind. -/
theorem exactlyOne_kind (text : String) :
    ExactlyOne (IsIdle text) (IsRejected text) (IsAccepted text) := by
  cases h : readLine? text with
  | none =>
    -- What is not read is blank, a comment, or rejected.
    have hnot : ¬IsAccepted text := by
      rintro ⟨names, _, _, hsome, _⟩
      cases h.symm.trans hsome
    by_cases hidle : IsIdle text
    · exact .inl ⟨hidle, fun hrejected => hrejected.1 hidle, hnot⟩
    · exact .inr (.inl ⟨hidle, ⟨hidle, h⟩, hnot⟩)
  | some names =>
    obtain ⟨b, bs, -, hdrain⟩ := drain_of_readLine? h
    refine .inr (.inr ⟨not_isIdle_of_readLine? h, ?_, names, b, bs, h, hdrain⟩)
    rintro ⟨-, hnone⟩
    cases h.symm.trans hnone

theorem isIdle_trimmed_iff (line : String) : IsIdle (trimmed line) ↔
    ((Text.trim line.toList).isEmpty || (Text.trim line.toList).head? == some '#') = true := by
  simp [IsIdle, trimmed]

namespace LineMeaning

variable {line : String}

/-- A line that is blank or a comment without the blanks around it means nothing. -/
theorem ofLine_of_isIdle (h : IsIdle (trimmed line)) : ofLine line = .idle := by
  rw [ofLine, if_pos ((isIdle_trimmed_iff line).1 h)]

/-- A line that is outside the grammar without the blanks around it means just its text. -/
theorem ofLine_of_isRejected (h : IsRejected (trimmed line)) :
    ofLine line = .unrecognized (trimmed line) := by
  obtain ⟨hidle, hnone⟩ := h
  rw [trimmed] at hnone
  rw [ofLine, if_neg ((isIdle_trimmed_iff line).not.1 hidle), hnone]
  rfl

/-- A line that is a statement without the blanks around it means this statement. -/
theorem ofLine_of_readLine? (h : readLine? (trimmed line) = some names) :
    ofLine line = .statement names := by
  have hidle := (isIdle_trimmed_iff line).not.1 (not_isIdle_of_readLine? h)
  rw [trimmed] at h
  rw [ofLine, if_neg hidle, h]

end LineMeaning

/-! ## What a line of each kind adds -/

/-- What the line with a number and a text should add to the load of a path. -/
inductive LineEffect (path : String) (number : Nat) (text : String) : Effect → Prop
  /-- Blanks and comments add nothing at all. -/
  | idle : IsIdle text → LineEffect path number text ⟨[], [], []⟩
  /-- A line outside the grammar is listed, and an event tells of it. -/
  | rejected : IsRejected text →
    LineEffect path number text ⟨[], [.logged (.unrecognized path number)], [⟨number, text⟩]⟩
  /-- Each binding of a statement is shown and registered: its name, and right after it the local
      name where it is another one. -/
  | accepted {names b bs} : readLine? text = some names → names.drain = (b :: bs, []) →
    LineEffect path number text
      ⟨(b :: bs).flatMap fun b =>
        .name b.name b.module ::
          if b.localName ≠ "" ∧ b.localName ≠ b.name then [.rename b.localName b.name] else [],
        (b :: bs).map (.shown ·.label), []⟩

/-- What bindings add, field by field. -/
theorem join_ofBinding (bs : List Binding) :
    Effect.join (bs.map .ofBinding) =
      ⟨bs.flatMap fun b =>
        .name b.name b.module ::
          if b.localName ≠ "" ∧ b.localName ≠ b.name then [.rename b.localName b.name] else [],
        bs.map (.shown ·.label), []⟩ := by
  rw [Effect.join_map_ofBinding]
  simp [Binding.registrations, Binding.renames]

/-- A line adds what a line of its kind should. -/
theorem lineEffect_ofLine (path : String) (number : Nat) (line : String) :
    LineEffect path number (trimmed line) (.ofLine path number line) := by
  by_cases h : IsIdle (trimmed line)
  · rw [Effect.ofLine, LineMeaning.ofLine_of_isIdle h]
    exact .idle h
  · cases hread : readLine? (trimmed line) with
    | none =>
      rw [Effect.ofLine, LineMeaning.ofLine_of_isRejected ⟨h, hread⟩]
      exact .rejected ⟨h, hread⟩
    | some names =>
      obtain ⟨b, bs, hbs, hdrain⟩ := drain_of_readLine? hread
      rw [Effect.ofLine_of_statement (LineMeaning.ofLine_of_readLine? hread),
        ← Effect.join_map_ofBinding, join_ofBinding, hbs]
      exact .accepted hread hdrain

/-- Each of the lines from a number on adds what it should. -/
theorem forall₂_ofLines (path : String) (number : Nat) (lines : List String) :
    List.Forall₂ (fun line effect => LineEffect path line.2 (trimmed line.1) effect)
      (lines.zipIdx number) (Effect.ofLines path number lines) := by
  rw [Effect.ofLines, List.forall₂_map_right_iff, List.forall₂_same]
  exact fun line _ => lineEffect_ofLine path line.2 line.1

/-! ## The order of lines outside the grammar -/

/-- A line is listed with its own number, and once. -/
theorem unrecognized_ofLine (path : String) (number : Nat) (line : String) :
    (Effect.ofLine path number line).unrecognized = [] ∨
      ∃ text, (Effect.ofLine path number line).unrecognized = [⟨number, text⟩] := by
  generalize heffect : Effect.ofLine path number line = effect
  cases heffect ▸ lineEffect_ofLine path number line with
  | idle => exact .inl rfl
  | rejected => exact .inr ⟨_, rfl⟩
  | accepted => exact .inl rfl

/-- Lines from a number on are listed in their order, with numbers from that one on. -/
theorem pairwise_number_ofLines (path : String) (number : Nat) (lines : List String) :
    let listed := (Effect.ofLines path number lines).flatMap (·.unrecognized)
    listed.Pairwise (·.number < ·.number) ∧ ∀ line ∈ listed, number ≤ line.number := by
  induction lines generalizing number with
  | nil => simp [Effect.ofLines]
  | cons line lines ih =>
    obtain ⟨hpairwise, hle⟩ := ih (number + 1)
    rw [Effect.ofLines_cons, List.flatMap_cons]
    -- The line may be listed, with its number; those after it have larger numbers.
    obtain h | ⟨text, h⟩ := unrecognized_ofLine path number line
    · rw [h]
      exact ⟨hpairwise, fun line hline => Nat.le_of_succ_le (hle line hline)⟩
    · rw [h]
      refine ⟨List.pairwise_cons.2 ⟨hle, hpairwise⟩, List.forall_mem_cons.2 ⟨Nat.le_refl _, ?_⟩⟩
      exact fun line hline => Nat.le_of_succ_le (hle line hline)

/-! ## The whole load -/

namespace Load

/-- What a load should say and note down when it ends. -/
def ending (load : Load) (lines : List (List UInt8)) : List Notice :=
  if ∀ line ∈ lines, isReadable line then
    [.logged (.loaded load.path load.report.imports load.report.aliases)]
  else
    [.logged (.stopped load.path ((readable lines).length + 1) .invalidUtf8),
      .shown ("Failed to load " ++ load.path ++ ": " ++ OsError.invalidUtf8.message)]

/-- A load accounts for every line, by an effect for each line that it gets to see. -/
structure Accounts (load : Load) (lines : List (List UInt8)) (effects : List Effect) : Prop where
  /-- Each line is of one kind. -/
  kinds : ∀ line ∈ readable lines,
    ExactlyOne (IsIdle (trimmed line)) (IsRejected (trimmed line)) (IsAccepted (trimmed line))
  /-- Each effect is that of the line in its place, and all lines are numbered from 1. -/
  each : List.Forall₂
    (fun line effect => LineEffect load.path line.2 (trimmed line.1) effect)
    ((readable lines).zipIdx 1) effects
  /-- The keeper of names is told what the lines add, and nothing else. -/
  registrations : load.registrations = effects.flatMap (·.registrations)
  /-- Nothing else is said or noted down but how the load ends. -/
  notices : load.notices = effects.flatMap (·.notices) ++ load.ending lines
  /-- The report lists what the lines add, -/
  unrecognized : load.report.unrecognized = effects.flatMap (·.unrecognized)
  /-- in the order of the file. -/
  increasing : load.report.unrecognized.Pairwise (·.number < ·.number)
  /-- The counts are those of what the keeper of names is told. -/
  imports : load.report.imports = load.registrations.countP (!·.isRename)
  aliases : load.report.aliases = load.registrations.countP (·.isRename)
  /-- The file is read to its end exactly if every line is UTF-8, and else that is the failure. -/
  fileRead : load.report.fileRead = true ↔ ∀ line ∈ lines, isReadable line
  failure? : load.failure? =
    if load.report.fileRead then none else some (.fileRead load.path .invalidUtf8)

/-- The load of a content is what its lines add to nothing, with how it ends. -/
theorem ofOpened_content (path : String) (bytes : List UInt8) :
    let lines := splitLines bytes
    let taken := (start path).add (.join (Effect.ofLines path 1 (readable lines)))
    ofOpened path (.content bytes) =
      { taken with
        notices := taken.notices ++ taken.ending lines
        fileRead := decide (∀ line ∈ lines, isReadable line)
        fault? := if ∀ line ∈ lines, isReadable line then none else some .invalidUtf8 } := by
  intro lines taken
  rw [ofOpened, takeLines_eq, ending]
  by_cases h : ∀ line ∈ lines, isReadable line
  · rw [if_pos h, if_pos h, if_pos h, decide_eq_true h]
    rfl
  · -- The event and what is said of it are noted down one after the other.
    rw [if_neg h, if_neg h, if_neg h, decide_eq_false h, Nat.add_comm]
    simp only [stop, fail, note, List.append_assoc]
    rfl

/-- The load of any content accounts for every line of it exactly once: there is one way to divide
    the content into lines, and what the load tells, says, notes down and reports is what those of
    the lines that it gets to see add, each on its own, and how it ends. -/
theorem ofOpened_accounts (path : String) (bytes : List UInt8) :
    ∃ lines effects, (∀ lines', IsLines bytes lines' ↔ lines = lines') ∧
      (ofOpened path (.content bytes)).report.path = path ∧
      (ofOpened path (.content bytes)).Accounts lines effects := by
  have hcontent := ofOpened_content path bytes
  dsimp only at hcontent
  have heach := forall₂_ofLines path 1 (readable (splitLines bytes))
  obtain ⟨hincreasing, -⟩ := pairwise_number_ofLines path 1 (readable (splitLines bytes))
  refine ⟨splitLines bytes, Effect.ofLines path 1 (readable (splitLines bytes)),
    fun _ => isLines_iff, ?_⟩
  -- From here on it does not matter what the lines and their effects are.
  generalize Effect.ofLines path 1 (readable (splitLines bytes)) = effects at *
  generalize splitLines bytes = lines at *
  rw [hcontent]
  refine ⟨rfl, ?_⟩
  exact {
    kinds := fun line _ => exactlyOne_kind (trimmed line)
    each := heach
    registrations := rfl
    notices := rfl
    unrecognized := rfl
    increasing := hincreasing
    imports := Nat.zero_add _
    aliases := Nat.zero_add _
    fileRead := decide_eq_true_iff
    failure? := by
      simp only [failure?, report, decide_eq_true_eq]
      split <;> rfl }

end Load

end AutoImport
