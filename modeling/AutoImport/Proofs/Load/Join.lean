import AutoImport.Proofs.Load.Stop
import AutoImport.Proofs.Table.Loads
import AutoImport.Proofs.Vim.Loads

/-!
# Loads one after the other

A content that is UTF-8 and ends a line can be put before any other content in one file. The load of
the file does what the two loads do one after the other (`Load.ofOpened_append`): no line of the
second is read otherwise for the lines before it, wherever the second stops. Only the lines outside
the grammar are numbered on (`Load.Joins`).

* A load that has taken in the lines of both has done what the two loads have done
  (`Load.joins_add`), and a load that then ends or fails does so like the second
  (`Load.Joins.finish`, `Load.Joins.fail`).
* So a keeper of names cannot tell one file from two, whatever it has kept before.
-/

namespace AutoImport

namespace Load

/-- A load does what a first load and then a second one do, if the second finds a number of lines
    before its own. It ends like the second. -/
structure Joins (load first second : Load) (lines : Nat) : Prop where
  path : load.path = second.path
  registrations : load.registrations = first.registrations ++ second.registrations
  imports : load.report.imports = first.report.imports + second.report.imports
  aliases : load.report.aliases = first.report.aliases + second.report.aliases
  unrecognized : load.report.unrecognized =
    first.report.unrecognized ++ second.report.unrecognized.map (·.behind lines)
  fileRead : load.report.fileRead = second.report.fileRead
  failure? : load.failure? = second.failure?
  diagnostics : load.diagnostics true = first.diagnostics true ++ second.diagnostics true

namespace Joins

variable {load first second : Load} {lines : Nat}

/-- It makes no difference if the first load has ended at the end of its file. -/
theorem finish_first (h : load.Joins first second lines) :
    load.Joins first.finish second lines :=
  { h with diagnostics := by rw [h.diagnostics, diagnostics_finish] }

theorem finish (h : load.Joins first second lines) :
    load.finish.Joins first second.finish lines :=
  { h with
    fileRead := rfl
    diagnostics := by rw [diagnostics_finish, h.diagnostics, diagnostics_finish] }

/-- The two may fail with different events, as the number of the line they stop at is not one. -/
theorem fail (h : load.Joins first second lines) (event event' : Event) (cause : OsError) :
    (load.fail event cause).Joins first (second.fail event' cause) lines :=
  { h with
    failure? := congrArg (fun path => some (Failure.fileRead path cause)) h.path
    diagnostics := by
      rw [diagnostics_fail, h.diagnostics, diagnostics_fail, h.path, String.append_assoc] }

end Joins

section Taken

variable (path : String) (number : Nat) (lines : List String)

/-- A load that has taken in lines has registered what their bindings register. -/
theorem registrations_add_ofLines :
    ((start path).add (.join (Effect.ofLines path number lines))).registrations =
      (lines.flatMap fun line => (LineMeaning.ofLine line).bindings).flatMap (·.registrations) :=
  Effect.registrations_join_ofLines path number lines

/-- A load that has taken in lines has shown the labels of their bindings. -/
theorem diagnostics_add_ofLines :
    ((start path).add (.join (Effect.ofLines path number lines))).diagnostics true =
      .join ((lines.flatMap fun line => (LineMeaning.ofLine line).bindings).map
        (·.label ++ "\n")) := by
  have hshown : ((start path).add (.join (Effect.ofLines path number lines))).notices.filterMap
      Notice.shown? = _ := Effect.shown_join_ofLines path number lines
  rw [diagnostics, if_pos rfl, hshown, List.map_map]
  rfl

/-- The counts of a load that starts with an effect are those of what it has registered. -/
theorem counts_add (e : Effect) :
    ((start path).add e).imports = ((start path).add e).registrations.countP (!·.isRename) ∧
    ((start path).add e).aliases = ((start path).add e).registrations.countP (·.isRename) :=
  ⟨Nat.zero_add _, Nat.zero_add _⟩

end Taken

/-- A load that has taken in some lines and then others has done what two loads have done that have
    taken them in. -/
theorem joins_add (path path' : String) (lines lines' : List String) :
    ((start path).add (.join (Effect.ofLines path 1 (lines ++ lines')))).Joins
      ((start path').add (.join (Effect.ofLines path' 1 lines)))
      ((start path).add (.join (Effect.ofLines path 1 lines'))) lines.length := by
  have hregistrations :
      ((start path).add (.join (Effect.ofLines path 1 (lines ++ lines')))).registrations =
        ((start path').add (.join (Effect.ofLines path' 1 lines))).registrations ++
          ((start path).add (.join (Effect.ofLines path 1 lines'))).registrations := by
    simp only [registrations_add_ofLines, List.flatMap_append]
  refine {
    path := rfl
    registrations := hregistrations
    imports := ?_
    aliases := ?_
    unrecognized := ?_
    fileRead := rfl
    failure? := rfl
    diagnostics := ?_ }
  · simp only [report, counts_add, hregistrations, List.countP_append]
  · simp only [report, counts_add, hregistrations, List.countP_append]
  · -- How a line is listed depends on its number, but not on the path.
    have hpath : (Effect.join (Effect.ofLines path 1 lines)).unrecognized =
        (Effect.join (Effect.ofLines path' 1 lines)).unrecognized :=
      (Effect.unrecognized_join_ofLines_add path path 0 1 lines).trans
        (Effect.unrecognized_join_ofLines_add path' path 0 1 lines).symm
    simp only [report, add, start, List.nil_append, Effect.ofLines_append, Effect.join_append,
      hpath, Effect.unrecognized_join_ofLines_add path path lines.length 1 lines']
  · simp only [diagnostics_add_ofLines, List.flatMap_append, List.map_append, String.join_append]

/-- A content that is UTF-8 and ends a line can be put before another one, and the load of the two
    in one file is that of the first, from whatever path, and then that of the second. -/
theorem ofOpened_joins (path path' : String) {bytes : List UInt8} (hread : isReadable bytes)
    (hend : EndsLine bytes) (bytes' : List UInt8) :
    (ofOpened path (.content (bytes ++ bytes'))).Joins (ofOpened path' (.content bytes))
      (ofOpened path (.content bytes')) (splitLines bytes).length := by
  have hlines := isReadable_of_mem_splitLines hread
  have hjoins := joins_add path path' (readable (splitLines bytes)) (readable (splitLines bytes'))
  rw [length_readable hlines] at hjoins
  -- All lines can be read if those of the second content can.
  have hall : (∀ line ∈ splitLines bytes ++ splitLines bytes', isReadable line) ↔
      ∀ line ∈ splitLines bytes', isReadable line := by
    rw [List.forall_mem_append, and_iff_right hlines]
  rw [ofOpened, ofOpened, ofOpened, splitLines_append_of_endsLine hend, takeLines_eq, takeLines_eq,
    takeLines_eq, if_pos hlines, readable_append hlines]
  simp only [hall]
  split
  · exact hjoins.finish_first.finish
  · exact hjoins.finish_first.fail _ _ _

/-- What a load registers does not depend on the paths, nor on whether there are two of them. -/
theorem registrations_append (path path' path'' : String) {bytes : List UInt8}
    (hread : isReadable bytes) (hend : EndsLine bytes) (bytes' : List UInt8) :
    (ofOpened path (.content (bytes ++ bytes'))).registrations =
      (ofOpened path' (.content bytes)).registrations ++
        (ofOpened path'' (.content bytes')).registrations := by
  rw [(ofOpened_joins path path' hread hend bytes').registrations,
    registrations_ofOpened path (.content bytes'), registrations_ofOpened path'']

end Load

/-! ## Keepers of names -/

/-- The load of two contents in one file, the first of which is UTF-8 and ends a line, does what the
    loads of the two do, one after the other. A table and a list of commands, whatever is in them,
    are the same after the one load and after the two, from whatever paths. -/
theorem Load.ofOpened_append (path path' : String) {bytes : List UInt8} (hread : isReadable bytes)
    (hend : EndsLine bytes) (bytes' : List UInt8) :
    (ofOpened path (.content (bytes ++ bytes'))).Joins (ofOpened path' (.content bytes))
      (ofOpened path (.content bytes')) (splitLines bytes).length ∧
    ∀ path'',
      (∀ t : Table, t.load path (.content (bytes ++ bytes')) =
        (t.load path' (.content bytes)).load path'' (.content bytes')) ∧
      (∀ (vars : Vim.Variables) (commands : List String),
        vars.load commands path (.content (bytes ++ bytes')) =
          vars.load (vars.load commands path' (.content bytes)) path'' (.content bytes')) := by
  refine ⟨ofOpened_joins path path' hread hend bytes', fun path'' => ?_⟩
  have hregistrations := registrations_append path path' path'' hread hend bytes'
  refine ⟨fun t => ?_, fun vars commands => ?_⟩
  · rw [Table.load, hregistrations, Table.registerAll_append]
    rfl
  · rw [Vim.Variables.load, hregistrations, Vim.Variables.commands_append, ← List.append_assoc]
    rfl

/-- Four lines, ended with and without carriage returns: a comment, a statement, one line outside
    the grammar, and nothing. -/
def mixedLines : List UInt8 :=
  "# names\r\nimport numpy as np\n???\r\n\n".toUTF8.data.toList

/-- Three lines: one outside the grammar, a statement that gives a name another module, and
    something that is not UTF-8. -/
def brokenLines : List UInt8 :=
  "import\nfrom numerics import numpy\n".toUTF8.data.toList ++ [255]

/-- In one file, the fifth line is listed beside the third, and a name has the module that the
    second content gives to it. -/
theorem Load.ofOpened_append_mixedLines :
    isReadable mixedLines ∧ EndsLine mixedLines ∧
    (ofOpened "imports" (.content (mixedLines ++ brokenLines))).report.unrecognized =
      [⟨3, "???"⟩, ⟨5, "import"⟩] ∧
    (Table.empty.load "imports" (.content (mixedLines ++ brokenLines))).resolve? "np" =
      some ⟨"numerics", "numpy", "np"⟩ := by
  have hread : isReadable mixedLines := by decide +kernel
  have hend : EndsLine mixedLines := .inr (by decide +kernel)
  obtain ⟨hjoins, hkeepers⟩ := ofOpened_append "imports" "imports" hread hend brokenLines
  refine ⟨hread, hend, hjoins.unrecognized.trans (by decide +kernel), ?_⟩
  rw [(hkeepers "imports").1]
  decide +kernel

end AutoImport
