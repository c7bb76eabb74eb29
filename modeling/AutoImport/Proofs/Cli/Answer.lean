import AutoImport.Proofs.Cli.Listing
import AutoImport.Proofs.Json.Binding
import AutoImport.Proofs.Output

/-!
# Answers that read back

A program that asks for a name gets a document, and in it, as its data, the binding that was found
and one more text, the statement. The binding reads back from the data as if the statement were not
there, and the statement is the line that people get (`json_answers_read_back`).

Programs may keep the data in a form of their own before they read it, in another layout or with the
fields in another order. That makes no difference.
-/

namespace AutoImport

/-- An object of texts fits, whatever the texts are. -/
theorem Json.fits_ofTexts (texts : List (String × String)) : (ofTexts texts).fits := by
  have hfields : fieldsFit (texts.map fun t => (t.1, .str t.2)) := by
    induction texts with
    | nil => rfl
    | cons t texts ih => exact ih
  exact hfields

namespace Binding

/-- The texts of the answer to a lookup. -/
def answerTexts (b : Binding) : List (String × String) :=
  b.toTexts ++ [("statement", b.statement)]

/-- The statement has a name of its own. -/
theorem isAmong_answerTexts (b : Binding) : b.IsAmong b.answerTexts :=
  ⟨rfl, rfl, rfl⟩

end Binding

/-- What a lookup tells a program, if there is something to tell. -/
theorem writes_lookup_json {path name : String} {opened : Opened} {b : Binding}
    (hb : (Table.ofLoads [(path, opened)]).resolve? name = some b) (terminal : Terminal)
    (settings : Settings) :
    Writing.Writes [⟨.out, (Response.success (.ofTexts b.answerTexts)).toJson.pretty ++ "\n"⟩]
      .success ((Command.lookup name .json).run terminal settings (.ofOpened path opened)) := by
  have hanswer : (Table.empty.registerAll (Load.ofOpened path opened).registrations).resolve? name =
      some b := hb
  have hrun : (Command.lookup name .json).run terminal settings (.ofOpened path opened) =
      Output.document .out (.success (.ofTexts b.answerTexts)) := by
    rw [Command.run, Command.runLookup, hanswer]
    rfl
  rw [hrun]
  exact Output.writes_document .out _

/-- A binding reads back from its text in any layout. Whenever the table of the imports file has a
    binding for a name, a lookup of the name for programs ends well, and what it prints is one
    document with the texts of the binding and its statement as data; from these the binding reads
    back, in any order and layout; and a lookup for people prints the same statement. -/
theorem json_answers_read_back :
    (∀ (b : Binding) (layout : Json.Layout) (depth : Nat), layout.IsBlank →
      Binding.ofJsonText (.ofList (b.toJson.write layout depth)) = .ok b) ∧
    ∀ (world : World) (args : List String) (session : Session) (name : String) (b : Binding)
      (console : Console),
      let file := session.settings.importsFile
      world.Starts args session → session.command = .lookup name .json → console.Accepts →
      (Table.ofLoads [(file, world.openPath file)]).resolve? name = some b →
      (∃ console' text document data,
        runProgram world args console = (.exited .success, console') ∧
        console'.out = console.out ++ (text ++ "\n") ∧
        Json.parse text = .ok document ∧ document.get? "data" = some (.ofTexts data) ∧
        data = b.toTexts ++ [("statement", b.statement)] ∧
        ∀ data' layout depth, data'.Perm data → layout.IsBlank →
          Binding.ofJsonText (.ofList ((Json.ofTexts data').write layout depth)) = .ok b) ∧
      ∀ args' session', world.Starts args' session' → session'.command = .lookup name .text →
        session'.settings.importsFile = file →
        ∃ console', runProgram world args' console = (.exited .success, console') ∧
          console'.out = console.out ++ (b.statement ++ "\n") := by
  refine ⟨fun b layout depth hlayout => b.ofJsonText_toJson hlayout depth, ?_⟩
  intro world args session name b console file hstarts hcommand hconsole hb
  constructor
  · let document : Json := (Response.success (.ofTexts b.answerTexts)).toJson
    have hwrites : Writing.Writes [⟨.out, document.pretty ++ "\n"⟩] .success
        (session.command.run world.terminal session.settings
          (.ofOpened file (world.openPath file))) := by
      rw [hcommand]
      exact writes_lookup_json hb world.terminal session.settings
    obtain ⟨console', hrun, hout⟩ := World.exists_runProgram_of_writes hstarts hconsole hwrites
    rw [Piece.textOn_cons, if_pos rfl, Piece.textOn_eq_empty (by simp), String.append_empty] at hout
    have hfits : document.fits := Response.fits_toJson (Json.fits_ofTexts b.answerTexts)
    have hdata : document.get? "data" = some (.ofTexts b.answerTexts) := rfl
    refine ⟨console', document.pretty, document, b.answerTexts, hrun, hout, Json.parse_pretty hfits,
      hdata, rfl, ?_⟩
    intro data' layout depth hperm hlayout
    exact (Binding.ofJsonText_write_iff hlayout).2 (b.isAmong_answerTexts.perm hperm)
  · intro args' session' hstarts' hcommand' hfile
    rw [← hfile] at hb
    obtain ⟨console', hrun, hout⟩ := Session.run_lookup_of_resolve? hcommand' hconsole hb
      world.terminal world.time
    exact ⟨console', (runProgram_eq_run hstarts' console).trans hrun, hout⟩

/-- A file of one statement that renames. -/
def renamedModule : Opened :=
  .content "import numpy as np\n".toUTF8.data.toList

/-- A binding of which many characters have to be escaped. -/
def escapedBinding : Binding :=
  ⟨"\"\\\x07", "\n\u2028\x7f", "caf\u00e9\u0000"⟩

/-- A binding with texts that have to be escaped, and lookups of a name for programs and for
    people. -/
theorem json_answers_read_back_renamedModule :
    Binding.ofJsonText (.ofList (escapedBinding.toJson.write .pretty 0)) = .ok escapedBinding ∧
    (∃ console text document data,
      runProgram (.holding renamedModule) ["lookup", "np", "--json"] (.fresh fun _ => false) =
        (.exited .success, console) ∧
      console.out = text ++ "\n" ∧
      Json.parse text = .ok document ∧ document.get? "data" = some (.ofTexts data) ∧
      Binding.ofJsonText (.ofList ((Json.ofTexts data.reverse).write .compact 0)) =
        .ok ⟨"", "numpy", "np"⟩) ∧
    ∃ console,
      runProgram (.holding renamedModule) ["lookup", "np"] (.fresh fun _ => false) =
        (.exited .success, console) ∧
      console.out = "import numpy as np\n" := by
  have hanswer : (Table.ofLoads [("imports", renamedModule)]).resolve? "np" =
      some ⟨"", "numpy", "np"⟩ := by decide +kernel
  have hpath (path : String) : Table.ofLoads [(path, renamedModule)] =
      Table.ofLoads [("imports", renamedModule)] := by rw [Table.ofLoads_eq, Table.ofLoads_eq]; rfl
  have hstarts : ∃ session session',
      (World.holding renamedModule).Starts ["lookup", "np", "--json"] session ∧
      (World.holding renamedModule).Starts ["lookup", "np"] session' ∧
      session.command = .lookup "np" .json ∧ session'.command = .lookup "np" .text ∧
      session'.settings.importsFile = session.settings.importsFile :=
    ⟨_, _, ⟨_, rfl, rfl⟩, ⟨_, rfl, rfl⟩, rfl, rfl, rfl⟩
  obtain ⟨session, session', hstarts, hstarts', hcommand, hcommand', hfile⟩ := hstarts
  obtain ⟨hreads, hanswers⟩ := json_answers_read_back
  refine ⟨hreads _ .pretty 0 Json.Layout.isBlank_pretty, ?_⟩
  obtain ⟨⟨console, text, document, data, hrun, hout, hparse, hdata, -, hread⟩, htext⟩ :=
    hanswers _ _ session "np" ⟨"", "numpy", "np"⟩ _ hstarts hcommand Console.accepts_fresh
      ((hpath _).symm ▸ hanswer)
  obtain ⟨console', hrun', hout'⟩ := htext _ session' hstarts' hcommand' hfile
  refine ⟨⟨console, text, document, data, hrun, hout.trans String.empty_append, hparse, hdata,
    hread _ .compact 0 data.reverse_perm Json.Layout.isBlank_compact⟩, console', hrun', ?_⟩
  exact hout'.trans (by decide +kernel)

end AutoImport
