import AutoImport.Proofs.Cli.Session
import AutoImport.Proofs.Table.Listing

/-!
# Lookups of what is listed

Whatever is listed of a file can be looked up: a lookup of its local name ends well, and prints the
statement of something that is listed under this local name (`lookup_answers_listed`). That is what
was asked for, but for one case: a name may be the local name of another name too, so that it is
listed twice, and then the local name wins (`Table.resolve?_shadowedName`).
-/

namespace AutoImport

/-- A lookup of a symbol that the table of the file has an answer for prints the statement of the
    answer. -/
theorem Session.run_lookup_of_resolve? {session : Session} {s : String} {opened : Opened}
    {console : Console} {b : Binding} (hcommand : session.command = .lookup s .text)
    (hconsole : console.Accepts)
    (hb : (Table.ofLoads [(session.settings.importsFile, opened)]).resolve? s = some b)
    (terminal : Terminal) (time : String) :
    ∃ console', session.run terminal time opened console = (.exited .success, console') ∧
      console'.out = console.out ++ (b.statement ++ "\n") := by
  obtain ⟨console₁, hconsole₁, hout, hrun⟩ :=
    session.exists_run_eq_carryOut hconsole terminal time opened
  let load := Load.ofOpened session.settings.importsFile opened
  have hcommand' : session.command.run terminal session.settings load =
      Output.success .text (lookupAnswer b) := by
    have hanswer : (Table.empty.registerAll load.registrations).resolve? s = some b := hb
    rw [hcommand, Command.run, Command.runLookup, hanswer]
  refine ⟨console₁.append .out (b.statement ++ "\n"), ?_, congrArg (· ++ _) hout⟩
  rw [hrun, carryOut, hcommand', Output.run_success_text, hconsole₁]
  rfl

/-- For everything that a table of loads lists, it has an answer that it lists under the same local
    name; and a lookup of the local name, in the file that the table is that of, ends well and
    prints the statement of this answer. It is what was asked for exactly if that renames, or if its
    name is the local name of no other name. -/
theorem lookup_answers_listed :
    (∀ (loads : List (String × Opened)) (b : Binding), b ∈ (Table.ofLoads loads).bindings →
      ∃ answer, (Table.ofLoads loads).AnswersListed b answer) ∧
    ∀ (world : World) (args : List String) (session : Session) (b : Binding) (console : Console),
      let file := session.settings.importsFile
      let t := Table.ofLoads [(file, world.openPath file)]
      world.Starts args session → session.command = .lookup b.localName .text → console.Accepts →
      b ∈ t.bindings →
      ∃ answer console', t.AnswersListed b answer ∧
        runProgram world args console = (.exited .success, console') ∧
        console'.out = console.out ++ (answer.statement ++ "\n") := by
  have hlisted (loads : List (String × Opened)) (b : Binding)
      (hb : b ∈ (Table.ofLoads loads).bindings) :
      ∃ answer, (Table.ofLoads loads).AnswersListed b answer :=
    (Table.wellFormed_ofLoads loads).exists_answersListed hb
  refine ⟨hlisted, ?_⟩
  intro world args session b console file t hstarts hcommand hconsole hb
  obtain ⟨answer, hanswer⟩ := hlisted _ b hb
  obtain ⟨console', hrun, hout⟩ := Session.run_lookup_of_resolve? hcommand hconsole
    hanswer.resolve? world.terminal world.time
  exact ⟨answer, console', hanswer, (runProgram_eq_run hstarts console).trans hrun, hout⟩

/-- Two statements, of which the second gives the name of the first to another name. -/
def shadowedName : Opened :=
  .content "import numpy\nimport os as numpy\n".toUTF8.data.toList

/-- Both are listed under one local name, and a lookup of it prints the second. -/
theorem lookup_answers_listed_shadowedName :
    .plain "" "numpy" ∈ (Table.ofLoads [("imports", shadowedName)]).bindings ∧
    (∃ answer, (Table.ofLoads [("imports", shadowedName)]).AnswersListed (.plain "" "numpy")
      answer) ∧
    ∃ console',
      runProgram (.holding shadowedName) ["lookup", "numpy"] (.fresh fun _ => false) =
        (.exited .success, console') ∧
      console'.out = "import os as numpy\n" := by
  have hlisted : .plain "" "numpy" ∈ (Table.ofLoads [("imports", shadowedName)]).bindings := by
    decide +kernel
  have hanswer : (Table.ofLoads [("imports", shadowedName)]).resolve? "numpy" =
      some ⟨"", "os", "numpy"⟩ := by decide +kernel
  have hpath (path : String) : Table.ofLoads [(path, shadowedName)] =
      Table.ofLoads [("imports", shadowedName)] := by rw [Table.ofLoads_eq, Table.ofLoads_eq]; rfl
  have hstarts : ∃ session, (World.holding shadowedName).Starts ["lookup", "numpy"] session ∧
      session.command = .lookup "numpy" .text := ⟨_, ⟨_, rfl, rfl⟩, rfl⟩
  obtain ⟨session, hstarts, hcommand⟩ := hstarts
  obtain ⟨htable, hlookup⟩ := lookup_answers_listed
  refine ⟨hlisted, htable _ _ hlisted, ?_⟩
  obtain ⟨answer, console', hanswers, hrun, hout⟩ := hlookup (.holding shadowedName) _ session
    (.plain "" "numpy") _ hstarts hcommand Console.accepts_fresh ((hpath _).symm ▸ hlisted)
  refine ⟨console', hrun, hout.trans ?_⟩
  obtain rfl := Option.some.inj (hanswers.resolve?.symm.trans ((hpath _).symm ▸ hanswer))
  decide +kernel

/-- What is listed need not be what is answered for its local name. -/
theorem Table.resolve?_shadowedName :
    .plain "" "numpy" ∈ (ofLoads [("imports", shadowedName)]).bindings ∧
    (ofLoads [("imports", shadowedName)]).resolve? "numpy" ≠ some (.plain "" "numpy") :=
  ⟨by decide +kernel, by decide +kernel⟩

end AutoImport
