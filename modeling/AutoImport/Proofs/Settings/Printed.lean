import AutoImport.Proofs.Cli.ExplicitFile
import AutoImport.Proofs.Path
import AutoImport.Proofs.Settings.Layers
import AutoImport.Proofs.Text.Encoding
import AutoImport.Proofs.Toml.Document

/-!
# Settings that read back

What the program prints of its settings, below two lines for people, is a settings file, and the
same settings are loaded from it (`printed_settings_read_back`). Texts may have any characters, line
breaks and quotes among them, and none of them can end a value early, or pass for another key.

* What is printed are lines (`Settings.toToml_eq_lines`), and what these say comes to a table with
  all settings in it (`Settings.parse?_toToml`). So no default is left, whatever the defaults are
  (`Settings.toSettings_toTable`).
* Two things could still change the settings. Variables for settings are laid over the file; here
  there are none (`Environment.settingsEntries_eq_nil`). And a leading `~` in the path of the
  imports file is replaced; here there is none (`Settings.load_toToml`).
-/

namespace AutoImport

namespace Settings

open Toml

/-! ## Documents -/

/-- The lines that are printed of some settings. The last one ends the printing. -/
def lines (s : Settings) : List Line :=
  [.text "imports_file" s.importsFile, .word "verbose" s.verbose, .word "debug" s.debug, .empty,
    .header "vim", .text "imports_var" s.vim.imports, .text "aliases_var" s.vim.aliases, .empty]

theorem toToml_eq_lines (s : Settings) :
    s.toToml ++ "\n" = .ofList (s.lines.flatMap Line.write) := by
  rw [← String.toList_inj, String.toList_ofList]
  simp [toToml, textLine, boolLine, lines, Line.write, writeBool]

/-- The table of all settings. -/
def toTable (s : Settings) : Toml.Table :=
  [("imports_file", .text s.importsFile), ("verbose", .bool s.verbose), ("debug", .bool s.debug),
    ("vim", .table [("imports_var", .text s.vim.imports), ("aliases_var", .text s.vim.aliases)])]

/-- What is printed of some settings is read as their table. -/
theorem parse?_toToml (s : Settings) : parse? (s.toToml ++ "\n") = some s.toTable := by
  have hkeys : s.lines.flatMap Line.keys =
      ["imports_file", "verbose", "debug", "vim", "imports_var", "aliases_var"] := rfl
  have hbare : ∀ key ∈ s.lines.flatMap Line.keys, IsBareKey key.toList := by
    rw [hkeys]
    decide
  -- No statement is about a key or a table that an earlier one has settled.
  have hbuild : Document.build? (s.lines.filterMap Line.statement?) = some s.toTable := rfl
  rw [toToml_eq_lines, parse?_lines hbare, hbuild]

/-! ## Loading -/

/-- The settings are read from their table, whatever the defaults are. -/
theorem toSettings_toTable (s default : Settings) (source : SettingsSource) :
    Tree.toSettings default (Tree.ofTomlEntries source s.toTable) = .ok s := by
  rfl

end Settings

/-- An environment without variables for settings lays nothing over the other layers. -/
theorem Environment.settingsEntries_eq_nil {env : Environment}
    (h : ∀ v ∈ env.vars, Variable.isSetting v.1 = false) : env.settingsEntries = [] := by
  have hentries (v : String × String) (hv : v ∈ env.vars) : Variable.entries v = [] := by
    have hname : ((Text.trim v.1.toList).take Variable.namePrefix.length).map Char.toUpper ≠
        Variable.namePrefix.toList := by
      simpa [Variable.isSetting] using h v hv
    have hpath : Variable.path? v.1 = none := if_neg hname
    rw [Variable.entries, hpath]
  rw [Environment.settingsEntries]
  generalize env.vars = vars at hentries
  induction vars with
  | nil => rfl
  | cons v vars ih =>
    obtain ⟨hv, hrest⟩ := List.forall_mem_cons.1 hentries
    rw [List.foldl_cons, hv]
    exact ih hrest

/-- A path that starts with no `~` stays as it is, whether or not there is a home directory. -/
theorem Environment.expandHome_eq_self {env : Environment} {path : String}
    (h : (Path.components path).head? ≠ some Path.tilde) : env.expandHome path = path := by
  rw [expandHome]
  split
  · exact Path.expandHome_eq_self h
  · rfl

/-- A file with the document of some settings is read as their table. -/
theorem FoundFile.settingsEntries_toToml (path : String) (s : Settings) :
    settingsEntries ⟨path, .ok (s.toToml ++ "\n").toUTF8.data.toList⟩ =
      .ok (Tree.ofTomlEntries (.file path) s.toTable) := by
  have htext : text ⟨path, .ok (s.toToml ++ "\n").toUTF8.data.toList⟩ = .ok (s.toToml ++ "\n") := by
    rw [text, bind_eq_ok_iff]
    refine ⟨_, rfl, ?_⟩
    rw [Text.toList_data_toUTF8, Text.fromUTF8?_encode, String.ofList_toList]
    rfl
  rw [settingsEntries, htext]
  dsimp only
  rw [s.parse?_toToml]

/-- Where no variables are laid over them, settings are loaded from their document. -/
theorem Settings.load_toToml {env : Environment}
    (henv : ∀ v ∈ env.vars, Variable.isSetting v.1 = false)
    (path : String) {s : Settings} (h : (Path.components s.importsFile).head? ≠ some Path.tilde) :
    load env (some ⟨path, .ok (s.toToml ++ "\n").toUTF8.data.toList⟩) = .ok s := by
  rw [load, Option.elim_some, FoundFile.settingsEntries_toToml, bind_eq_ok_iff]
  refine ⟨_, rfl, ?_⟩
  dsimp only
  rw [Environment.settingsEntries_eq_nil henv, Tree.overlayEntries_nil, bind_eq_ok_iff]
  refine ⟨s, s.toSettings_toTable _ _, ?_⟩
  rw [expandHome, Environment.expandHome_eq_self h]

/-! ## Printing -/

/-- What is printed of the settings: two lines, and then the document. -/
theorem Command.writes_config (terminal : Terminal) (settings : Settings) (load : Load) :
    Writing.Writes (["Current Configuration:\n", .ofList (.replicate 50 '=') ++ "\n",
      settings.toToml ++ "\n"].map (Piece.mk .out)) .success
      (config.run terminal settings load) :=
  (Writing.writes_writeLine .out "Current Configuration:").bind
    ((Writing.writes_writeLine .out (.ofList (.replicate 50 '='))).bind
      ((Writing.writes_writeLine .out settings.toToml).bind (.pure ExitStatus.success)))

/-- Whatever the settings are, unless the path of the imports file starts at the home directory:
    what is printed of them below the two lines of the heading is a settings file, and where no
    variable is one for settings, the same settings are loaded from it. -/
theorem printed_settings_read_back {s : Settings}
    (h : (Path.components s.importsFile).head? ≠ some Path.tilde) :
    ∃ text,
      (∀ (world : World) (args : List String) (session : Session) (console : Console),
        world.Starts args session → session.command = .config → session.settings = s →
        console.Accepts →
        ∃ console', runProgram world args console = (.exited .success, console') ∧
          console'.out = console.out ++ ("Current Configuration:\n" ++
            (.ofList (.replicate 50 '=') ++ "\n") ++ text)) ∧
      ∀ (env : Environment) (path : String),
        (∀ v ∈ env.vars, Variable.isSetting v.1 = false) →
        Settings.load env (some ⟨path, .ok text.toUTF8.data.toList⟩) = .ok s := by
  refine ⟨s.toToml ++ "\n", ?_, fun env path henv => Settings.load_toToml henv path h⟩
  rintro world args session console hstarts hcommand rfl hconsole
  have hwrites := Command.writes_config world.terminal session.settings
    (.ofOpened session.settings.importsFile (world.openPath session.settings.importsFile))
  rw [← hcommand] at hwrites
  obtain ⟨console', hrun, hout⟩ := World.exists_runProgram_of_writes hstarts hconsole hwrites
  refine ⟨console', hrun, hout.trans ?_⟩
  simp only [Piece.textOn_map_mk, String.join_cons, String.join_nil, String.append_empty,
    String.append_assoc]

/-- Settings with quotes and backslashes, line breaks and control characters, and with what looks
    like the end of a text. -/
def Settings.awkward : Settings :=
  ⟨"imports/\"a\"\n\x27\x27\x27b\\", true, false,
    ⟨"\"\"\"\"\n\r\x01\x27", "a\"\n[vim]\ndebug = true\n"⟩⟩

/-- A world without variables, in which every settings file has one content. -/
def World.withSettings (text : String) : World :=
  { World.holding (.content []) with
    search? := fun path => some ⟨path, .ok text.toUTF8.data.toList⟩ }

/-- What is printed of such settings is loaded, and printed again as it is. -/
theorem printed_settings_read_back_awkward :
    (Path.components Settings.awkward.importsFile).head? ≠ some Path.tilde ∧
    ∃ text, Settings.load ⟨[], none⟩ (some ⟨"settings.toml", .ok text.toUTF8.data.toList⟩) =
        .ok .awkward ∧
      ∃ console, runProgram (.withSettings text) ["config"] (.fresh fun _ => false) =
          (.exited .success, console) ∧
        console.out =
          "Current Configuration:\n" ++ (.ofList (.replicate 50 '=') ++ "\n") ++ text := by
  have hpath : (Path.components Settings.awkward.importsFile).head? ≠ some Path.tilde := by decide
  obtain ⟨text, hprints, hloads⟩ := printed_settings_read_back hpath
  let inv : Invocation := ⟨none, none, false, .config⟩
  let world := World.withSettings text
  have hstart : Session.start inv world.env (world.settingsFile? inv) =
      .ok ⟨.config, .awkward, world.env.logFilter false, []⟩ := by
    have hload : Settings.load world.env (world.settingsFile? inv) = .ok .awkward :=
      hloads world.env _ fun _ hv => by cases hv
    rw [Session.start, hload]
    rfl
  obtain ⟨console, hrun, hout⟩ := hprints world ["config"] _ _ ⟨inv, rfl, hstart⟩
    rfl rfl Console.accepts_fresh
  exact ⟨hpath, text, hloads ⟨[], none⟩ "settings.toml" (by simp), console, hrun,
    hout.trans String.empty_append⟩

end AutoImport
