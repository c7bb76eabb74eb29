import AutoImport.Cli.Run
import AutoImport.Proofs.Except
import AutoImport.Proofs.Settings.Layers

/-!
# Chosen settings

There are five settings, and each of them is decided alone: by the variable for it, or else by the
settings file, or else by the default (`Setting.chosen?`). What the other settings are set to does
not matter, a value of a wrong type does no harm where another one hides it, and neither do keys
that nobody asks for. So the settings that are loaded are those that follow this choice
(`Settings.Follows`), and they cannot be loaded exactly if a value is chosen that does not have the
type of its setting (`Settings.load_decided_by_choices`).

* The settings are read off one table, in which there is at the end of the path of a setting what
  the two layers have there, laid over each other (`Settings.exists_load_eq`).
* Where tables cannot be read, of two values of which one is laid over the other the later one is
  read (`Tree.readOr_overlay?`).

This is so in a plain environment (`Environment.IsPlain`), in which no two variables are for one
setting, and no variable sets all that concerns Vim at once or something behind a setting, and for a
plain settings file (`FoundFile.isPlain`), in which all that concerns Vim is a table. A list in this
place, for instance, would be read by position, and would hide a table below it.
-/

namespace AutoImport

/-! ## Values -/

namespace Tree

/-- The truth value that a value is, if it is one. -/
def bool? : Tree → Option Bool
  | scalar (.bool b) _ => some b
  | _ => none

/-- The text that a value is, if it is one. -/
def text? : Tree → Option String
  | scalar (.text s) _ => some s
  | _ => none

/-- What a value is read as, if there is one, and else the default. -/
def readOr {α : Type} (read : Tree → Option α) (default : α) : Option Tree → Option α
  | some value => read value
  | none => some default

/-- If tables cannot be read, then of two values of which one is laid over the other the later one
    is read. -/
theorem readOr_overlay? {α : Type} {read : Tree → Option α}
    (htable : ∀ entries source, read (.table entries source) = none) (default : α)
    (later? value? : Option Tree) :
    readOr read default (overlay? later? value?) = readOr read default (later?.or value?) := by
  have hoverlay (later value : Tree) : read (overlay later value) = read later := by
    cases value with
    | table entries source =>
      cases later with
      | table laterEntries laterSource => rw [overlay, htable, htable]
      | scalar | list => rw [overlay]; simp
    | scalar | list => rw [overlay]; simp
  cases later? with
  | none => rw [overlay?_none_left]; rfl
  | some later =>
    cases value? with
    | none => rfl
    | some value => exact hoverlay later value

/-- Something is read exactly if there is nothing that cannot be read. -/
theorem exists_readOr_eq_some_iff {α : Type} {read : Tree → Option α} {default : α}
    {value? : Option Tree} :
    (∃ a, readOr read default value? = some a) ↔ ∀ value ∈ value?, (read value).isSome := by
  cases value? with
  | none => simp [readOr]
  | some value => simp [readOr, Option.isSome_iff_exists]

theorem toBool_eq_ok_iff {keys : List String} {value : Tree} {b : Bool} :
    toBool keys value = .ok b ↔ value.bool? = some b := by
  unfold toBool bool?
  split <;> simp_all

theorem toText_eq_ok_iff {expected : Expectation} {keys : List String} {value : Tree} {s : String} :
    toText expected keys value = .ok s ↔ value.text? = some s := by
  unfold toText text?
  split <;> simp_all

theorem orDefault_eq_ok_iff {α : Type} {f : Tree → Except SettingsFault α} {read : Tree → Option α}
    (h : ∀ value a, f value = .ok a ↔ read value = some a) {default a : α} {value? : Option Tree} :
    orDefault f default value? = .ok a ↔ readOr read default value? = some a := by
  cases value? with
  | none => simp [orDefault, readOr]
  | some value => exact h value a

/-- The variables of the Vim commands are read one by one, unless something other than a table is in
    their place. -/
theorem toVimVariables_eq_ok_iff {default vars : Vim.Variables} {entries : List (String × Tree)}
    (hopen : LeadsOn (entries.lookup "vim")) :
    orDefault (toVimVariables default) default (find? entries "vim") = .ok vars ↔
      readOr text? default.imports (at? entries ["vim", "imports_var"]) = some vars.imports ∧
      readOr text? default.aliases (at? entries ["vim", "aliases_var"]) = some vars.aliases := by
  rw [at?, at?, at?, at?]
  change orDefault _ _ (entries.lookup "vim") = _ ↔ _
  generalize entries.lookup "vim" = vim? at hopen ⊢
  cases hopen with
  | nothing =>
    cases default
    cases vars
    simp [orDefault, readOr, entriesOf]
  | table below source =>
    change toVimVariables default (.table below source) = _ ↔ _
    simp only [toVimVariables, entriesOf, bind_eq_ok_iff,
      orDefault_eq_ok_iff fun _ _ => toText_eq_ok_iff]
    constructor
    · rintro ⟨aliases, haliases, imports, himports, heq⟩
      cases heq
      exact ⟨himports, haliases⟩
    · rintro ⟨himports, haliases⟩
      exact ⟨_, haliases, _, himports, rfl⟩

theorem toSettings_eq_ok_iff {default s : Settings} {entries : List (String × Tree)}
    (hopen : LeadsOn (entries.lookup "vim")) :
    toSettings default entries = .ok s ↔
      readOr bool? default.debug (at? entries ["debug"]) = some s.debug ∧
      readOr text? default.importsFile (at? entries ["imports_file"]) = some s.importsFile ∧
      readOr bool? default.verbose (at? entries ["verbose"]) = some s.verbose ∧
      readOr text? default.vim.imports (at? entries ["vim", "imports_var"]) = some s.vim.imports ∧
      readOr text? default.vim.aliases (at? entries ["vim", "aliases_var"]) =
        some s.vim.aliases := by
  simp only [toSettings, bind_eq_ok_iff, orDefault_eq_ok_iff fun _ _ => toBool_eq_ok_iff,
    orDefault_eq_ok_iff fun _ _ => toText_eq_ok_iff, toVimVariables_eq_ok_iff hopen]
  constructor
  · rintro ⟨debug, hdebug, path, hpath, verbose, hverbose, vim, hvim, heq⟩
    cases heq
    exact ⟨hdebug, hpath, hverbose, hvim⟩
  · rintro ⟨hdebug, hpath, hverbose, hvim⟩
    exact ⟨_, hdebug, _, hpath, _, hverbose, _, hvim, rfl⟩

end Tree

/-! ## Choices -/

/-- What can be set. -/
inductive Setting where
  | importsFile
  | verbose
  | debug
  | importsVariable
  | aliasesVariable
  deriving DecidableEq

namespace Setting

/-- The keys that lead to a setting. -/
def path : Setting → List String
  | importsFile => ["imports_file"]
  | verbose => ["verbose"]
  | debug => ["debug"]
  | importsVariable => ["vim", "imports_var"]
  | aliasesVariable => ["vim", "aliases_var"]

/-- Whether a value has the type of a setting. -/
def accepts : Setting → Tree → Bool
  | verbose, value | debug, value => value.bool?.isSome
  | importsFile, value | importsVariable, value | aliasesVariable, value => value.text?.isSome

end Setting

/-- A variable for settings is one for a setting, and the only one for it, or for something that
    nobody asks for: neither all that concerns Vim, nor something behind a setting. -/
structure Environment.IsPlain (env : Environment) : Prop where
  spares : ∀ v ∈ env.vars, ∀ path ∈ Variable.path? v.1, path ≠ ["vim"] ∧
    ∀ setting : Setting, setting.path <+: path → path = setting.path
  once : ∀ setting : Setting, env.vars.countP (Variable.isFor setting.path) ≤ 1

namespace FoundFile

variable {file : FoundFile}

/-- The document that a settings file is, if it is one. -/
def table? (file : FoundFile) : Option Toml.Table :=
  file.text.toOption.bind Toml.parse?

/-- The value that a settings file has at the end of a path. -/
def valueAt? (file : FoundFile) (path : List String) : Option Tree :=
  file.table?.bind fun table => (Toml.at? table path).map (Tree.ofToml (.file file.path))

/-- Whether a settings file is a document in which what concerns Vim is a table, if it is there. -/
def isPlain (file : FoundFile) : Bool :=
  file.table?.any fun table =>
    match table.lookup "vim" with
    | none | some (.table _) => true
    | _ => false

end FoundFile

/-- What a setting is set to: by a variable, or else by the settings file, if there is one. -/
def Setting.chosen? (env : Environment) (file? : Option FoundFile) (setting : Setting) :
    Option Tree :=
  (env.valueAt? setting.path).or (file?.bind (·.valueAt? setting.path))

/-- Every setting is what it is set to, or else the default, and a leading ~ in the path of the
    imports file stands for the home directory of an environment, if it has one. -/
structure Settings.Follows (env : Environment) (chosen? : Setting → Option Tree) (s : Settings) :
    Prop where
  importsFile : (Tree.readOr Tree.text? (defaultImportsFile env.home?) (chosen? .importsFile)).map
    env.expandHome = some s.importsFile
  verbose : Tree.readOr Tree.bool? false (chosen? .verbose) = some s.verbose
  debug : Tree.readOr Tree.bool? false (chosen? .debug) = some s.debug
  importsVariable :
    Tree.readOr Tree.text? Vim.Variables.default.imports (chosen? .importsVariable) =
      some s.vim.imports
  aliasesVariable :
    Tree.readOr Tree.text? Vim.Variables.default.aliases (chosen? .aliasesVariable) =
      some s.vim.aliases

/-! ## Layers -/

/-- In a plain environment no variable stands in the way of a setting. -/
theorem Environment.IsPlain.spares_path {env : Environment} (h : env.IsPlain) (setting : Setting) :
    ∀ v ∈ env.vars, Variable.Spares setting.path v := by
  intro v hv key keys hpath
  obtain ⟨hvim, hbehind⟩ := h.spares v hv _ hpath
  refine ⟨fun hpre => (hbehind setting hpre).symm, fun hpre => ?_⟩
  -- On the way to the end of such a path there is at most the table that concerns Vim.
  clear hbehind
  cases setting with
  | importsFile | verbose | debug =>
    simp only [Setting.path, List.cons_prefix_cons, List.prefix_nil] at hpre ⊢
    rw [hpre.1, hpre.2]
  | importsVariable | aliasesVariable =>
    simp only [Setting.path, List.cons_prefix_cons] at hpre ⊢
    obtain ⟨rfl, hkeys⟩ := hpre
    cases keys with
    | nil => exact absurd rfl hvim
    | cons key' keys =>
      simp only [List.cons_prefix_cons, List.prefix_nil] at hkeys
      rw [hkeys.1, hkeys.2]

/-- A plain settings file is a layer with the values of its document, in which nothing stands in the
    way of a setting. -/
theorem FoundFile.exists_settingsEntries {file : FoundFile} (h : file.isPlain) :
    ∃ entries, file.settingsEntries = .ok entries ∧ ∀ setting : Setting,
      Tree.at? entries setting.path = file.valueAt? setting.path ∧
        Tree.IsOpen entries setting.path := by
  obtain ⟨table, htable, hvim⟩ := (Option.any_eq_true _ _).1 h
  obtain ⟨text, hoption, hparse⟩ := Option.bind_eq_some_iff.1 htable
  have htext : file.text = .ok text := by
    cases h : file.text with
    | error cause => rw [h] at hoption; cases hoption
    | ok text' => rw [h] at hoption; cases hoption; rfl
  have hleads : Tree.LeadsOn ((Tree.ofTomlEntries (.file file.path) table).lookup "vim") := by
    rw [Tree.lookup_ofTomlEntries]
    split at hvim
    · rename_i hnone
      rw [hnone]
      exact .nothing
    · rename_i below hbelow
      rw [hbelow, Option.map_some, Tree.ofToml]
      exact .table _ _
    · cases hvim
  refine ⟨Tree.ofTomlEntries (.file file.path) table, ?_, fun setting => ⟨?_, ?_⟩⟩
  · rw [settingsEntries, htext]
    simp only [hparse]
  · rw [Tree.at?_ofTomlEntries, valueAt?, htable, Option.bind_some]
  · cases setting with
    | importsFile | verbose | debug => exact trivial
    | importsVariable | aliasesVariable => exact ⟨hleads, trivial⟩

/-- Settings are read off layers that have at the end of the path of each setting what it is set
    to. -/
theorem Settings.exists_load_eq {env : Environment} {file? : Option FoundFile} (henv : env.IsPlain)
    (hfile : ∀ file ∈ file?, file.isPlain) :
    ∃ entries, load env file? =
        (Tree.toSettings (default env.home?) entries >>= fun s => .ok (s.expandHome env)) ∧
      ∀ setting : Setting, Tree.IsOpen entries setting.path ∧
        Tree.at? entries setting.path =
          Tree.overlay? (env.valueAt? setting.path) (file?.bind (·.valueAt? setting.path)) := by
  have hlayer : ∃ fileEntries, file?.elim (.ok []) FoundFile.settingsEntries = .ok fileEntries ∧
      ∀ setting : Setting,
        Tree.at? fileEntries setting.path = file?.bind (·.valueAt? setting.path) ∧
          Tree.IsOpen fileEntries setting.path := by
    cases file? with
    | none => exact ⟨[], rfl, fun setting => Tree.at?_nil setting.path⟩
    | some file => exact FoundFile.exists_settingsEntries (hfile file rfl)
  obtain ⟨fileEntries, hentries, hfileAt⟩ := hlayer
  refine ⟨Tree.overlayEntries env.settingsEntries fileEntries, ?_, fun setting => ?_⟩
  · rw [load, hentries]
    rfl
  · have hpath : setting.path ≠ [] := by cases setting <;> exact List.cons_ne_nil _ _
    obtain ⟨henvAt, henvOpen⟩ := Environment.at?_settingsEntries hpath (henv.spares_path setting)
      (henv.once setting)
    obtain ⟨hfileAt, hfileOpen⟩ := hfileAt setting
    obtain ⟨hat, hopen⟩ := Tree.at?_overlayEntries henvOpen hfileOpen
    exact ⟨hopen, by rw [hat, henvAt, hfileAt]⟩

/-- Whether settings can be loaded, and what they are then, is decided by what each setting is set
    to. -/
theorem Settings.load_eq_ok_iff {env : Environment} {file? : Option FoundFile} (henv : env.IsPlain)
    (hfile : ∀ file ∈ file?, file.isPlain) (s : Settings) :
    load env file? = .ok s ↔ Follows env (Setting.chosen? env file?) s := by
  obtain ⟨entries, hload, hentries⟩ := exists_load_eq henv hfile
  -- The path of this setting goes through what concerns Vim.
  have hleads : Tree.LeadsOn (entries.lookup "vim") := (hentries .importsVariable).1.1
  have hread {α : Type} {read : Tree → Option α}
      (htable : ∀ entries source, read (.table entries source) = none) (default : α)
      (setting : Setting) : Tree.readOr read default (Tree.at? entries setting.path) =
        Tree.readOr read default (Setting.chosen? env file? setting) := by
    rw [(hentries setting).2, Tree.readOr_overlay? htable, Setting.chosen?]
  have hbool := @hread Bool Tree.bool? fun _ _ => rfl
  have htext := @hread String Tree.text? fun _ _ => rfl
  rw [hload, bind_eq_ok_iff]
  constructor
  · rintro ⟨read, hsettings, heq⟩
    cases heq
    obtain ⟨hdebug, hpath, hverbose, himports, haliases⟩ :=
      (Tree.toSettings_eq_ok_iff hleads).1 hsettings
    exact {
      importsFile := Option.map_eq_some_iff.2 ⟨_, (htext _ .importsFile).symm.trans hpath, rfl⟩
      verbose := (hbool _ .verbose).symm.trans hverbose
      debug := (hbool _ .debug).symm.trans hdebug
      importsVariable := (htext _ .importsVariable).symm.trans himports
      aliasesVariable := (htext _ .aliasesVariable).symm.trans haliases }
  · intro h
    obtain ⟨path, hpath, hexpand⟩ := Option.map_eq_some_iff.1 h.importsFile
    refine ⟨{ s with importsFile := path }, (Tree.toSettings_eq_ok_iff hleads).2
      ⟨?_, ?_, ?_, ?_, ?_⟩, ?_⟩
    · exact (hbool _ .debug).trans h.debug
    · exact (htext _ .importsFile).trans hpath
    · exact (hbool _ .verbose).trans h.verbose
    · exact (htext _ .importsVariable).trans h.importsVariable
    · exact (htext _ .aliasesVariable).trans h.aliasesVariable
    · rw [expandHome, hexpand]

/-- There are settings that follow a choice exactly if each setting that is set is set to a value of
    its type. -/
theorem Settings.exists_follows_iff {env : Environment} {chosen? : Setting → Option Tree} :
    (∃ s, Follows env chosen? s) ↔
      ∀ setting, ∀ value ∈ chosen? setting, setting.accepts value := by
  constructor
  · rintro ⟨s, h⟩ setting
    cases setting with
    | importsFile =>
      obtain ⟨path, hpath, -⟩ := Option.map_eq_some_iff.1 h.importsFile
      exact Tree.exists_readOr_eq_some_iff.1 ⟨path, hpath⟩
    | verbose => exact Tree.exists_readOr_eq_some_iff.1 ⟨_, h.verbose⟩
    | debug => exact Tree.exists_readOr_eq_some_iff.1 ⟨_, h.debug⟩
    | importsVariable => exact Tree.exists_readOr_eq_some_iff.1 ⟨_, h.importsVariable⟩
    | aliasesVariable => exact Tree.exists_readOr_eq_some_iff.1 ⟨_, h.aliasesVariable⟩
  · intro h
    obtain ⟨path, hpath⟩ := Tree.exists_readOr_eq_some_iff.2 (h .importsFile)
    obtain ⟨verbose, hverbose⟩ := Tree.exists_readOr_eq_some_iff.2 (h .verbose)
    obtain ⟨debug, hdebug⟩ := Tree.exists_readOr_eq_some_iff.2 (h .debug)
    obtain ⟨imports, himports⟩ := Tree.exists_readOr_eq_some_iff.2 (h .importsVariable)
    obtain ⟨aliases, haliases⟩ := Tree.exists_readOr_eq_some_iff.2 (h .aliasesVariable)
    exact ⟨⟨env.expandHome path, verbose, debug, ⟨imports, aliases⟩⟩,
      ⟨Option.map_eq_some_iff.2 ⟨path, hpath, rfl⟩, hverbose, hdebug, himports, haliases⟩⟩

/-- With a plain environment and a plain settings file, every setting is what it is set to alone,
    and no settings are loaded exactly if the value of one does not have its type. A command line
    that names the imports file then changes this setting, and no more than how much is said. -/
theorem Settings.load_decided_by_choices {env : Environment} {file? : Option FoundFile}
    (henv : env.IsPlain) (hfile : ∀ file ∈ file?, file.isPlain) :
    (∀ s, load env file? = .ok s ↔ Follows env (Setting.chosen? env file?) s) ∧
    ((∃ fault, load env file? = .error fault) ↔
      ∃ setting : Setting, ∃ value ∈ setting.chosen? env file?, ¬ setting.accepts value) ∧
    ∀ (inv : Invocation) (path : String) (s : Settings), inv.file? = some path →
      load env file? = .ok s →
      ∃ session, Session.start inv env file? = .ok session ∧
        session.settings =
          { s with importsFile := env.expandHome path
                   verbose := s.verbose || inv.verbose } := by
  have hload := load_eq_ok_iff henv hfile
  refine ⟨hload, ?_, ?_⟩
  · have hfails : (∃ fault, load env file? = .error fault) ↔ ¬ ∃ s, load env file? = .ok s := by
      cases load env file? <;> simp
    simp only [hfails, hload, exists_follows_iff, Classical.not_forall, exists_prop]
  · intro inv path s hinv hs
    rw [Session.start, hs]
    refine ⟨_, rfl, ?_⟩
    rw [Invocation.override, hinv]
    rfl

/-- Variables for settings, with a short path of the imports file, and for something unknown. The
    variable for the home directory is empty, so that the user database has to know it. -/
def Environment.mixed (userHome? : Option String) : Environment where
  vars :=
    [("PYIMPORTS_IMPORTS_FILE", "~/imports.cfg"), ("PYIMPORTS_VIM__IMPORTS_VAR", "s:imports"),
      ("pyimports_verbose", "true"), ("HOME", ""), ("PYIMPORTS_COLORS__NAME", "red")]
  userHome? := userHome?

/-- A settings file with values of wrong types, and with an unknown key. -/
def FoundFile.mixed : FoundFile where
  path := "settings.toml"
  content := .ok ("verbose = 3\nstyle = 1\n[vim]\nimports_var = 1\naliases_var = 's:aliases'\n"
    ).toUTF8.data.toList

/-- The variables hide what is wrong in the file, and the short path is expanded if there is a home
    directory. Without the variables the file cannot be loaded. -/
theorem Settings.load_decided_by_choices_mixed :
    load (.mixed (some "/home/me")) (some .mixed) =
      .ok ⟨"/home/me/imports.cfg", true, false, ⟨"s:imports", "s:aliases"⟩⟩ ∧
    load (.mixed none) (some .mixed) =
      .ok ⟨"~/imports.cfg", true, false, ⟨"s:imports", "s:aliases"⟩⟩ ∧
    ∃ fault, load ⟨[], none⟩ (some .mixed) = .error fault := by
  have hfile : ∀ file ∈ some FoundFile.mixed, file.isPlain := by
    rintro _ ⟨⟩
    decide +kernel
  have hpaths : (Environment.mixed none).vars.map (Variable.path? ·.1) =
      [some ["imports_file"], some ["vim", "imports_var"], some ["verbose"], none,
        some ["colors", "name"]] := by decide +kernel
  have hnone : (Environment.mixed none).IsPlain := {
    spares := by
      intro v hv path hpath
      have hmem := List.mem_map_of_mem (f := (Variable.path? ·.1)) hv
      rw [hpaths, show Variable.path? v.1 = some path from hpath] at hmem
      simp only [List.mem_cons, Option.some.injEq, List.not_mem_nil, reduceCtorEq, false_or,
        or_false] at hmem
      obtain rfl | rfl | rfl | rfl := hmem <;>
        exact ⟨by decide, fun setting => by cases setting <;> decide⟩
    once := by
      intro setting
      cases setting <;> decide +kernel }
  have henv (userHome? : Option String) : (Environment.mixed userHome?).IsPlain :=
    ⟨hnone.spares, hnone.once⟩
  have hempty : Environment.IsPlain ⟨[], none⟩ := ⟨by simp, fun _ => Nat.zero_le _⟩
  have hwrong : (Setting.verbose.chosen? ⟨[], none⟩ (some .mixed)).any
      (!Setting.verbose.accepts ·) := by
    decide +kernel
  obtain ⟨value, hvalue, haccepts⟩ := (Option.any_eq_true _ _).1 hwrong
  have hfollows : Follows (.mixed none) (Setting.chosen? (.mixed none) (some .mixed))
      ⟨"~/imports.cfg", true, false, ⟨"s:imports", "s:aliases"⟩⟩ := by
    constructor <;> decide +kernel
  exact ⟨((load_decided_by_choices (henv _) hfile).1 _).2
      { hfollows with importsFile := by decide +kernel },
    ((load_decided_by_choices hnone hfile).1 _).2 hfollows,
    (load_decided_by_choices hempty hfile).2.1.2 ⟨.verbose, value, hvalue, by simpa using haccepts⟩⟩

end AutoImport
