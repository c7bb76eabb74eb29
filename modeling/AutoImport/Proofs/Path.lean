import AutoImport.Proofs.Except
import AutoImport.Proofs.Text.Separated
import AutoImport.Settings.Load
import Mathlib.Data.List.DropRight

/-!
# Paths under the home directory

A path whose first component is `~` is expanded to a path under the home directory: its components
are those of the home directory, and then those behind the `~`. Any other path stays as it is, to
the last slash. And as the first component of an expanded path is that of the home directory, to
expand it once more changes nothing, unless that is a `~` as well (`expandHome_lies_under_home`).

* What is put under a directory, and is not absolute, adds its pieces to those of the directory
  (`components_join`).
* The pieces behind the `~` that are left out carry no information
  (`componentsOfPieces_trimPieces`), and with them the slashes go that would make the rest absolute
  (`isAbsolute_trimPieces`).

No character is looked at but to see whether it is a slash, a dot or a tilde. So a path that is no
text, but any bytes, is covered as well, with a character below 256 for each byte.
-/

namespace AutoImport.Path

variable {directory path : String} {ps : List (List Char)} {rest : List Component}

/-! ## Pieces -/

theorem pieces_append_slash (cs ds : List Char) :
    pieces (cs ++ '/' :: ds) = pieces cs ++ pieces ds :=
  List.splitOn_append_cons_self cs ds

theorem slash_not_mem_of_pieces {cs first : List Char} (h : pieces cs = first :: ps) :
    ∀ piece ∈ ps, '/' ∉ piece := by
  intro piece hpiece
  have hmem : piece ∈ pieces cs := h ▸ List.mem_cons_of_mem _ hpiece
  exact not_mem_of_mem_splitOn hmem

theorem componentsOfPieces_append (ps ps' : List (List Char)) :
    componentsOfPieces (ps ++ ps') = componentsOfPieces ps ++ componentsOfPieces ps' := by
  simp [componentsOfPieces]

/-- A piece that carries no information stands for no component. -/
theorem componentsOfPieces_cons_of_isVoid {piece : List Char} (h : isVoid piece)
    (ps : List (List Char)) : componentsOfPieces (piece :: ps) = componentsOfPieces ps := by
  simp [componentsOfPieces, h]

/-- Any other piece stands for one. -/
theorem componentsOfPieces_cons {piece : List Char} (h : isVoid piece = false)
    (ps : List (List Char)) :
    componentsOfPieces (piece :: ps) = .ofPiece piece :: componentsOfPieces ps := by
  simp [componentsOfPieces, h]

theorem componentsOfPieces_dropWhile (ps : List (List Char)) :
    componentsOfPieces (ps.dropWhile isVoid) = componentsOfPieces ps := by
  induction ps with
  | nil => rfl
  | cons piece ps ih =>
    by_cases h : isVoid piece
    · rw [List.dropWhile_cons_of_pos h, ih, componentsOfPieces_cons_of_isVoid h]
    · rw [List.dropWhile_cons_of_neg h]

theorem componentsOfPieces_reverse (ps : List (List Char)) :
    componentsOfPieces ps.reverse = (componentsOfPieces ps).reverse := by
  simp [componentsOfPieces]

/-- What is trimmed carries no information. -/
theorem componentsOfPieces_trimPieces (ps : List (List Char)) :
    componentsOfPieces (trimPieces ps) = componentsOfPieces ps := by
  rw [trimPieces, componentsOfPieces_reverse, componentsOfPieces_dropWhile,
    componentsOfPieces_reverse, List.reverse_reverse, componentsOfPieces_dropWhile]

/-- What is left of pieces starts with one that carries information. -/
theorem isVoid_of_mem_head?_trimPieces {piece : List Char} (h : piece ∈ (trimPieces ps).head?) :
    isVoid piece = false := by
  obtain ⟨behind, hbehind⟩ := List.rdropWhile_prefix isVoid (ps.dropWhile isVoid)
  have htrim : trimPieces ps ++ behind = ps.dropWhile isVoid := hbehind
  have hhead := List.head?_dropWhile_not isVoid ps
  rw [← htrim, List.head?_append, Option.mem_def.1 h] at hhead
  exact hhead

theorem mem_of_mem_trimPieces {piece : List Char} (h : piece ∈ trimPieces ps) : piece ∈ ps :=
  (List.dropWhile_sublist _).subset
    ((List.rdropWhile_prefix isVoid (ps.dropWhile isVoid)).sublist.subset h)

/-- What is left of the pieces of a path is no absolute path. -/
theorem isAbsolute_trimPieces (h : ∀ piece ∈ ps, '/' ∉ piece) :
    isAbsolute (.ofList (['/'].intercalate (trimPieces ps))) = false := by
  rw [isAbsolute, String.toList_ofList, beq_eq_false_iff_ne]
  cases htrim : trimPieces ps with
  | nil => simp
  | cons piece ps' =>
    have hvoid : isVoid piece = false := isVoid_of_mem_head?_trimPieces (by rw [htrim]; rfl)
    have hslash : '/' ∉ piece := h piece (mem_of_mem_trimPieces (by rw [htrim]; simp))
    cases piece with
    | nil => cases hvoid
    | cons c piece =>
      -- The first character is that of a piece.
      have hc : c ≠ '/' := fun hc => hslash (hc ▸ List.mem_cons_self)
      cases ps' <;> simp [hc]

/-- The pieces of what is left are those that are left. -/
theorem componentsOfPieces_intercalate (h : ∀ piece ∈ ps, '/' ∉ piece) :
    componentsOfPieces (pieces (['/'].intercalate ps)) = componentsOfPieces ps := by
  by_cases hne : ps = []
  · rw [hne]
    rfl
  · rw [pieces, List.splitOn_intercalate '/' h hne]

/-! ## Components -/

/-- The first piece of a relative path is not empty. -/
theorem exists_pieces_eq_cons {c : Char} (hc : c ≠ '/') (cs : List Char) :
    ∃ piece ps, pieces (c :: cs) = (c :: piece) :: ps := by
  obtain ⟨piece, ps, hps⟩ := List.exists_cons_of_ne_nil (List.splitOn_ne_nil '/' cs)
  refine ⟨piece, ps, ?_⟩
  rw [pieces, List.splitOn_cons_eq_if_modifyHead, hps]
  simp [hc]

/-- The first component of a relative path, by its first piece. -/
def Component.ofFirstPiece (piece : List Char) : Component :=
  if piece = ['.'] then .current else .ofPiece piece

/-- The components of an absolute path. -/
theorem components_of_absolute {cs : List Char} (hpath : path.toList = '/' :: cs) :
    components path = .root :: componentsOfPieces (pieces cs) := by
  rw [components, hpath]
  rfl

/-- The components of a relative path. -/
theorem components_of_relative {c : Char} {cs piece : List Char} (hc : c ≠ '/')
    (hpath : path.toList = c :: cs) (hpieces : pieces (c :: cs) = (c :: piece) :: ps) :
    components path = .ofFirstPiece (c :: piece) :: componentsOfPieces ps := by
  rw [components, hpath]
  split
  · rename_i hnil
    cases hnil
  · rename_i hslash
    exact absurd (List.cons.inj hslash).1 hc
  · rw [hpieces]
    split
    · rename_i hdot
      obtain ⟨hpiece, rfl⟩ := List.cons.inj hdot
      rw [hpiece]
      rfl
    · rename_i hdot
      have hpiece : c :: piece ≠ ['.'] := fun heq => hdot ps (by rw [heq])
      rw [Component.ofFirstPiece, if_neg hpiece, componentsOfPieces_cons]
      simpa [isVoid] using hpiece

/-- A path starts with a component, unless it is empty. -/
theorem components_ne_nil (h : path ≠ "") : components path ≠ [] := by
  cases hpath : path.toList with
  | nil => exact absurd (String.toList_eq_nil_iff.1 hpath) h
  | cons c cs =>
    by_cases hc : c = '/'
    · rw [components_of_absolute (hc ▸ hpath)]
      exact List.cons_ne_nil _ _
    · obtain ⟨piece, ps, hpieces⟩ := exists_pieces_eq_cons hc cs
      rw [components_of_relative hc hpath hpieces]
      exact List.cons_ne_nil _ _

/-- What stands behind a slash adds its pieces to the components of the directory before it. -/
theorem components_append_slash (h : directory ≠ "") (below : String) :
    components (directory ++ "/" ++ below) =
      components directory ++ componentsOfPieces (pieces below.toList) := by
  have htext : (directory ++ "/" ++ below).toList = directory.toList ++ '/' :: below.toList := by
    simp
  cases hdirectory : directory.toList with
  | nil => exact absurd (String.toList_eq_nil_iff.1 hdirectory) h
  | cons c cs =>
    rw [hdirectory, List.cons_append] at htext
    by_cases hc : c = '/'
    · subst hc
      rw [components_of_absolute htext, components_of_absolute hdirectory, pieces_append_slash,
        componentsOfPieces_append]
      rfl
    · obtain ⟨piece, ps, hpieces⟩ := exists_pieces_eq_cons hc cs
      have hall : pieces (c :: (cs ++ '/' :: below.toList)) =
          (c :: piece) :: (ps ++ pieces below.toList) := by
        rw [← List.cons_append, pieces_append_slash, hpieces]
        rfl
      rw [components_of_relative hc htext hall, components_of_relative hc hdirectory hpieces,
        componentsOfPieces_append]
      rfl

/-- What is put under a directory adds its pieces to the components of the directory. -/
theorem components_join (hne : directory ≠ "") (hrelative : isAbsolute path = false) :
    components (join directory path) =
      components directory ++ componentsOfPieces (pieces path.toList) := by
  rw [join, hrelative, if_neg Bool.false_ne_true]
  by_cases hlast : directory.toList.getLast? = some '/'
  · -- The slash is already there.
    rw [if_pos (by simp [hlast])]
    obtain ⟨above, habove⟩ : ∃ above, directory = above ++ "/" := by
      obtain ⟨cs, hcs⟩ := List.getLast?_eq_some_iff.1 hlast
      exact ⟨.ofList cs, String.toList_inj.1 (by simp [hcs])⟩
    subst habove
    by_cases habove : above = ""
    · subst habove
      have hslash : ("" ++ "/" ++ path).toList = '/' :: path.toList := by simp
      rw [components_of_absolute hslash]
      rfl
    · have hdirectory := components_append_slash habove ""
      have hnothing : componentsOfPieces (pieces "".toList) = [] := rfl
      rw [hnothing, List.append_nil, String.append_empty] at hdirectory
      rw [components_append_slash habove, hdirectory]
  · rw [if_neg (by simp [hlast, hne]), components_append_slash hne]

/-- What is put under a directory has the text of the directory before it, and a slash between. -/
theorem exists_join_eq_append (hne : directory ≠ "") (hrelative : isAbsolute path = false) :
    ∃ below, join directory path = directory ++ below ∧
      (directory.toList.getLast? = some '/' ∨ below.toList.head? = some '/') := by
  rw [join, hrelative, if_neg Bool.false_ne_true]
  by_cases hlast : directory.toList.getLast? = some '/'
  · exact ⟨path, by rw [if_pos (by simp [hlast])], .inl hlast⟩
  · refine ⟨"/" ++ path, ?_, .inr (by simp)⟩
    rw [if_neg (by simp [hlast, hne]), String.append_assoc]

/-! ## The home directory -/

/-- The component that stands for the home directory. -/
def tilde : Component :=
  .normal ['~']

/-- The first component of a path is a `~` exactly if the first piece is. -/
theorem components_eq_tilde_cons_iff : components path = tilde :: rest ↔
    ∃ ps, pieces path.toList = ['~'] :: ps ∧ rest = componentsOfPieces ps := by
  cases hpath : path.toList with
  | nil =>
    have hnil : components path = [] := by rw [components, hpath]
    simp [hnil, pieces]
  | cons c cs =>
    by_cases hc : c = '/'
    · subst hc
      have hfirst : pieces ('/' :: cs) = [] :: pieces cs := pieces_append_slash [] cs
      simp [components_of_absolute hpath, hfirst, tilde]
    · obtain ⟨piece, ps, hpieces⟩ := exists_pieces_eq_cons hc cs
      have htilde : Component.ofFirstPiece (c :: piece) = tilde ↔ c :: piece = ['~'] := by
        rw [Component.ofFirstPiece, Component.ofPiece, tilde]
        split_ifs with hdot hdots
        · simp [hdot]
        · simp [hdots]
        · simp
      rw [components_of_relative hc hpath hpieces, hpieces, List.cons_eq_cons, htilde]
      constructor
      · rintro ⟨hpiece, rfl⟩
        exact ⟨ps, by rw [hpiece], rfl⟩
      · rintro ⟨ps', hps, rfl⟩
        obtain ⟨hpiece, rfl⟩ := List.cons.inj hps
        exact ⟨hpiece, rfl⟩

variable {home : String}

/-- A path that starts with a `~` is expanded to what is behind it, under the home directory. -/
theorem expandHome_of_pieces (home : String) (h : pieces path.toList = ['~'] :: ps) :
    expandHome home path = join home (.ofList (['/'].intercalate (trimPieces ps))) ∧
      isAbsolute (.ofList (['/'].intercalate (trimPieces ps))) = false := by
  refine ⟨?_, isAbsolute_trimPieces (slash_not_mem_of_pieces h)⟩
  rw [expandHome, h]
  rfl

/-- The components of an expanded path. -/
theorem components_expandHome (hhome : home ≠ "") (h : components path = tilde :: rest) :
    components (expandHome home path) = components home ++ rest := by
  obtain ⟨ps, hpieces, rfl⟩ := components_eq_tilde_cons_iff.1 h
  have hslash := slash_not_mem_of_pieces hpieces
  obtain ⟨hexpand, hrelative⟩ := expandHome_of_pieces home hpieces
  rw [hexpand, components_join hhome hrelative, String.toList_ofList,
    componentsOfPieces_intercalate fun piece hpiece => hslash piece (mem_of_mem_trimPieces hpiece),
    componentsOfPieces_trimPieces]

/-- A path that starts with no `~` stays as it is. -/
theorem expandHome_eq_self (h : (components path).head? ≠ some tilde) :
    expandHome home path = path := by
  rw [expandHome]
  split
  · rename_i ps hpieces
    exact absurd (congrArg List.head? (components_eq_tilde_cons_iff.2 ⟨ps, hpieces, rfl⟩)) h
  · rfl

/-- Unless the home directory starts with a `~`, no expanded path does. -/
theorem head?_components_expandHome (hhome : home ≠ "")
    (h : (components home).head? ≠ some tilde) (path : String) :
    (components (expandHome home path)).head? ≠ some tilde := by
  by_cases hpath : (components path).head? = some tilde
  · obtain ⟨rest, hrest⟩ := List.head?_eq_some_iff.1 hpath
    rw [components_expandHome hhome hrest, List.head?_append_of_ne_nil _ (components_ne_nil hhome)]
    exact h
  · rw [expandHome_eq_self hpath]
    exact hpath

/-- The settings that are loaded have an expanded path, if there is a home directory. -/
theorem exists_importsFile_eq_expandHome {env : Environment} (hhome : env.home? = some home)
    {file? : Option FoundFile} {s : Settings} (h : Settings.load env file? = .ok s) :
    ∃ path, s.importsFile = expandHome home path := by
  obtain ⟨entries, -, h⟩ := exists_of_bind_eq_ok h
  obtain ⟨read, -, h⟩ := exists_of_bind_eq_ok h
  cases h
  refine ⟨read.importsFile, ?_⟩
  rw [Settings.expandHome, Environment.expandHome, hhome]

/-- If the first component of a path is a `~`, then the path is expanded to one with the components
    of the home directory and those behind the `~`, which has the text of the home directory before
    it; and any other path stays as it is. Unless the first component of the home directory is a `~`
    itself, what has been expanded stays as it is from then on, as does the path in the settings
    that are loaded. -/
theorem expandHome_lies_under_home (hhome : home ≠ "") :
    (∀ path rest, components path = .normal ['~'] :: rest →
      components (expandHome home path) = components home ++ rest ∧
      ∃ below, expandHome home path = home ++ below ∧
        (home.toList.getLast? = some '/' ∨ below.toList.head? = some '/')) ∧
    (∀ path, (components path).head? ≠ some (.normal ['~']) → expandHome home path = path) ∧
    ((components home).head? ≠ some (.normal ['~']) →
      (∀ path, expandHome home (expandHome home path) = expandHome home path) ∧
      ∀ (env : Environment) (file? : Option FoundFile) (s : Settings), env.home? = some home →
        Settings.load env file? = .ok s → expandHome home s.importsFile = s.importsFile) := by
  refine ⟨fun path rest h => ⟨components_expandHome hhome h, ?_⟩,
    fun path h => expandHome_eq_self h, fun h => ?_⟩
  · obtain ⟨ps, hpieces, -⟩ := components_eq_tilde_cons_iff.1 h
    obtain ⟨hexpand, hrelative⟩ := expandHome_of_pieces home hpieces
    exact hexpand ▸ exists_join_eq_append hhome hrelative
  · have hexpanded (path : String) :
        expandHome home (expandHome home path) = expandHome home path :=
      expandHome_eq_self (head?_components_expandHome hhome h path)
    refine ⟨hexpanded, ?_⟩
    intro env file? s henv hs
    obtain ⟨path, hpath⟩ := exists_importsFile_eq_expandHome henv hs
    rw [hpath, hexpanded]

/-- Slashes and dots behind the tilde, and a home directory that ends with a slash. -/
theorem expandHome_lies_under_home_slashes :
    components (expandHome "/home/me/" "~//./a/../b/") =
      [.root, .normal "home".toList, .normal "me".toList, .normal "a".toList, .parent,
        .normal "b".toList] ∧
    expandHome "/home/me/" "./~/x" = "./~/x" ∧
    (∀ path, expandHome "/home/me/" (expandHome "/home/me/" path) = expandHome "/home/me/" path) ∧
    ∀ s, Settings.load ⟨[("HOME", "/home/me/")], none⟩ none = .ok s →
      expandHome "/home/me/" s.importsFile = s.importsFile := by
  have hhome : "/home/me/" ≠ "" := by decide
  obtain ⟨hunder, hother, htwice⟩ := expandHome_lies_under_home hhome
  obtain ⟨hpaths, hsettings⟩ := htwice (by decide +kernel)
  have hcomponents := (hunder "~//./a/../b/" [.normal "a".toList, .parent, .normal "b".toList]
    (by decide +kernel)).1
  exact ⟨hcomponents, hother _ (by decide +kernel), hpaths, fun s hs => hsettings _ none s rfl hs⟩

end AutoImport.Path
