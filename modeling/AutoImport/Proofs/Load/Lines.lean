import AutoImport.Load
import AutoImport.Proofs.Text.Encoding

/-!
# The lines of a content

What the lines of a content are is said here without saying how they are found (`IsLines`): pieces
without line feeds, each ended by a line feed, with or without a carriage return before it, but for
a last piece that is not empty. There is one way to divide a content like this, and it is the one
that loads take (`isLines_iff`).

A content whose last line is ended can be followed by another one, and then the lines of the second
come after those of the first (`splitLines_append_of_endsLine`); and a content can be cut before any
of its lines (`IsLines.exists_cut`). Where reading breaks off, the lines of what was read are those
of the part of it that ends with its last line feed (`exists_completeLines`).

Of the lines, a load gets to see those before the first that is not UTF-8 (`readable`). If the
content is UTF-8 as a whole then these are all (`isReadable_of_mem_splitLines`).
-/

namespace AutoImport

/-- The lines of a content. -/
inductive IsLines : List UInt8 → List (List UInt8) → Prop
  /-- Nothing has no lines. -/
  | nil : IsLines [] []
  /-- The last line may end with the content. -/
  | unended {line} : 10 ∉ line → line ≠ [] → IsLines line [line]
  /-- Every other line ends with a line feed, and a carriage return before it is no part of it. -/
  | ended {line bytes lines} :
    10 ∉ line → IsLines bytes lines → IsLines (line ++ 10 :: bytes) (dropReturn line :: lines)

variable {line bytes : List UInt8} {lines : List (List UInt8)}

/-- Induction on the lines of a content: without a line feed there is no more than a last line, and
    else the first line feed ends the first line. -/
@[elab_as_elim]
theorem lineInduction {motive : List UInt8 → Prop} (last : ∀ line, 10 ∉ line → motive line)
    (ended : ∀ line bytes, 10 ∉ line → motive bytes → motive (line ++ 10 :: bytes))
    (bytes : List UInt8) : motive bytes := by
  induction hn : bytes.length using Nat.strongRecOn generalizing bytes with
  | ind n ih =>
    subst hn
    by_cases hmem : 10 ∈ bytes
    · obtain ⟨line, rest, rfl, hline⟩ := List.eq_append_cons_of_mem hmem
      exact ended line rest hline (ih rest.length (by simp; omega) rest rfl)
    · exact last bytes hmem

theorem completeLines_of_not_mem (h : 10 ∉ line) : completeLines line = [] := by
  rw [completeLines, List.splitOn_eq_singleton h]
  rfl

theorem completeLines_append (h : 10 ∉ line) (bytes : List UInt8) :
    completeLines (line ++ 10 :: bytes) = dropReturn line :: completeLines bytes := by
  rw [completeLines, completeLines, List.splitOn_append_cons_self_of_not_mem h,
    List.dropLast_cons_of_ne_nil (List.splitOn_ne_nil 10 bytes), List.map_cons]

theorem splitLines_nil : splitLines [] = [] := rfl

theorem splitLines_of_not_mem (h : 10 ∉ line) (hne : line ≠ []) : splitLines line = [line] := by
  simp [splitLines, completeLines_of_not_mem h, List.splitOn_eq_singleton h, hne]

theorem splitLines_append (h : 10 ∉ line) (bytes : List UInt8) :
    splitLines (line ++ 10 :: bytes) = dropReturn line :: splitLines bytes := by
  obtain ⟨piece, pieces, hpieces⟩ := List.exists_cons_of_ne_nil (List.splitOn_ne_nil 10 bytes)
  rw [splitLines, splitLines, completeLines_append h, List.splitOn_append_cons_self_of_not_mem h,
    hpieces, List.getLast?_cons_cons, List.cons_append]

theorem dropReturn_of_not_mem (h : 13 ∉ line) : dropReturn line = line := by
  rw [dropReturn, if_neg fun hlast => h (List.mem_of_getLast? hlast)]

/-- The lines of a content are those that loads take. -/
theorem IsLines.splitLines_eq (h : IsLines bytes lines) : splitLines bytes = lines := by
  induction h with
  | nil => exact splitLines_nil
  | unended hline hne => exact splitLines_of_not_mem hline hne
  | ended hline _ ih => rw [splitLines_append hline, ih]

/-- What loads take are the lines of the content. -/
theorem isLines_splitLines (bytes : List UInt8) : IsLines bytes (splitLines bytes) := by
  induction bytes using lineInduction with
  | last line hline =>
    by_cases hne : line = []
    · subst hne
      exact .nil
    · rw [splitLines_of_not_mem hline hne]
      exact .unended hline hne
  | ended line bytes hline ih =>
    rw [splitLines_append hline]
    exact .ended hline ih

/-- A content has its lines in one way only. -/
theorem isLines_iff : IsLines bytes lines ↔ splitLines bytes = lines :=
  ⟨IsLines.splitLines_eq, fun h => h ▸ isLines_splitLines bytes⟩

/-! ## Contents behind each other -/

/-- There is no line that would go on with what follows the content: the last line is ended, or
    there is none. -/
def EndsLine (bytes : List UInt8) : Prop :=
  bytes = [] ∨ bytes.getLast? = some 10

/-- Behind the end of a line is nothing, or something that ends a line, exactly if the whole ends a
    line. -/
theorem endsLine_append_iff : EndsLine (line ++ 10 :: bytes) ↔ EndsLine bytes := by
  cases bytes with
  | nil => simp [EndsLine]
  | cons b bytes => simp [EndsLine, List.getLast?_append, List.getLast?_cons]

variable {bytes' : List UInt8} {lines' : List (List UInt8)}

/-- The lines of two contents, the first of which ends a line, are those of the two one after the
    other. -/
theorem IsLines.append (h : IsLines bytes lines) (hend : EndsLine bytes)
    (h' : IsLines bytes' lines') : IsLines (bytes ++ bytes') (lines ++ lines') := by
  induction h with
  | nil => exact h'
  | unended hline hne =>
    -- A line that is not ended has no line feed at its end.
    rcases hend with hend | hend
    · exact absurd hend hne
    · exact absurd (List.mem_of_getLast? hend) hline
  | ended hline _ ih =>
    rw [List.append_assoc, List.cons_append, List.cons_append]
    exact .ended hline (ih (endsLine_append_iff.1 hend))

theorem splitLines_append_of_endsLine (h : EndsLine bytes) (bytes' : List UInt8) :
    splitLines (bytes ++ bytes') = splitLines bytes ++ splitLines bytes' :=
  ((isLines_splitLines bytes).append h (isLines_splitLines bytes')).splitLines_eq

/-- A content can be cut before each of its lines. -/
theorem IsLines.exists_cut {before after : List (List UInt8)}
    (h : IsLines bytes (before ++ line :: after)) :
    ∃ cut rest, bytes = cut ++ rest ∧ EndsLine cut ∧ IsLines cut before ∧
      IsLines rest (line :: after) := by
  induction before generalizing bytes with
  | nil => exact ⟨[], bytes, rfl, .inl rfl, .nil, h⟩
  | cons first before ih =>
    generalize hlines : first :: before ++ line :: after = lines at h
    cases h with
    | nil => cases hlines
    | unended => simp at hlines
    | @ended piece bytes lines hpiece h =>
      obtain ⟨rfl, rfl⟩ := List.cons_eq_cons.1 hlines
      obtain ⟨cut, rest, rfl, hend, hcut, hrest⟩ := ih h
      exact ⟨piece ++ 10 :: cut, rest, by simp, endsLine_append_iff.2 hend, .ended hpiece hcut,
        hrest⟩

/-- The complete lines of a content are the lines of the part of it up to its last line feed. -/
theorem exists_completeLines (bytes : List UInt8) :
    ∃ cut rest, bytes = cut ++ rest ∧ EndsLine cut ∧ 10 ∉ rest ∧
      splitLines cut = completeLines bytes := by
  induction bytes using lineInduction with
  | last line hline => exact ⟨[], line, rfl, .inl rfl, hline, (completeLines_of_not_mem hline).symm⟩
  | ended line bytes hline ih =>
    obtain ⟨cut, rest, rfl, hend, hrest, hlines⟩ := ih
    refine ⟨line ++ 10 :: cut, rest, by simp, endsLine_append_iff.2 hend, hrest, ?_⟩
    rw [splitLines_append hline, completeLines_append hline, hlines]

/-! ## Lines that can be read -/

/-- Whether a line is UTF-8. -/
def isReadable (line : List UInt8) : Bool :=
  (decodeLine line).isSome

/-- The texts of the lines before the first that is not UTF-8. -/
def readable (lines : List (List UInt8)) : List String :=
  (lines.takeWhile isReadable).filterMap decodeLine

theorem readable_cons_of_eq_some {text : String} (h : decodeLine line = some text)
    (lines : List (List UInt8)) : readable (line :: lines) = text :: readable lines := by
  have hr : isReadable line = true := by rw [isReadable, h]; rfl
  rw [readable, List.takeWhile_cons_of_pos hr, List.filterMap_cons_some h]
  rfl

theorem readable_cons_of_eq_none (h : decodeLine line = none) (lines : List (List UInt8)) :
    readable (line :: lines) = [] := by
  have hr : ¬isReadable line = true := by rw [isReadable, h]; simp
  rw [readable, List.takeWhile_cons_of_neg hr]
  rfl

/-- Lines that can all be read are read before those behind them. -/
theorem readable_append (h : ∀ line ∈ lines, isReadable line) (lines' : List (List UInt8)) :
    readable (lines ++ lines') = readable lines ++ readable lines' := by
  induction lines with
  | nil => rfl
  | cons line lines ih =>
    obtain ⟨hline, hlines⟩ := List.forall_mem_cons.1 h
    obtain ⟨text, htext⟩ := Option.isSome_iff_exists.1 hline
    rw [List.cons_append, readable_cons_of_eq_some htext, readable_cons_of_eq_some htext, ih hlines,
      List.cons_append]

/-- Each of the lines that can be read has a text. -/
theorem length_readable (h : ∀ line ∈ lines, isReadable line) :
    (readable lines).length = lines.length := by
  induction lines with
  | nil => rfl
  | cons line lines ih =>
    obtain ⟨hline, hlines⟩ := List.forall_mem_cons.1 h
    obtain ⟨text, htext⟩ := Option.isSome_iff_exists.1 hline
    rw [readable_cons_of_eq_some htext, List.length_cons, List.length_cons, ih hlines]

/-! ## Contents that are UTF-8 -/

theorem decodeLine_encode (cs : List Char) : decodeLine (Text.encode cs) = some (.ofList cs) :=
  Text.fromUTF8?_encode cs

theorem isReadable_encode (cs : List Char) : isReadable (Text.encode cs) := by
  rw [isReadable, decodeLine_encode]
  rfl

/-- Lines that are texts are read as the texts. -/
theorem readable_map_encode (texts : List (List Char)) :
    readable (texts.map Text.encode) = texts.map .ofList := by
  induction texts with
  | nil => rfl
  | cons text texts ih =>
    rw [List.map_cons, List.map_cons, readable_cons_of_eq_some (decodeLine_encode text), ih]

/-- A text without the carriage return it may end with is a text. -/
theorem isReadable_dropReturn_encode (cs : List Char) :
    isReadable (dropReturn (Text.encode cs)) := by
  rw [dropReturn]
  split
  · rename_i hlast
    rcases List.eq_nil_or_concat cs with rfl | ⟨ds, c, rfl⟩
    · cases hlast
    · -- The last byte is that of a carriage return, and no other character has it.
      have hencode : Text.encode (ds ++ [c]) = Text.encode ds ++ String.utf8EncodeChar c := by
        simp [Text.encode]
      rw [List.concat_eq_append, hencode] at hlast ⊢
      rw [List.getLast?_append_of_ne_nil _ String.utf8EncodeChar_ne_nil] at hlast
      obtain ⟨-, hc⟩ := Text.utf8EncodeChar_of_mem (by decide) (List.mem_of_getLast? hlast)
      rw [hc, List.dropLast_concat]
      exact isReadable_encode ds
  · exact isReadable_encode cs

/-- A text has lines that are texts: those between its line feeds. -/
theorem exists_isLines_encode (cs : List Char) :
    ∃ lines, IsLines (Text.encode cs) lines ∧ ∀ line ∈ lines, isReadable line := by
  induction hn : cs.length using Nat.strongRecOn generalizing cs with
  | ind n ih =>
    subst hn
    by_cases hmem : '\n' ∈ cs
    · -- The first line feed ends the first line; the lines behind it are those of a shorter text.
      obtain ⟨ds, es, rfl, hds⟩ := List.eq_append_cons_of_mem hmem
      obtain ⟨lines, hlines, hread⟩ := ih es.length (by simp; omega) es rfl
      have hencode : Text.encode (ds ++ '\n' :: es) = Text.encode ds ++ 10 :: Text.encode es :=
        Text.encode_append ds ('\n' :: es)
      rw [hencode]
      exact ⟨_, .ended (Text.lineFeed_mem_encode_iff.not.2 hds) hlines,
        List.forall_mem_cons.2 ⟨isReadable_dropReturn_encode ds, hread⟩⟩
    · by_cases hne : Text.encode cs = []
      · exact ⟨[], hne ▸ .nil, fun _ h => absurd h List.not_mem_nil⟩
      · exact ⟨_, .unended (Text.lineFeed_mem_encode_iff.not.2 hmem) hne,
          List.forall_mem_singleton.2 (isReadable_encode cs)⟩

/-- The lines of a content that is UTF-8 are UTF-8, each on its own. -/
theorem isReadable_of_mem_splitLines (h : isReadable bytes) :
    ∀ line ∈ splitLines bytes, isReadable line := by
  obtain ⟨cs, rfl⟩ := Text.exists_eq_encode h
  obtain ⟨lines, hlines, hread⟩ := exists_isLines_encode cs
  rwa [hlines.splitLines_eq]

end AutoImport
