import AutoImport.Text.Pattern
import Mathlib.Data.List.Basic

/-!
# The search finds what matches

A pattern has a meaning as a relation (`Pattern.Matches`) and as a search (`Pattern.scan`), and the
two agree:

* `Pattern.scan_sound`: whatever a search finds is a match at the front of the text, followed by
  what accepts the rest;
* `Pattern.isSome_scan`: a match that can be followed makes the search find something, though maybe
  another match, one it prefers;
* `Pattern.isSome_groups?_iff`, `Pattern.matches_of_groups?`: the same for whole texts.

The matches of a composed pattern are those of its parts, put together (`Pattern.matches_seq` and
its neighbours).
-/

namespace AutoImport.Text.Pattern

variable {p q : Pattern} {cs : List Char} {kept : List (List Char)}

/-! ## Matches of composed patterns -/

theorem matches_literal {text : String} :
    (literal text).Matches cs kept ↔ cs = text.toList ∧ kept = [] :=
  ⟨fun h => by cases h; exact ⟨rfl, rfl⟩, fun ⟨h, h'⟩ => h ▸ h' ▸ .literal⟩

theorem matches_one {accepts : Char → Bool} :
    (one accepts).Matches cs kept ↔ (∃ c, accepts c ∧ cs = [c]) ∧ kept = [] :=
  ⟨fun h => by cases h with | one hc => exact ⟨⟨_, hc, rfl⟩, rfl⟩,
    fun ⟨⟨_, hc, h⟩, h'⟩ => h ▸ h' ▸ .one hc⟩

theorem matches_run {accepts : Char → Bool} :
    (run accepts).Matches cs kept ↔ (∀ c ∈ cs, accepts c) ∧ kept = [] :=
  ⟨fun h => by cases h with | run hcs => exact ⟨hcs, rfl⟩, fun ⟨h, h'⟩ => h' ▸ .run h⟩

theorem matches_seq :
    (seq p q).Matches cs kept ↔ ∃ front back keptFront keptBack, p.Matches front keptFront ∧
      q.Matches back keptBack ∧ cs = front ++ back ∧ kept = keptFront ++ keptBack := by
  constructor
  · intro h
    cases h with
    | seq hp hq => exact ⟨_, _, _, _, hp, hq, rfl, rfl⟩
  · rintro ⟨_, _, _, _, hp, hq, rfl, rfl⟩
    exact .seq hp hq

/-- Where the first of two patterns keeps nothing, what is kept is what the second keeps. -/
theorem matches_seq_silent {accepted : List Char → Prop}
    (hp : ∀ {cs kept}, p.Matches cs kept ↔ accepted cs ∧ kept = []) :
    (seq p q).Matches cs kept ↔
      ∃ front back, accepted front ∧ q.Matches back kept ∧ cs = front ++ back := by
  rw [matches_seq]
  constructor
  · rintro ⟨front, back, _, _, hfront, hback, rfl, rfl⟩
    obtain ⟨haccepted, rfl⟩ := hp.1 hfront
    exact ⟨front, back, haccepted, hback, rfl⟩
  · rintro ⟨front, back, hfront, hback, rfl⟩
    exact ⟨front, back, [], kept, hp.2 ⟨hfront, rfl⟩, hback, rfl, rfl⟩

theorem matches_option :
    (option p).Matches cs kept ↔ p.Matches cs kept ∨ cs = [] ∧ kept = [] := by
  constructor
  · intro h
    cases h with
    | option hp => exact .inl hp
    | skip => exact .inr ⟨rfl, rfl⟩
  · rintro (hp | ⟨rfl, rfl⟩)
    exacts [.option hp, .skip]

theorem matches_group :
    (group p).Matches cs kept ↔ ∃ inner, p.Matches cs inner ∧ kept = cs :: inner :=
  ⟨fun h => by cases h with | group hp => exact ⟨_, hp, rfl⟩, fun ⟨_, hp, h⟩ => h ▸ .group hp⟩

/-- A character of one class and a run of another are a text that is not empty, with its first
    character in the one class and all others in the other. -/
theorem matches_one_run {first rest : Char → Bool} :
    (seq (one first) (run rest)).Matches cs kept ↔
      (∃ d ds, cs = d :: ds ∧ first d ∧ ∀ c ∈ ds, rest c) ∧ kept = [] := by
  rw [matches_seq]
  simp only [matches_one, matches_run]
  constructor
  · rintro ⟨_, ds, _, _, ⟨⟨d, hd, rfl⟩, rfl⟩, ⟨hds, rfl⟩, rfl, rfl⟩
    exact ⟨⟨d, ds, rfl, hd, hds⟩, rfl⟩
  · rintro ⟨⟨d, ds, rfl, hd, hds⟩, rfl⟩
    exact ⟨[d], ds, [], [], ⟨⟨d, hd, rfl⟩, rfl⟩, ⟨hds, rfl⟩, rfl, rfl⟩

/-- What holds of nothing, and of a match followed by a repetition of which it holds, holds of every
    repetition. -/
theorem Matches.many_induction {motive : List Char → List (List Char) → Prop}
    (stop : motive [] [])
    (again : ∀ {front keptFront back keptBack}, p.Matches front keptFront → front ≠ [] →
      motive back keptBack → motive (front ++ back) (keptFront ++ keptBack))
    (h : (many p).Matches cs kept) : motive cs kept := by
  generalize hm : many p = m at h
  induction h with
  | stop => exact stop
  | again hp hne _ _ ih =>
    obtain rfl := many.inj hm
    exact again hp hne (ih rfl)
  | literal | one | run | seq | skip | option | group => cases hm

/-! ## Soundness -/

/-- The rests of a text are what is left of it behind a run of accepted characters. -/
theorem mem_rests {accepts : Char → Bool} {shorter : List (List Char)} {rest : List Char} :
    rest ∈ rests accepts cs shorter ↔
      rest ∈ shorter ∨ ∃ taken, cs = taken ++ rest ∧ ∀ c ∈ taken, accepts c := by
  induction cs generalizing shorter with
  | nil =>
    simp only [rests, List.mem_cons]
    constructor
    · rintro (rfl | h)
      exacts [.inr ⟨[], rfl, by simp⟩, .inl h]
    · rintro (h | ⟨taken, h, -⟩)
      exacts [.inr h, .inl (List.append_eq_nil_iff.1 h.symm).2]
  | cons c cs ih =>
    -- A run of accepted characters is empty, or starts with `c` and goes on behind it.
    have split : (∃ taken, c :: cs = taken ++ rest ∧ ∀ d ∈ taken, accepts d) ↔
        rest = c :: cs ∨ accepts c ∧ ∃ taken, cs = taken ++ rest ∧ ∀ d ∈ taken, accepts d := by
      constructor
      · rintro ⟨_ | ⟨d, taken⟩, h, ha⟩
        · exact .inl h.symm
        · obtain ⟨rfl, hcs⟩ := List.cons_eq_cons.1 (h.trans (List.cons_append ..))
          exact .inr ⟨ha _ (by simp), taken, hcs, fun d hd => ha d (List.mem_cons_of_mem _ hd)⟩
      · rintro (rfl | ⟨hc, taken, rfl, ha⟩)
        · exact ⟨[], rfl, by simp⟩
        · exact ⟨c :: taken, rfl, by simpa [hc] using ha⟩
    by_cases hc : accepts c
    · rw [rests, if_pos hc, ih, List.mem_cons, split]
      simp only [hc, true_and]
      tauto
    · rw [rests, if_neg hc, List.mem_cons, split]
      simp only [hc, false_and, or_false, Bool.false_eq_true]
      tauto

/-- What a repeated step finds is a match of the repetition, if what the step finds is a match of
    what is repeated. -/
theorem scanMany_sound {α : Type} {step : List Char → Next α → Option α} {a : α}
    (hstep : ∀ {cs next}, step cs next = some a →
      ∃ text rest kept, cs = text ++ rest ∧ p.Matches text kept ∧ next rest kept = some a)
    {next : Next α} (h : scanMany step cs next = some a) :
    ∃ text rest kept, cs = text ++ rest ∧ (many p).Matches text kept ∧ next rest kept = some a := by
  induction hn : cs.length using Nat.strongRecOn generalizing cs next with
  | ind n ih =>
    subst hn
    rw [scanMany, Option.orElse_eq_or, Option.or_eq_some_iff] at h
    rcases h with h | ⟨-, h⟩
    · obtain ⟨text, rest, kept, rfl, hp, h⟩ := hstep h
      split at h
      · -- The step took something away, and the repetition goes on with the rest.
        rename_i hlt
        obtain ⟨text', rest', kept', rfl, hm, h⟩ := ih _ hlt h rfl
        have hne : text ≠ [] := by rintro rfl; simp at hlt
        exact ⟨text ++ text', rest', _, by simp, .again hp hne hm, h⟩
      · cases h
    · exact ⟨[], cs, [], rfl, .stop, h⟩

/-- Whatever a search finds is a match at the front of the text, followed by what accepts the
    rest. -/
theorem scan_sound {α : Type} {next : Next α} {a : α} (h : p.scan cs next = some a) :
    ∃ text rest kept, cs = text ++ rest ∧ p.Matches text kept ∧ next rest kept = some a := by
  induction p generalizing cs next with
  | literal text =>
    obtain ⟨rest, hr, h⟩ := Option.bind_eq_some_iff.1 h
    exact ⟨_, rest, [], (List.isPrefixOf?_eq_some_iff_append_eq.1 hr).symm, .literal, h⟩
  | one accepts =>
    cases cs with
    | nil => cases h
    | cons c cs =>
      rw [scan] at h
      split at h
      · rename_i hc
        exact ⟨[c], cs, [], rfl, .one hc, h⟩
      · cases h
  | run accepts =>
    rw [scan] at h
    obtain ⟨rest, hr, hnext⟩ := List.exists_of_findSome?_eq_some h
    obtain h' | ⟨taken, rfl, ha⟩ := mem_rests.1 hr
    · cases h'
    · exact ⟨taken, rest, [], rfl, .run ha, hnext⟩
  | seq first second ihf ihs =>
    obtain ⟨text, rest, kept, rfl, hf, h⟩ := ihf h
    obtain ⟨text', rest', kept', rfl, hs, h⟩ := ihs h
    exact ⟨text ++ text', rest', _, by simp, .seq hf hs, h⟩
  | option p ih =>
    rw [scan, Option.orElse_eq_or, Option.or_eq_some_iff] at h
    rcases h with h | ⟨-, h⟩
    · obtain ⟨text, rest, kept, rfl, hp, h⟩ := ih h
      exact ⟨text, rest, kept, rfl, .option hp, h⟩
    · exact ⟨[], cs, [], rfl, .skip, h⟩
  | many p ih => exact scanMany_sound ih h
  | group p ih =>
    obtain ⟨text, rest, kept, rfl, hp, h⟩ := ih h
    -- What is kept is the text up to the rest.
    rw [List.length_append, Nat.add_sub_cancel, List.take_left] at h
    exact ⟨text, rest, text :: kept, rfl, .group hp, h⟩

/-! ## Completeness -/

/-- A search finds something if there is a match that can be followed. -/
theorem isSome_scan {α : Type} {text rest : List Char} (h : p.Matches text kept) {next : Next α}
    (hnext : (next rest kept).isSome) : (p.scan (text ++ rest) next).isSome := by
  induction h generalizing rest next with
  | literal =>
    rw [scan, List.isPrefixOf?_eq_some_iff_append_eq.2 rfl]
    exact hnext
  | one hc =>
    rw [List.cons_append, scan, if_pos hc]
    exact hnext
  | run ha =>
    rw [scan, List.findSome?_isSome_iff]
    exact ⟨rest, mem_rests.2 (.inr ⟨_, rfl, ha⟩), hnext⟩
  | seq _ _ ihf ihs =>
    rw [scan, List.append_assoc]
    exact ihf (ihs hnext)
  | skip =>
    rw [scan, Option.orElse_eq_or, Option.isSome_or]
    simp [hnext]
  | option _ ih =>
    rw [scan, Option.orElse_eq_or, Option.isSome_or]
    simp [ih hnext]
  | stop =>
    rw [scan, scanMany, Option.orElse_eq_or, Option.isSome_or]
    simp [hnext]
  | again _ hne _ ih ihm =>
    rw [scan, scanMany, Option.orElse_eq_or, Option.isSome_or, List.append_assoc,
      Bool.or_eq_true]
    refine .inl (ih ?_)
    rw [if_pos (by simp [List.length_pos_iff.2 hne])]
    exact ihm hnext
  | group _ ih =>
    rw [scan]
    refine ih ?_
    rw [List.length_append, Nat.add_sub_cancel, List.take_left]
    exact hnext

/-! ## Whole texts -/

/-- What the groups keep is what they keep of some match of the text. -/
theorem matches_of_groups? (h : p.groups? cs = some kept) : p.Matches cs kept := by
  obtain ⟨text, rest, kept', rfl, hp, h⟩ := scan_sound h
  split at h
  · rename_i hr
    cases h
    simpa [List.isEmpty_iff.1 hr] using hp
  · cases h

/-- A text is matched in full exactly if it is among those the pattern means. -/
theorem isSome_groups?_iff : (p.groups? cs).isSome ↔ ∃ kept, p.Matches cs kept := by
  constructor
  · intro h
    obtain ⟨kept, h⟩ := Option.isSome_iff_exists.1 h
    exact ⟨kept, matches_of_groups? h⟩
  · rintro ⟨kept, h⟩
    let accept : Next (List (List Char)) := fun rest kept =>
      if rest.isEmpty then some kept else none
    have hnext : (accept [] kept).isSome := rfl
    have hscan := isSome_scan h hnext
    rwa [List.append_nil] at hscan

end AutoImport.Text.Pattern
