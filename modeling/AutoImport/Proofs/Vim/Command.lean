import AutoImport.Vim
import Mathlib.Data.List.Basic
import Mathlib.Data.List.TakeDrop

/-!
# Reading commands back

A literal string is read by Vim's rule: two quotes are one, and a single quote ends it. So the
literal of a text is read as the text, and nothing else is (`Literal.scan?_eq_some_iff`): the text
cannot end the literal, whatever it is. A command is read as the assignment that was written, and
nothing else is, if there is no bracket in the name of its variable (`Command.parse?_eq_some_iff`).

Where a literal ends is seen from the literal alone, but for a quote right behind it. So what two
assignments to one variable have for the key and the value is seen from their texts, whatever is in
the name of the variable (`literal_delimits_itself`).
-/

namespace AutoImport.Vim

/-! ## Literal strings -/

namespace Literal

variable {cs text rest : List Char}

theorem body_cons_quote (cs : List Char) : body ('\'' :: cs) = '\'' :: '\'' :: body cs := by
  rw [body, List.flatMap_cons, if_pos rfl]
  rfl

theorem body_cons_of_ne {c : Char} (h : c ≠ '\'') (cs : List Char) :
    body (c :: cs) = c :: body cs := by
  rw [body, List.flatMap_cons, if_neg h]
  rfl

/-- The body of a text, closed by a quote, is read as the text. -/
theorem scanBody?_body (text : List Char) (h : rest.head? ≠ some '\'') :
    scanBody? (body text ++ '\'' :: rest) = some (text, rest) := by
  induction text with
  | nil =>
    -- What follows is no second quote.
    rw [body, List.flatMap_nil, List.nil_append]
    cases rest with
    | nil => rfl
    | cons c rest =>
      have hc : c ≠ '\'' := fun hc => h (congrArg some hc)
      simp [scanBody?, hc]
  | cons c text ih =>
    by_cases hc : c = '\''
    · rw [hc, body_cons_quote, List.cons_append, List.cons_append, scanBody?, ih]
      rfl
    · rw [body_cons_of_ne hc, List.cons_append]
      simp [scanBody?, hc, ih]

/-- What is read as a text is the body of the text, closed by a quote that is no half of a pair. -/
theorem eq_body_of_scanBody? (h : scanBody? cs = some (text, rest)) :
    cs = body text ++ '\'' :: rest ∧ rest.head? ≠ some '\'' := by
  fun_induction scanBody? cs generalizing text with
  | case1 => cases h
  | case2 cs ih =>
    obtain ⟨⟨text, rest⟩, hcs, heq⟩ := Option.map_eq_some_iff.1 h
    cases heq
    obtain ⟨rfl, hrest⟩ := ih hcs
    exact ⟨by rw [body_cons_quote, List.cons_append, List.cons_append], hrest⟩
  | case3 rest hrest =>
    cases h
    refine ⟨rfl, fun hhead => ?_⟩
    obtain ⟨cs, rfl⟩ := List.head?_eq_some_iff.1 hhead
    exact hrest cs rfl
  | case4 c cs _ hclose ih =>
    obtain ⟨⟨text, rest⟩, hcs, heq⟩ := Option.map_eq_some_iff.1 h
    cases heq
    obtain ⟨rfl, hrest⟩ := ih hcs
    exact ⟨by rw [body_cons_of_ne hclose, List.cons_append], hrest⟩

/-- A text is what is read at the front of its literal, and of nothing else. -/
theorem scan?_eq_some_iff : scan? cs = some (text, rest) ↔
    cs = '\'' :: (body text ++ '\'' :: rest) ∧ rest.head? ≠ some '\'' := by
  constructor
  · intro h
    rw [scan?.eq_def] at h
    split at h
    · obtain ⟨rfl, hrest⟩ := eq_body_of_scanBody? h
      exact ⟨rfl, hrest⟩
    · cases h
  · rintro ⟨rfl, hrest⟩
    exact scanBody?_body text hrest

theorem toList_write (text : String) :
    (write text).toList = '\'' :: (body text.toList ++ ['\'']) := by
  simp [write]

/-- A literal is read up to its end, whatever comes behind it, unless that is a quote. -/
theorem scan?_write_append {text : String} :
    scan? ((write text).toList ++ rest) = some (text.toList, rest) ↔ rest.head? ≠ some '\'' := by
  rw [scan?_eq_some_iff, toList_write]
  constructor
  · exact And.right
  · intro hrest
    exact ⟨by rw [List.cons_append, List.append_assoc, List.singleton_append], hrest⟩

/-- Of two literals at the front of one text, none with a quote behind it, neither is longer. -/
theorem write_append_inj {text text' : String} {rest' : List Char} (hrest : rest.head? ≠ some '\'')
    (hrest' : rest'.head? ≠ some '\'')
    (h : (write text).toList ++ rest = (write text').toList ++ rest') :
    text = text' ∧ rest = rest' := by
  have hscan : scan? ((write text).toList ++ rest) = some (text.toList, rest) :=
    scan?_write_append.2 hrest
  rw [h, scan?_write_append.2 hrest', Option.some.injEq, Prod.mk.injEq] at hscan
  exact ⟨String.toList_injective hscan.1.symm, hscan.2.symm⟩

/-- There is a character in the literal of a text only if it is a quote or in the text. -/
theorem mem_write {c : Char} {text : String} (h : c ∈ (write text).toList) :
    c = '\'' ∨ c ∈ text.toList := by
  rw [toList_write, body, List.mem_cons, List.mem_append, List.mem_singleton] at h
  obtain h | h | h := h
  · exact .inl h
  · obtain ⟨d, hd, hc⟩ := List.mem_flatMap.1 h
    by_cases hquote : d = '\''
    · exact .inl (by simpa [hquote] using hc)
    · rw [if_neg hquote, List.mem_singleton] at hc
      exact .inr (hc ▸ hd)
  · exact .inl h

end Literal

/-! ## Commands -/

namespace Command

theorem toList_write (c : Command) : c.write.toList =
    "let ".toList ++ (c.target.toList ++ '[' :: '\'' :: (Literal.body c.key.toList ++ '\'' ::
      ("] = ".toList ++ '\'' :: (Literal.body c.value.toList ++ ['\''])))) := by
  simp [write, Literal.toList_write]

/-- The name of a variable is what comes before the first bracket. -/
theorem span_eq_iff {line target rest : List Char} :
    line.span (· != '[') = (target, '[' :: rest) ↔
      line = target ++ '[' :: rest ∧ '[' ∉ target := by
  rw [List.span_eq_takeWhile_dropWhile, Prod.mk.injEq]
  constructor
  · rintro ⟨rfl, hrest⟩
    refine ⟨by rw [← hrest, List.takeWhile_append_dropWhile], fun hmem => ?_⟩
    have hall : (line.takeWhile (· != '[')).all (· != '[') = true := List.all_takeWhile
    exact bne_iff_ne.1 (List.all_eq_true.1 hall _ hmem) rfl
  · rintro ⟨rfl, htarget⟩
    have hall : ∀ c ∈ target, (c != '[') = true := fun c hc =>
      bne_iff_ne.2 fun heq => htarget (heq ▸ hc)
    rw [List.takeWhile_append_of_pos hall, List.dropWhile_append_of_pos hall]
    simp

/-- A command is what is read of its text, and of nothing else, if there is no bracket in the name
    of its variable. -/
theorem parse?_eq_some_iff {line : List Char} {c : Command} :
    parse? line = some c ↔ line = c.write.toList ∧ '[' ∉ c.target.toList := by
  rw [toList_write]
  simp only [parse?, Option.bind_eq_bind, Option.bind_eq_some_iff, Prod.exists,
    List.isPrefixOf?_eq_some_iff_append_eq, Literal.scan?_eq_some_iff]
  constructor
  · rintro ⟨line, rfl, rest, hbracket, key, behindKey, ⟨rfl, -⟩, rest', hequals, value,
      behindValue, ⟨rfl, -⟩, hend⟩
    obtain ⟨hline, htarget⟩ : line = _ ++ '[' :: '\'' :: _ ∧ _ :=
      span_eq_iff.1 (Prod.ext rfl hbracket.symm)
    split at hend
    · rename_i hempty
      rw [List.isEmpty_iff.1 hempty] at hequals
      cases hend
      simp only [String.toList_ofList]
      exact ⟨by rw [hequals, ← hline], htarget⟩
    · cases hend
  · rintro ⟨rfl, htarget⟩
    refine ⟨_, rfl, _, ?_, c.key.toList, _, ⟨rfl, ?_⟩, _, rfl, c.value.toList, [], ⟨rfl, ?_⟩, ?_⟩
    · rw [span_eq_iff.2 ⟨rfl, htarget⟩]
      rfl
    · simp
    · simp
    · rw [span_eq_iff.2 ⟨rfl, htarget⟩]
      simp

/-- Assignments to one variable that are written the same are the same. -/
theorem write_inj {target key value key' value' : String}
    (h : (mk target key value).write = (mk target key' value').write) :
    key = key' ∧ value = value' := by
  have hlist := congrArg String.toList h
  simp only [write, String.toList_append, List.append_assoc, List.append_cancel_left_eq] at hlist
  obtain ⟨hkey, hbehind⟩ := Literal.write_append_inj (by simp) (by simp) hlist
  have hvalue := List.append_cancel_left hbehind
  rw [← List.append_nil (Literal.write value).toList,
    ← List.append_nil (Literal.write value').toList] at hvalue
  exact ⟨hkey, (Literal.write_append_inj (by simp) (by simp) hvalue).1⟩

end Command

/-- By Vim's rule a literal ends where it was ended, and is read as the text it was written for,
    whatever comes behind it, unless that begins with a quote. So an assignment has one key and one
    value by its text, whatever quotes and brackets there are in them or in its variable. -/
theorem literal_delimits_itself :
    (∀ (text : String) (rest : List Char),
      Literal.scan? ((Literal.write text).toList ++ rest) = some (text.toList, rest) ↔
        rest.head? ≠ some '\'') ∧
    ∀ target key value key' value',
      (Command.mk target key value).write = (Command.mk target key' value').write ↔
        key = key' ∧ value = value' := by
  refine ⟨fun text rest => Literal.scan?_write_append, fun target key value key' value' => ?_⟩
  constructor
  · exact Command.write_inj
  · rintro ⟨rfl, rfl⟩
    rfl

end AutoImport.Vim
