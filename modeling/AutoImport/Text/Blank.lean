/-!
# Blanks and words

Which characters are blank, and what is left of a text once blanks are taken away: the text between
its first and last non-blank (`trim`), and its maximal runs of non-blanks (`words`).

Blank means the White_Space property of Unicode, all of it: the four one-byte blanks that everybody
thinks of, but also the vertical tab, the no-break space, the ideographic space and the two
separators. A zero-width space and the information separators U+001C to U+001F are not blank.
-/

namespace AutoImport.Text

/-- The characters with the White_Space property. -/
def isBlank (c : Char) : Bool :=
  ('\t' ≤ c && c ≤ '\r') || c == ' ' || c == '\u0085' || c == '\u00a0' || c == '\u1680' ||
    ('\u2000' ≤ c && c ≤ '\u200a') || c == '\u2028' || c == '\u2029' || c == '\u202f' ||
    c == '\u205f' || c == '\u3000'

/-- A text without the blanks it starts with. -/
def trimStart (cs : List Char) : List Char :=
  cs.dropWhile isBlank

/-- A text without the blanks it ends with. -/
def trimEnd (cs : List Char) : List Char :=
  (cs.reverse.dropWhile isBlank).reverse

/-- A text without blanks at either end. -/
def trim (cs : List Char) : List Char :=
  trimEnd (trimStart cs)

/-- The maximal runs of non-blanks, in order. -/
def words (cs : List Char) : List (List Char) :=
  (cs.splitOnP isBlank).filter (!·.isEmpty)

/-- A blank ends the word before it and starts none. -/
theorem words_append_cons {c : Char} (h : isBlank c) (xs ys : List Char) :
    words (xs ++ c :: ys) = words xs ++ words ys := by
  simp [words, List.splitOnP_append_cons xs ys h]

/-- A text without blanks is one word, unless it is empty. -/
theorem words_of_forall_not_isBlank {cs : List Char} (h : ∀ c ∈ cs, isBlank c = false) :
    words cs = if cs = [] then [] else [cs] := by
  rw [words, List.splitOnP_eq_singleton h]
  cases cs <;> simp

end AutoImport.Text
