import AutoImport.Text.Emoji
import AutoImport.Text.Mark
import AutoImport.Text.Unassigned

/-!
# Display width

How many columns of a terminal a text takes. A character alone takes none if it is a mark or
invisible, two if it is one of the wide characters of East Asia or a picture, and one otherwise, a
control character too (`charWidth`).

Some characters that meet are drawn as one, and then the width is not the sum: an emoji and what
modifies it, and the ligatures of some scripts. A text is therefore measured from its end to its
start, and each character is told what follows it (`Follower`), as far as that matters.
-/

namespace AutoImport.Text

/-! ## Characters -/

/-- The ranges of the characters that are two columns wide, pictures aside. -/
def wideRanges : List (Nat × Nat) := [
  (0x1100, 0x115F), (0x2329, 0x232A), (0x2630, 0x2637), (0x268A, 0x268F), (0x2E80, 0x2E99),
  (0x2E9B, 0x2EF3), (0x2F00, 0x2FD5), (0x2FF0, 0x3029), (0x3030, 0x303E), (0x3041, 0x3096),
  (0x309B, 0x30FF), (0x3105, 0x312F), (0x3131, 0x3163), (0x3165, 0x318E), (0x3190, 0x31E5),
  (0x31EF, 0x321E), (0x3220, 0x3247), (0x3250, 0xA48C), (0xA490, 0xA4C6), (0xA960, 0xA97C),
  (0xAC00, 0xD7A3), (0xF900, 0xFAFF), (0xFE10, 0xFE19), (0xFE30, 0xFE52), (0xFE54, 0xFE66),
  (0xFE68, 0xFE6B), (0xFF01, 0xFF60), (0xFFE0, 0xFFE6), (0x16FE0, 0x16FE3), (0x16FF2, 0x16FF6),
  (0x17000, 0x18CD5), (0x18CFF, 0x18D1E), (0x18D80, 0x18DF2), (0x1AFF0, 0x1AFF3),
  (0x1AFF5, 0x1AFFB), (0x1AFFD, 0x1AFFE), (0x1B000, 0x1B122), (0x1B132, 0x1B132),
  (0x1B150, 0x1B152), (0x1B155, 0x1B155), (0x1B164, 0x1B167), (0x1B170, 0x1B2FB),
  (0x1D300, 0x1D356), (0x1D360, 0x1D376), (0x1F200, 0x1F200), (0x1F202, 0x1F202),
  (0x1F210, 0x1F219), (0x1F21B, 0x1F22E), (0x1F230, 0x1F231), (0x1F237, 0x1F237),
  (0x1F23B, 0x1F23B), (0x1F240, 0x1F248), (0x1F260, 0x1F265), (0x20000, 0x2FFFD),
  (0x30000, 0x3FFFD)]

/-- The ranges in which code points without a character count as wide already, because what they
    are kept for is: the ideographs of Tangut and Khitan, and pictures. -/
def reservedWideRanges : List (Nat × Nat) := [
  (0x17000, 0x18DFF), (0x1F000, 0x1FAFF), (0x1FC00, 0x1FFFD)]

/-- The ranges of the characters that are not shown, marks aside: those that only guide the layout,
    the vowels and final consonants that are drawn into the Hangul syllable before them, and the
    signs that are drawn into the character after them. -/
def invisibleRanges : List (Nat × Nat) := [
  (0xAD, 0xAD), (0x605, 0x605), (0x61C, 0x61C), (0x70F, 0x70F), (0x890, 0x891), (0x8E2, 0x8E2),
  (0xD4E, 0xD4E), (0x1160, 0x11FF), (0x180E, 0x180E), (0x200B, 0x200B), (0x200D, 0x200F),
  (0x202A, 0x202E), (0x2060, 0x206F), (0x3164, 0x3164), (0xA8FA, 0xA8FA), (0xD7B0, 0xD7C6),
  (0xD7CB, 0xD7FB), (0xFEFF, 0xFEFF), (0xFFA0, 0xFFA0), (0xFFF0, 0xFFF8), (0x111C2, 0x111C3),
  (0x113D1, 0x113D1), (0x1193F, 0x1193F), (0x11941, 0x11941), (0x11A3A, 0x11A3A),
  (0x11A84, 0x11A89), (0x11D46, 0x11D46), (0x11F02, 0x11F02), (0x1BCA0, 0x1BCA3),
  (0x1D173, 0x1D17A), (0xE0000, 0xE001F), (0xE0080, 0xE00FF), (0xE01F0, 0xE0FFF)]

/-- A character without a width of its own. The joiner of Tifinagh consonants is a mark, but stands
    for itself where it joins nothing. -/
def isInvisible (c : Char) : Bool :=
  (isMark c && c != '\u2d7f') || inRanges invisibleRanges c.toNat

/-- The columns of a character that stands alone. One Khmer letter is as wide as the two that it is
    composed of, and one sign as the three that it abbreviates. -/
def charWidth (c : Char) : Nat :=
  if c.toNat ≤ 0xA0 then 1
  else if c = '\u17a4' then 2
  else if c = '\u17d8' then 3
  else if isInvisible c then 0
  else if isPicture c || isModifier c || inRanges wideRanges c.toNat ||
      (inRanges reservedWideRanges c.toNat && isUnassigned c) then 2
  else 1

/-! ## What follows a character -/

/-- What follows a character, as far as its width depends on that. -/
inductive Follower where
  /-- Nothing that matters. -/
  | other
  | lineFeed
  /-- A picture. -/
  | picture
  /-- A modifier of a picture. -/
  | modifier
  /-- A regional indicator. -/
  | regional
  /-- Two regional indicators or more. -/
  | regionals
  /-- A joiner and a picture. -/
  | joiner
  /-- The frame of a keycap, a joiner and a picture. -/
  | joinedKeycap
  /-- A regional indicator, a joiner and a picture. -/
  | joinedRegional
  /-- Two regional indicators or more, their number even or odd, a joiner and a picture. -/
  | joinedRegionals (even : Bool)
  /-- Tag letters, the end of the tags, a joiner and a picture. -/
  | tagLetters (count : Nat)
  /-- Tag digits, the end of the tags, a joiner and a picture. -/
  | tagDigits (count : Nat)
  /-- An Arabic alef, with which a lam makes a ligature. -/
  | alef
  /-- A Hebrew lamed, perhaps after a joiner. -/
  | lamed (joined : Bool)
  /-- A Buginese ya, perhaps after a joiner. -/
  | ya (joined : Bool)
  /-- A Buginese vowel sign i, a joiner and a ya. -/
  | signedYa
  /-- A Tifinagh consonant, perhaps after a joiner of any script. -/
  | consonant (joined : Bool)
  /-- A Tifinagh consonant after the joiner of that script. -/
  | joinedConsonant
  /-- A Lisu tone letter that may be the second of two. -/
  | toneLetter
  /-- An Old Turkic i, perhaps after a joiner. -/
  | orkhonI (joined : Bool)
  /-- A Khmer letter that may be written below another. -/
  | subscriptLetter
  /-- A Kirat Rai vowel sign e. -/
  | kiratE
  /-- A Kirat Rai vowel sign ai, in one character or two. -/
  | kiratAi
  deriving DecidableEq, Repr

/-- The ranges of the forms of alef. -/
def alefRanges : List (Nat × Nat) := [
  (0x622, 0x623), (0x625, 0x625), (0x627, 0x627), (0x671, 0x673), (0x675, 0x675), (0x773, 0x774),
  (0x870, 0x882)]

/-- The ranges of the forms of lam. -/
def lamRanges : List (Nat × Nat) := [
  (0x644, 0x644), (0x6B5, 0x6B8), (0x76A, 0x76A), (0x8A6, 0x8A6), (0x8C7, 0x8C7)]

/-- The ranges of the Khmer letters that may be written below another. -/
def subscriptRanges : List (Nat × Nat) := [
  (0x1780, 0x1782), (0x1784, 0x1787), (0x1789, 0x178C), (0x178E, 0x1793), (0x1795, 0x1798),
  (0x179B, 0x179D), (0x17A0, 0x17A0), (0x17A2, 0x17A2), (0x17A7, 0x17A7), (0x17AB, 0x17AC),
  (0x17AF, 0x17AF)]

/-- The ranges of the Tifinagh consonants. -/
def consonantRanges : List (Nat × Nat) := [
  (0x2D31, 0x2D65), (0x2D6F, 0x2D6F)]

/-- The ranges of the invisible characters over which an alef does not reach its lam. -/
def standaloneRanges : List (Nat × Nat) := [
  (0x605, 0x605), (0x890, 0x891), (0x8E2, 0x8E2), (0x9BE, 0x9BE), (0x9D7, 0x9D7), (0xB3E, 0xB3E),
  (0xB57, 0xB57), (0xBBE, 0xBBE), (0xBD7, 0xBD7), (0xCC0, 0xCC0), (0xCC2, 0xCC2), (0xCC7, 0xCC8),
  (0xCCA, 0xCCB), (0xCD5, 0xCD6), (0xD3E, 0xD3E), (0xD4E, 0xD4E), (0xD57, 0xD57), (0xDCF, 0xDCF),
  (0xDDF, 0xDDF), (0x1160, 0x11FF), (0x1715, 0x1715), (0x1734, 0x1734), (0x180E, 0x180E),
  (0x1B35, 0x1B35), (0x1B3B, 0x1B3B), (0x1B3D, 0x1B3D), (0x1B43, 0x1B44), (0x1BAA, 0x1BAA),
  (0x1BF2, 0x1BF3), (0x200C, 0x200D), (0x2065, 0x2069), (0x302E, 0x302F), (0x3164, 0x3164),
  (0xA8FA, 0xA8FA), (0xA953, 0xA953), (0xA9C0, 0xA9C0), (0xD7B0, 0xD7C6), (0xD7CB, 0xD7FB),
  (0xFF9E, 0xFFA0), (0xFFF0, 0xFFF8), (0x111C0, 0x111C0), (0x111C2, 0x111C3), (0x11235, 0x11235),
  (0x1133E, 0x1133E), (0x1134D, 0x1134D), (0x11357, 0x11357), (0x113B8, 0x113B8),
  (0x113C2, 0x113C2), (0x113C5, 0x113C5), (0x113C7, 0x113C9), (0x113CF, 0x113CF),
  (0x113D1, 0x113D1), (0x114B0, 0x114B0), (0x114BD, 0x114BD), (0x115AF, 0x115AF),
  (0x116B6, 0x116B6), (0x11930, 0x11930), (0x1193D, 0x1193D), (0x1193F, 0x1193F),
  (0x11941, 0x11941), (0x11A3A, 0x11A3A), (0x11A84, 0x11A89), (0x11D46, 0x11D46),
  (0x11F02, 0x11F02), (0x11F41, 0x11F41), (0x16FF0, 0x16FF1), (0x1D165, 0x1D166),
  (0x1D16D, 0x1D172), (0xE0000, 0xE0000), (0xE0002, 0xE001F), (0xE0080, 0xE00FF),
  (0xE01F0, 0xE0FFF)]

/-- The ranges of the invisible marks that stand in the way of no ligature. -/
def ignorableMarkRanges : List (Nat × Nat) := [
  (0x34F, 0x34F), (0x17B4, 0x17B5), (0x180B, 0x180D), (0x180F, 0x180F), (0xFE00, 0xFE0F),
  (0xE0100, 0xE01EF)]

namespace Follower

/-- A character as a follower. -/
def ofChar (c : Char) : Follower :=
  if c.toNat ≤ 0xA0 then if c = '\n' then lineFeed else other
  else if isPicture c then picture
  else if isModifier c then modifier
  else if isRegional c then regional
  else if inRanges alefRanges c.toNat then alef
  else if c = '\u05dc' then lamed false
  else if inRanges subscriptRanges c.toNat then subscriptLetter
  else if c = '\u1a10' then ya false
  else if inRanges consonantRanges c.toNat then consonant false
  else if c = '\ua4fc' || c = '\ua4fd' then toneLetter
  else if c.toNat = 0x10C03 then orkhonI false
  else if c.toNat = 0x16D67 then kiratE
  else if c.toNat = 0x16D68 then kiratAi
  else other

/-- The end of a ligature that ignorable marks do not interrupt. -/
def endsLigature : Follower → Bool
  | lamed _ | ya _ | signedYa | consonant _ | joinedConsonant | toneLetter | orkhonI _
  | subscriptLetter => true
  | _ => false

/-- What follows a joiner before the end of a ligature. -/
def join : Follower → Follower
  | lamed _ => lamed true
  | ya _ => ya true
  | consonant _ => consonant true
  | orkhonI _ => orkhonI true
  | next => next

/-- A place in a sequence of emoji where the picture selector may stand. -/
def continuesPicture : Follower → Bool
  | joiner | joinedKeycap => true
  | _ => false

/-- What is left of a follower behind a variation selector. -/
def behindSelector (next : Follower) : Follower :=
  if next = alef || next.endsLigature then next else other

/-- A letter among the tags. -/
def isTagLetter (c : Char) : Bool :=
  0xE0061 ≤ c.toNat && c.toNat ≤ 0xE007A

/-- A digit among the tags. -/
def isTagDigit (c : Char) : Bool :=
  0xE0030 ≤ c.toNat && c.toNat ≤ 0xE0039

/-- The character and its follower where they are drawn as one or belong to one emoji: the columns
    that the character adds, and what its own predecessor is told. Columns that were counted for
    the follower may be taken back. -/
def combine (c : Char) : Follower → Option (Int × Follower)
  | alef =>
    if inRanges lamRanges c.toNat then some (0, other)
    else if isInvisible c && !inRanges standaloneRanges c.toNat then some (0, alef)
    else none
  | lamed true => if c = '\u05d0' then some (0, other) else none
  | subscriptLetter => if c = '\u17d2' then some (-1, other) else none
  | ya true => if c = '\u1a17' then some (0, signedYa) else none
  | signedYa => if c = '\u1a15' then some (0, other) else none
  | consonant joined =>
    if c = '\u2d7f' then some (1, joinedConsonant)
    else if joined && inRanges consonantRanges c.toNat then some (0, other)
    else none
  | joinedConsonant => if inRanges consonantRanges c.toNat then some (-1, other) else none
  | toneLetter => if '\ua4f8' ≤ c && c ≤ '\ua4fb' then some (0, other) else none
  | orkhonI true => if c.toNat = 0x10C32 then some (0, other) else none
  | modifier =>
    if isModifiable c then some (0, picture)
    else if c = Text.joiner then some (0, joiner)
    else none
  | regional => if isRegional c then some (1, regionals) else none
  | regionals =>
    if isRegional c then some (1, regionals)
    else if c = Text.joiner then some (0, joiner)
    else none
  | picture => if c = Text.joiner then some (0, joiner) else none
  | joiner =>
    if c = '\u20e3' then some (0, joinedKeycap)
    else if isRegional c then some (1, joinedRegional)
    else if isModifier c then some (0, modifier)
    else if c.toNat = 0xE007F then some (0, tagLetters 0)
    else if isPicture c then some (0, picture)
    else none
  | joinedRegional => if isRegional c then some (-1, joinedRegionals true) else none
  | joinedRegionals false => if isRegional c then some (-1, joinedRegionals true) else none
  | joinedRegionals true =>
    if isRegional c then some (3, joinedRegionals false)
    else if c = Text.joiner then some (0, joiner)
    else none
  | tagLetters n =>
    if isTagLetter c && n < 6 then some (0, tagLetters (n + 1))
    else if isTagDigit c && n < 5 then some (0, tagDigits 1)
    else if c.toNat = 0x1F3F4 && 3 ≤ n then some (0, picture)
    else none
  | tagDigits n =>
    if isTagDigit c && n < 3 then some (0, tagDigits (n + 1))
    else if c.toNat = 0x1F3F4 && n = 3 then some (0, picture)
    else none
  | kiratE =>
    if c.toNat = 0x16D63 || c.toNat = 0x16D69 then some (0, other)
    else if c.toNat = 0x16D67 then some (0, kiratAi)
    else if c.toNat = 0x16D68 then some (1, kiratE)
    else none
  | kiratAi => if c.toNat = 0x16D63 then some (0, other) else none
  | _ => none

end Follower

/-! ## Selectors -/

/-- The variation selectors that change a width. -/
inductive Selector where
  /-- Makes a picture a plain sign. -/
  | plain
  /-- Makes a plain sign a picture. -/
  | picture
  /-- Makes a quotation mark wide. -/
  | wideQuote
  deriving DecidableEq, Repr

/-- The selector that a character is. -/
def Selector.ofChar? (c : Char) : Option Selector :=
  if c = plainSelector then some .plain
  else if c = pictureSelector then some .picture
  else if c = '\ufe01' then some .wideQuote
  else none

/-- What a character stands before. -/
structure Context where
  follower : Follower
  /-- The selector in front of the follower, if there is one. -/
  selector? : Option Selector
  deriving DecidableEq, Repr

namespace Context

/-- The end of a text. -/
def atEnd : Context :=
  ⟨.other, none⟩

/-- A follower behind a selector. Only the picture selector leaves a joiner its effect. -/
def select (s : Selector) (next : Follower) : Context :=
  ⟨if s = .picture && next.continuesPicture then next else next.behindSelector, some s⟩

/-- The columns that a character adds before a follower, and what its predecessor stands before. -/
def before (c : Char) (next : Follower) : Int × Context :=
  if c.toNat ≤ 0xA0 then
    (if c = '\r' && next = .lineFeed then 0 else 1, ⟨.ofChar c, none⟩)
  else
    match Selector.ofChar? c with
    | some s => (0, select s next)
    | none =>
      if next.endsLigature && c = joiner then (0, ⟨next.join, none⟩)
      else if next.endsLigature && inRanges ignorableMarkRanges c.toNat then (0, ⟨next, none⟩)
      else
        match next.combine c with
        | some (columns, here) => (columns, ⟨here, none⟩)
        | none => (charWidth c, ⟨.ofChar c, none⟩)

/-- The columns that a character adds in a context, and the context of its predecessor. A selector
    acts on the characters it is made for, and is invisible after all others. -/
def step (c : Char) (context : Context) : Int × Context :=
  match context.selector? with
  | some .picture =>
    if isStyled c then (if context.follower.continuesPicture then 0 else 2, ⟨.picture, none⟩)
    else before c context.follower.behindSelector
  | some .plain =>
    if isStyled c && isPicture c && !isFramedIdeograph c then (1, ⟨.other, none⟩)
    else before c context.follower
  | some .wideQuote =>
    if c = '\u2018' || c = '\u2019' || c = '\u201c' || c = '\u201d' then (2, ⟨.other, none⟩)
    else before c context.follower
  | none => before c context.follower

end Context

/-- The columns of a text in front of a context, and the context of what stands before it. -/
def measure (cs : List Char) (context : Context) : Int × Context :=
  cs.foldr (fun c (columns, next) =>
    let (more, here) := next.step c
    (columns + more, here)) (0, context)

/-- The columns a text takes. -/
def width (cs : List Char) : Nat :=
  (measure cs .atEnd).1.toNat

/-- A printable ASCII character takes one column and changes nothing before it. -/
theorem Context.step_atEnd {c : Char} (h : ' ' ≤ c ∧ c ≤ '~') : step c atEnd = (1, atEnd) := by
  have hlow : 0x20 ≤ c.toNat := h.1
  have hhigh : c.toNat ≤ 0x7E := h.2
  have hr : c ≠ '\r' := by rintro rfl; simp at hlow
  have hn : c ≠ '\n' := by rintro rfl; simp at hlow
  simp [step, before, atEnd, Follower.ofChar, hr, hn, show c.toNat ≤ 0xA0 by omega]

/-- A text of printable ASCII characters takes a column for each. -/
theorem width_eq_length {cs : List Char} (h : ∀ c ∈ cs, ' ' ≤ c ∧ c ≤ '~') :
    width cs = cs.length := by
  suffices measure cs .atEnd = ((cs.length : Int), Context.atEnd) by simp [width, this]
  induction cs with
  | nil => rfl
  | cons c cs ih =>
    have ih := ih fun d hd => h d (List.mem_cons_of_mem _ hd)
    rw [measure, List.foldr_cons, ← measure, ih]
    simp [Context.step_atEnd (h c List.mem_cons_self)]

end AutoImport.Text
