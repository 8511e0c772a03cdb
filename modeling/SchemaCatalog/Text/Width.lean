import SchemaCatalog.Text.WidthRanges
import SchemaCatalog.Text.Word
/-!
# Width of a line on the screen

How many cells of a character grid a line takes. East Asian characters and pictographs take two,
marks none. Some sequences take fewer cells than their characters do alone: pictographs that are
joined into one or have a skin tone, and the ligatures of some scripts. What a character takes thus
depends on what comes after it, and a line is measured from its end.
-/

namespace SchemaCatalog.Text

/-- The code point of the character lies between the two. -/
def between (first last : Nat) (c : Char) : Bool :=
  decide (first ≤ c.toNat) && decide (c.toNat ≤ last)

/-- The cells taken by one character that stands alone. -/
def charWidth (c : Char) : Nat :=
  if c.toNat ≤ 0xA0 then 1
  else if c.toNat == 0x17D8 then 3
  else if inRanges zeroWidthRanges c then 0
  else if inRanges wideRanges c then 2
  else 1

/-- The joiner between pictographs or letters. -/
def isJoiner (c : Char) : Bool :=
  c.toNat == 0x200D

/-- The character is one of the letters that make up the flags of countries. -/
def isFlagLetter : Char → Bool := between 0x1F1E6 0x1F1FF

/-- The character is a skin tone. -/
def isTone : Char → Bool := between 0x1F3FB 0x1F3FF

/-- The character is a pictograph that is drawn in color unless told otherwise. -/
def isPicture (c : Char) : Bool :=
  c.toNat > 0xA0 && inRanges pictureRanges c

/-- A selector after the character draws it as a pictograph in color. -/
def isStyled (c : Char) : Bool :=
  inRanges styledRanges c

/-- A selector after the character draws it as a narrow symbol. The squared ideographs stay wide. -/
def isDimmed (c : Char) : Bool :=
  isPicture c && isStyled c && !between 0x1F200 0x1F2FF c

/-- A quotation mark that a selector widens. -/
def isQuote (c : Char) : Bool :=
  [0x2018, 0x2019, 0x201C, 0x201D].contains c.toNat

/-- A mark that is not shown and does not part a ligature. -/
def isHiddenMark (c : Char) : Bool :=
  c.toNat == 0x34F || between 0x17B4 0x17B5 c || between 0x180B 0x180D c || c.toNat == 0x180F ||
    between 0xFE00 0xFE0F c || between 0xE0100 0xE01EF c

/-- A consonant of the Tifinagh script. -/
def isTifinagh (c : Char) : Bool :=
  between 0x2D31 0x2D65 c || c.toNat == 0x2D6F

/-- An Arabic letter of the form of lam. -/
def isLam (c : Char) : Bool :=
  [0x644, 0x6B5, 0x6B6, 0x6B7, 0x6B8, 0x76A, 0x8A6, 0x8C7].contains c.toNat

/-- An Arabic letter of the form of alef. -/
def isAlef (c : Char) : Bool :=
  [0x622, 0x623, 0x625, 0x627, 0x671, 0x672, 0x673, 0x675, 0x773, 0x774].contains c.toNat ||
    between 0x870 0x882 c

/-- A Khmer letter that a coeng sign puts below the letter before. -/
def isSubscript (c : Char) : Bool :=
  between 0x1780 0x1782 c || between 0x1784 0x1787 c || between 0x1789 0x178C c ||
    between 0x178E 0x1793 c || between 0x1795 0x1798 c || between 0x179B 0x179D c ||
    [0x17A0, 0x17A2, 0x17A7, 0x17AB, 0x17AC, 0x17AF].contains c.toNat

/-- What a text begins with, as far as the cells of a character before it depend on that. A joined
pictograph is one with a joiner before it. -/
inductive Opening where
  | plain
  | tone
  | flagLetter
  | flagLetters
  | picture
  | joinedPicture
  /-- A keycap before a joined pictograph. -/
  | keycap
  /-- One letter of a flag before a joined pictograph. -/
  | letterJoined
  /-- Pairs of letters of flags before a joined pictograph, and a letter more if `odd`. -/
  | lettersJoined (odd : Bool)
  /-- The end of the tags of a region's flag before a joined pictograph: first so many digits, then
  so many letters. -/
  | tags (digits letters : Nat)
  | alef
  | lamed (joined : Bool)
  | ya (joined : Bool)
  /-- The Buginese vowel sign i before a joined ya. -/
  | vowelYa
  | tifinagh (joined : Bool)
  /-- The sign that joins consonants before a consonant of Tifinagh. -/
  | tifinaghJoined
  | lisuTone
  | orkhonI
  | khmerSubscript
  | kiratE
  | kiratAi
deriving DecidableEq, Repr

namespace Opening

/-- What the character begins. -/
def ofChar (c : Char) : Opening :=
  if isPicture c then picture
  else if isTone c then tone
  else if isFlagLetter c then flagLetter
  else if isAlef c then alef
  else if isTifinagh c then tifinagh false
  else if isSubscript c then khmerSubscript
  else match c.toNat with
    | 0x5DC => lamed false
    | 0x1A10 => ya false
    | 0xA4FC | 0xA4FD => lisuTone
    | 0x10C03 => orkhonI
    | 0x16D67 => kiratE
    | 0x16D68 => kiratAi
    | _ => plain

/-- The opening of a ligature, which selectors do not part. -/
def isLigature : Opening → Bool
  | alef | lamed _ | ya _ | vowelYa | tifinagh _ | tifinaghJoined | lisuTone | orkhonI
  | khmerSubscript => true
  | _ => false

/-- A pictograph that is waiting for one to be joined with. -/
def isJoined : Opening → Bool
  | joinedPicture | keycap => true
  | _ => false

/-- The opening with a joiner before it, where it is a letter that may be joined. -/
def afterJoiner : Opening → Opening
  | lamed _ => lamed true
  | ya _ => ya true
  | tifinagh _ => tifinagh true
  | o => o

/-- The cells that a character adds when it makes a sequence of pictographs with what follows it, and
the opening they make. -/
def sequence? (o : Opening) (c : Char) : Option (Int × Opening) :=
  match o with
  | tone =>
    if inRanges bodyRanges c then some (0, picture)
    else if isJoiner c then some (0, joinedPicture)
    else none
  | flagLetter => if isFlagLetter c then some (1, flagLetters) else none
  | flagLetters =>
    if isFlagLetter c then some (1, flagLetters)
    else if isJoiner c then some (0, joinedPicture)
    else none
  | picture => if isJoiner c then some (0, joinedPicture) else none
  | joinedPicture =>
    if c.toNat == 0x20E3 then some (0, keycap)
    else if isFlagLetter c then some (1, letterJoined)
    else if isTone c then some (0, tone)
    else if c.toNat == 0xE007F then some (0, tags 0 0)
    else if isPicture c then some (0, picture)
    else none
  | letterJoined => if isFlagLetter c then some (-1, lettersJoined false) else none
  | lettersJoined odd =>
    if isFlagLetter c then some (if odd then (-1, lettersJoined false) else (3, lettersJoined true))
    else if isJoiner c then some (0, joinedPicture)
    else none
  | tags digits letters =>
    if between 0xE0061 0xE007A c && digits == 0 && letters < 6 then some (0, tags 0 (letters + 1))
    else if between 0xE0030 0xE0039 c && digits < 3 && letters < 5 then
      some (0, tags (digits + 1) letters)
    else if c.toNat == 0x1F3F4 && (digits == 3 || digits == 0 && 3 ≤ letters) then
      some (0, picture)
    else none
  | _ => none

/-- The cells that a character adds when it makes a ligature with what follows it, and the opening
they make. -/
def ligature? (o : Opening) (c : Char) : Option (Int × Opening) :=
  if o.isLigature && o != alef && isJoiner c then some (0, o.afterJoiner)
  else if o.isLigature && o != alef && isHiddenMark c then some (0, o)
  else match o, c.toNat with
    | alef, _ =>
      if isLam c then some (0, plain)
      else if charWidth c == 0 && !inRanges opaqueRanges c then some (0, alef)
      else none
    | lamed true, 0x5D0 => some (0, plain)
    | khmerSubscript, 0x17D2 => some (-1, plain)
    | ya true, 0x1A17 => some (0, vowelYa)
    | vowelYa, 0x1A15 => some (0, plain)
    | tifinagh joined, n =>
      if n == 0x2D7F then some (1, tifinaghJoined)
      else if joined && isTifinagh c then some (0, plain)
      else none
    | tifinaghJoined, _ => if isTifinagh c then some (-1, plain) else none
    | lisuTone, _ => if between 0xA4F8 0xA4FB c then some (0, plain) else none
    | orkhonI, 0x10C32 => some (0, plain)
    | kiratE, 0x16D63 | kiratE, 0x16D69 | kiratAi, 0x16D63 => some (0, plain)
    | kiratE, 0x16D67 => some (0, kiratAi)
    | kiratE, 0x16D68 => some (1, kiratE)
    | _, _ => none

end Opening

/-- How a variation selector wants the character before it drawn. -/
inductive Style where
  | color
  | symbol
  | wideQuote
deriving DecidableEq, Repr

/-- The style that a character selects. -/
def Style.ofChar? (c : Char) : Option Style :=
  match c.toNat with
  | 0xFE0F => some .color
  | 0xFE0E => some .symbol
  | 0xFE01 => some .wideQuote
  | _ => none

/-- What comes after a character: an opening, with a selector before it if there is one. -/
structure Following where
  opening : Opening
  style? : Option Style
deriving DecidableEq, Repr

namespace Following

/-- What comes after the last character. -/
def empty : Following := ⟨.plain, none⟩

/-- An opening with a selector before it. A selector parts pictographs, but for the one that ends a
pictograph which is joined to the next. -/
def select (f : Following) (s : Style) : Following :=
  ⟨if f.opening.isLigature || s == .color && f.opening.isJoined then f.opening else .plain, some s⟩

/-- What comes after a character that the selector has no effect on. -/
def unstyled (f : Following) : Following :=
  ⟨if f.opening.isLigature || f.style?.isNone then f.opening else .plain, none⟩

/-- The cells of the character when the selector after it has an effect, and what it begins. -/
def styled? (f : Following) (c : Char) : Option (Int × Opening) :=
  match f.style? with
  | some .color =>
    if isStyled c then some (if f.opening.isJoined then 0 else 2, .picture)
    else none
  | some .symbol => if isDimmed c then some (1, .plain) else none
  | some .wideQuote => if isQuote c then some (2, .plain) else none
  | none => none

/-- The cells that a character adds to what follows, and what follows the character before it. -/
def before (f : Following) (c : Char) : Int × Following :=
  match f.styled? c with
  | some (width, o) => (width, ⟨o, none⟩)
  | none =>
    match Style.ofChar? c with
    | some s => (0, (if f.style? == some .color then f.unstyled else f).select s)
    | none =>
      let o := f.unstyled.opening
      let (width, o) := (o.sequence? c <|> o.ligature? c).getD (charWidth c, .ofChar c)
      (width, ⟨o, none⟩)

end Following

/-- The number of cells that the line takes. -/
def displayWidth (cs : List Char) : Nat :=
  let (width, _) := cs.foldr (fun c (width, f) =>
    let (added, f) := f.before c
    (width + added, f)) ((0 : Int), Following.empty)
  width.toNat

end SchemaCatalog.Text
