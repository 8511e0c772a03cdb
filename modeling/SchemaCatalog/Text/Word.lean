import SchemaCatalog.Text.WordRanges
/-!
# Characters, blanks and words in a text

Classes of characters are given by ranges of code points. Two of them are used to cut a text up: the
characters that Unicode calls white space, and word characters in the sense of Unicode. A text is
trimmed of the blanks at its two ends, and a word is looked for that stands alone: no word character
touches it on either side.
-/

namespace SchemaCatalog.Text

/-- The character's code point lies in one of the ranges. -/
def inRanges (ranges : Array (Nat × Nat)) (c : Char) : Bool :=
  ranges.any fun r => decide (r.1 ≤ c.toNat) && decide (c.toNat ≤ r.2)

/-! ## Blanks -/

/-- The character has the property `White_Space`. -/
def isBlank (c : Char) : Bool :=
  let n := c.toNat
  (9 ≤ n && n ≤ 13) || n == 0x20 || n == 0x85 || n == 0xA0 || n == 0x1680 ||
    (0x2000 ≤ n && n ≤ 0x200A) || n == 0x2028 || n == 0x2029 || n == 0x202F || n == 0x205F ||
    n == 0x3000

/-- The characters without the blanks at the end. -/
def trimEnd (cs : List Char) : List Char :=
  (cs.reverse.dropWhile isBlank).reverse

/-- The characters without the blanks at either end. -/
def trimBlanks (cs : List Char) : List Char :=
  trimEnd (cs.dropWhile isBlank)

/-- The text without the blanks at either end. -/
def trim (s : String) : String :=
  String.ofList (trimBlanks s.toList)

/-! ## Words -/

/-- Letters, marks, decimal digits, connectors and join controls are word characters. -/
def isWordChar (c : Char) : Bool :=
  if c.toNat < 0x80 then c.isAlphanum || c == '_' else inRanges wordRanges c

/-- The first of the characters, if there is one, is no word character. -/
def wordEnds : List Char → Bool
  | [] => true
  | c :: _ => !isWordChar c

/-- What follows the word in a text that begins with it, in any case of the ASCII letters. -/
def afterWord? : List Char → List Char → Option (List Char)
  | [], text => some text
  | _ :: _, [] => none
  | w :: word, c :: text => if w.toLower == c.toLower then afterWord? word text else none

/-- The word stands at the beginning of the text and the text's next character does not extend it. -/
def standsFirst (word text : List Char) : Bool :=
  match afterWord? word text with
  | some rest => wordEnds rest
  | none => false

/-- The word stands alone somewhere in the text; `free` says that the character before the text is
no word character. -/
def standsAloneFrom (word : List Char) (free : Bool) : List Char → Bool
  | [] => free && standsFirst word []
  | c :: text =>
    (free && standsFirst word (c :: text)) || standsAloneFrom word (!isWordChar c) text

/-- The word stands alone somewhere in the text, in any case of the ASCII letters. -/
def standsAlone (word text : String) : Bool :=
  standsAloneFrom word.toList true text.toList

end SchemaCatalog.Text
