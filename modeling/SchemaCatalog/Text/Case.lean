import SchemaCatalog.Text.CaseRanges
import SchemaCatalog.Text.Word
/-!
# Upper and lower case

The full case mappings of Unicode, without the rules of single languages. One character may become
several, and a capital sigma at the end of a word becomes the final form of the small one.
-/

namespace SchemaCatalog.Text

/-- Where the run takes a code point, if the code point is in the run. -/
def CaseRun.image? (run : CaseRun) (n : Nat) : Option Nat :=
  if run.first ≤ n && n ≤ run.last && (n - run.first) % run.stride == 0 then
    some (n + run.shift).toNat
  else
    none

/-- The image of a character outside ASCII under a mapping given by runs and expansions. -/
def mapCase (runs : Array CaseRun) (expansions : List (Nat × List Nat)) (c : Char) : List Char :=
  match expansions.lookup c.toNat with
  | some ns => ns.map Char.ofNat
  | none =>
    match runs.findSome? (·.image? c.toNat) with
    | some n => [Char.ofNat n]
    | none => [c]

/-- The character's upper case, which may be several characters. -/
def upperChar (c : Char) : List Char :=
  if c.toNat < 0x80 then [c.toUpper] else mapCase upperRuns upperExpansions c

/-- The text in upper case. -/
def upper (s : String) : String :=
  String.ofList (s.toList.flatMap upperChar)

/-- The character's lower case where no neighbour counts. -/
def lowerChar (c : Char) : List Char :=
  if c.toNat < 0x80 then [c.toLower] else mapCase lowerRuns lowerExpansions c

/-- The character is a letter with a case. -/
def isCased (c : Char) : Bool :=
  if c.toNat < 0x80 then c.isAlpha else inRanges casedRanges c

/-- The character is passed over when a neighbouring cased character is sought. -/
def isCaseIgnorable (c : Char) : Bool :=
  if c.toNat < 0x80 then [0x27, 0x2E, 0x3A, 0x5E, 0x60].contains c.toNat
  else inRanges caseIgnorableRanges c

/-- The first character that is not passed over is cased. -/
def meetsCased (cs : List Char) : Bool :=
  match cs.dropWhile isCaseIgnorable with
  | [] => false
  | c :: _ => isCased c

/-- Lower case of the characters after those in `before`, which are in reverse order. -/
def lowerAfter (before : List Char) : List Char → List Char
  | [] => []
  | c :: rest =>
    let image :=
      if c == 'Σ' then (if meetsCased before && !meetsCased rest then ['ς'] else ['σ'])
      else lowerChar c
    image ++ lowerAfter (c :: before) rest

/-- The text in lower case. -/
def lower (s : String) : String :=
  String.ofList (lowerAfter [] s.toList)

/-- Two texts are equal when the case of ASCII letters is disregarded. -/
def eqIgnoringCase (s t : List Char) : Bool :=
  s.map Char.toLower == t.map Char.toLower

/-- Lower case moves the capital letters of ASCII and nothing else. -/
theorem toLower_eq_or (c : Char) :
    c.toLower = c ∨ 65 ≤ c.toNat ∧ c.toNat ≤ 90 ∧ c.toLower.toNat = c.toNat + 32 := by
  by_cases hupper : c.val ≥ 'A'.val ∧ c.val ≤ 'Z'.val
  · have hfirst : 65 ≤ c.toNat := UInt32.le_iff_toNat_le.1 hupper.1
    have hlast : c.toNat ≤ 90 := UInt32.le_iff_toNat_le.1 hupper.2
    have hlower : c.toLower.val = c.val + 32 := congrArg Char.val (dif_pos hupper)
    refine .inr ⟨hfirst, hlast, ?_⟩
    rw [Char.toNat, hlower, UInt32.toNat_add]
    exact Nat.mod_eq_of_lt (by show c.toNat + 32 < _; omega)
  · exact .inl (dif_neg hupper)

theorem length_of_eqIgnoringCase {s t : List Char} (h : eqIgnoringCase s t) :
    s.length = t.length := by
  simpa using congrArg List.length (eq_of_beq h)

end SchemaCatalog.Text
