/-!
# Text as bytes

UTF-8, in both directions. Reading stops at the first byte that no text can have there and says
where that is, and whether the bytes are wrong or merely end too early.
-/

namespace SchemaCatalog.Text.Utf8

/-- Why bytes are no text. -/
inductive Fault where
  /-- The first `length` bytes at the index begin no character. -/
  | invalid (length index : Nat)
  /-- The bytes end within the character at the index. -/
  | incomplete (index : Nat)
deriving Repr, DecidableEq

/-- The fault in words. -/
def Fault.message : Fault → String
  | .invalid length index => s!"invalid utf-8 sequence of {length} bytes from index {index}"
  | .incomplete index => s!"incomplete utf-8 byte sequence from index {index}"

/-- A byte that carries six more bits of a character. -/
def isContinuation (b : UInt8) : Bool :=
  0x80 ≤ b && b ≤ 0xBF

/-- The second byte keeps a three-byte form shortest and off the surrogates. -/
def fitsThree (b₀ b₁ : UInt8) : Bool :=
  if b₀ == 0xE0 then 0xA0 ≤ b₁ && b₁ ≤ 0xBF
  else if b₀ == 0xED then 0x80 ≤ b₁ && b₁ ≤ 0x9F
  else isContinuation b₁

/-- The second byte keeps a four-byte form shortest and below the last code point. -/
def fitsFour (b₀ b₁ : UInt8) : Bool :=
  if b₀ == 0xF0 then 0x90 ≤ b₁ && b₁ ≤ 0xBF
  else if b₀ == 0xF4 then 0x80 ≤ b₁ && b₁ ≤ 0x8F
  else isContinuation b₁

/-- The low six bits of a continuation byte. -/
def tail (b : UInt8) : Nat :=
  b.toNat % 0x40

/-- The characters of the bytes, the first of which has the given index. -/
def decodeFrom (index : Nat) : List UInt8 → Except Fault (List Char)
  | [] => .ok []
  | b₀ :: rest₀ =>
    if b₀ < 0x80 then
      (decodeFrom (index + 1) rest₀).map (Char.ofNat b₀.toNat :: ·)
    else if 0xC2 ≤ b₀ && b₀ ≤ 0xDF then
      match rest₀ with
      | [] => .error (.incomplete index)
      | b₁ :: rest₁ =>
        if isContinuation b₁ then
          (decodeFrom (index + 2) rest₁).map (Char.ofNat (b₀.toNat % 0x20 * 0x40 + tail b₁) :: ·)
        else .error (.invalid 1 index)
    else if 0xE0 ≤ b₀ && b₀ ≤ 0xEF then
      match rest₀ with
      | [] => .error (.incomplete index)
      | b₁ :: rest₁ =>
        if fitsThree b₀ b₁ then
          match rest₁ with
          | [] => .error (.incomplete index)
          | b₂ :: rest₂ =>
            if isContinuation b₂ then
              (decodeFrom (index + 3) rest₂).map
                (Char.ofNat ((b₀.toNat % 0x10 * 0x40 + tail b₁) * 0x40 + tail b₂) :: ·)
            else .error (.invalid 2 index)
        else .error (.invalid 1 index)
    else if 0xF0 ≤ b₀ && b₀ ≤ 0xF4 then
      match rest₀ with
      | [] => .error (.incomplete index)
      | b₁ :: rest₁ =>
        if fitsFour b₀ b₁ then
          match rest₁ with
          | [] => .error (.incomplete index)
          | b₂ :: rest₂ =>
            if isContinuation b₂ then
              match rest₂ with
              | [] => .error (.incomplete index)
              | b₃ :: rest₃ =>
                if isContinuation b₃ then
                  (decodeFrom (index + 4) rest₃).map
                    (Char.ofNat
                      (((b₀.toNat % 8 * 0x40 + tail b₁) * 0x40 + tail b₂) * 0x40 + tail b₃) :: ·)
                else .error (.invalid 3 index)
            else .error (.invalid 2 index)
        else .error (.invalid 1 index)
    else .error (.invalid 1 index)

/-- The text that the bytes stand for. -/
def decode (bytes : List UInt8) : Except Fault String :=
  (decodeFrom 0 bytes).map String.ofList

/-- Reads bytes with a replacement character in place of what is no text. The first argument bounds
the number of replacements. -/
def decodeReplacing : Nat → List UInt8 → List Char
  | 0, _ => []
  | bound + 1, bytes =>
    let textBefore (index : Nat) : List Char := (decodeFrom 0 (bytes.take index)).toOption.getD []
    match decodeFrom 0 bytes with
    | .ok cs => cs
    | .error (.incomplete index) => textBefore index ++ ['\uFFFD']
    | .error (.invalid length index) =>
      textBefore index ++ '\uFFFD' :: decodeReplacing bound (bytes.drop (index + length))

/-- The text that the bytes stand for, with replacement characters in place of what is no text. -/
def decodeLossy (bytes : List UInt8) : String :=
  String.ofList (decodeReplacing (bytes.length + 1) bytes)

/-- A continuation byte with the low six bits of the number. -/
def continuation (n : Nat) : UInt8 :=
  UInt8.ofNat (0x80 + n % 0x40)

/-- The bytes of one character. -/
def encodeChar (c : Char) : List UInt8 :=
  let n := c.toNat
  if n < 0x80 then [UInt8.ofNat n]
  else if n < 0x800 then [UInt8.ofNat (0xC0 + n / 0x40), continuation n]
  else if n < 0x10000 then
    [UInt8.ofNat (0xE0 + n / 0x1000), continuation (n / 0x40), continuation n]
  else
    [UInt8.ofNat (0xF0 + n / 0x40000), continuation (n / 0x1000), continuation (n / 0x40),
      continuation n]

theorem toNat_continuation (n : Nat) : (continuation n).toNat = 0x80 + n % 0x40 := by
  rw [continuation, UInt8.toNat_ofNat']
  omega

theorem isContinuation_continuation (n : Nat) : isContinuation (continuation n) := by
  simp only [isContinuation, Bool.and_eq_true, decide_eq_true_eq, UInt8.le_iff_toNat_le,
    toNat_continuation, UInt8.reduceToNat]
  omega

/-- A byte below or above those that continue a character. -/
theorem isContinuation_ofNat {n : Nat} (h : n < 0x80 ∨ 0xC0 ≤ n ∧ n < 0x100) :
    isContinuation (UInt8.ofNat n) = false := by
  have hn : (UInt8.ofNat n).toNat = n := by
    rw [UInt8.toNat_ofNat']
    omega
  simp only [isContinuation, Bool.and_eq_false_iff, decide_eq_false_iff_not, UInt8.le_iff_toNat_le,
    hn, UInt8.reduceToNat]
  omega

/-- A character is a code point below the last one and no surrogate. -/
theorem toNat_valid (c : Char) : c.toNat < 0xD800 ∨ 0xDFFF < c.toNat ∧ c.toNat < 0x110000 := by
  simpa [UInt32.isValidChar, Nat.isValidChar] using c.valid

/-- The first byte of a character continues none, and all others do. -/
theorem encodeChar_eq_cons (c : Char) : ∃ b bs, encodeChar c = b :: bs ∧
    isContinuation b = false ∧ ∀ b' ∈ bs, isContinuation b' := by
  have hvalid := toNat_valid c
  have hcontinuation := isContinuation_continuation
  simp only [encodeChar]
  split
  · exact ⟨_, _, rfl, isContinuation_ofNat (by omega), by simp⟩
  · split
    · exact ⟨_, _, rfl, isContinuation_ofNat (by omega), by simp [hcontinuation]⟩
    · split
      · exact ⟨_, _, rfl, isContinuation_ofNat (by omega), by simp [hcontinuation]⟩
      · exact ⟨_, _, rfl, isContinuation_ofNat (by omega), by simp [hcontinuation]⟩

/-- The bytes of the text. -/
def encode (s : String) : List UInt8 :=
  s.toList.flatMap encodeChar

end SchemaCatalog.Text.Utf8
