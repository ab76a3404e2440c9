/-!
# UTF-8 with replacement

Paths and host files are bytes, and the program shows them as text. `encode` writes characters as
bytes. `scan` reads bytes as characters and marks every maximal invalid sequence once; reading
either gives up at the first mark (`decode?`) or shows each mark as U+FFFD (`decodeLossy`).
-/

namespace TreePlan.Utf8

/-- The bytes of a text. -/
def encode (text : List Char) : List UInt8 :=
  text.flatMap String.utf8EncodeChar

/-- A byte that may follow the second byte of a sequence. -/
def isTail (b : UInt8) : Bool := 0x80 ≤ b && b ≤ 0xBF

/-- The two bytes are a whole character. -/
def isPair (a b : UInt8) : Bool := 0xC2 ≤ a && a ≤ 0xDF && isTail b

/-- The two bytes begin a character of three bytes: no overlong form and no surrogate. -/
def opensTriple (a b : UInt8) : Bool :=
  (a == 0xE0 && 0xA0 ≤ b && b ≤ 0xBF) ||
  (0xE1 ≤ a && a ≤ 0xEC && isTail b) ||
  (a == 0xED && 0x80 ≤ b && b ≤ 0x9F) ||
  (0xEE ≤ a && a ≤ 0xEF && isTail b)

/-- The two bytes begin a character of four bytes: no overlong form and none above U+10FFFF. -/
def opensQuad (a b : UInt8) : Bool :=
  (a == 0xF0 && 0x90 ≤ b && b ≤ 0xBF) ||
  (0xF1 ≤ a && a ≤ 0xF3 && isTail b) ||
  (a == 0xF4 && 0x80 ≤ b && b ≤ 0x8F)

/-- The low six bits of a following byte. -/
def tailBits (b : UInt8) : Nat := b.toNat % 64

/-- The characters of a byte sequence, with `none` for each maximal invalid sequence: the longest
run of bytes that begins a character and cannot be continued, or else one byte. -/
def scan : List UInt8 → List (Option Char)
  | [] => []
  | a :: rest =>
    if a < 0x80 then some (Char.ofNat a.toNat) :: scan rest
    else match rest with
      | [] => [none]
      | b :: rest₁ =>
        if isPair a b then
          some (Char.ofNat (a.toNat % 32 * 64 + tailBits b)) :: scan rest₁
        else if opensTriple a b then
          match rest₁ with
          | [] => [none]
          | c :: rest₂ =>
            if isTail c then
              some (Char.ofNat ((a.toNat % 16 * 64 + tailBits b) * 64 + tailBits c)) :: scan rest₂
            -- the byte that breaks a sequence off is read again, as the first of the next
            else none :: scan (c :: rest₂)
        else if opensQuad a b then
          match rest₁ with
          | [] => [none]
          | c :: rest₂ =>
            if isTail c then
              match rest₂ with
              | [] => [none]
              | d :: rest₃ =>
                if isTail d then
                  some (Char.ofNat (((a.toNat % 8 * 64 + tailBits b) * 64 + tailBits c) * 64
                    + tailBits d)) :: scan rest₃
                else none :: scan (d :: rest₃)
            else none :: scan (c :: rest₂)
        else none :: scan (b :: rest₁)

/-- The replacement character. -/
def replacement : Char := '\uFFFD'

/-- The text of a byte sequence, each maximal invalid sequence shown as U+FFFD. -/
def decodeLossy (bytes : List UInt8) : List Char :=
  (scan bytes).map (·.getD replacement)

/-- The text of a byte sequence, if all of it is valid. -/
def decode? (bytes : List UInt8) : Option (List Char) :=
  (scan bytes).mapM id

end TreePlan.Utf8
