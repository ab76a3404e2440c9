import TreePlan.Digest.Blake3
import TreePlan.Path.Normal
import TreePlan.Text.Canonical

/-!
# Path keys

Every store is keyed by a digest of a path's normal form, so spellings of one path share a slot. A
hasher is any function from paths to keys; the usual one is the BLAKE3 hash of the composed text of
the normal form.
-/

namespace TreePlan

/-- The text that stands for a path whatever its spelling: its normal form as composed text. -/
def Path.normalText (p : Path) : String :=
  String.ofList (Canonical.nfc (Utf8.decodeLossy p.normalize.bytes))

/-- A key of 32 bytes. -/
structure PathKey where
  /-- The bytes of the key. -/
  bytes : Vector UInt8 32
deriving DecidableEq

/-- A total mapping from paths to keys. -/
abbrev Hasher := Path → PathKey

namespace PathKey

instance : Inhabited PathKey := ⟨⟨Vector.replicate 32 0⟩⟩

/-- A digit of a number below sixteen. -/
def hexDigit (n : Nat) : Char :=
  if n < 10 then Char.ofNat (48 + n) else Char.ofNat (87 + n)

/-- The digits of bytes, two each. -/
def hexDigits (bytes : List UInt8) : List Char :=
  bytes.flatMap fun b => [hexDigit (b.toNat / 16), hexDigit (b.toNat % 16)]

/-- The key as 64 digits. -/
def hex (k : PathKey) : String := String.ofList (hexDigits k.bytes.toList)

/-- The first seven digits, for people to read. -/
def short (k : PathKey) : String := String.ofList ((hexDigits k.bytes.toList).take 7)

/-- The key with its short form, as it is shown in diagnostics. -/
def debugText (k : PathKey) : String := "PathKey(" ++ k.short ++ ")"

/-- The hash of a path's normal text. -/
def ofPath : Hasher := fun p => ⟨Blake3.hash (Utf8.encode p.normalText.toList)⟩

end PathKey

end TreePlan
