/-!
# Byte strings

Everything the engine reads, writes, hashes or signs is a list of octets. Numbers travel
most significant byte first; `Bytes.ofNat` and `Bytes.toNat` are the two directions, and the
`be16`, `be32`, `be64` writers are `Bytes.ofNat` at the width of their word.
-/

namespace TrustedPlatform

/-- A string of octets, first octet first. -/
abbrev Bytes := List UInt8

namespace Bytes

/-- The `width` octets of `n` modulo `256 ^ width`, most significant first. -/
def ofNat : (width : Nat) → (n : Nat) → Bytes
  | 0, _ => []
  | width + 1, n => ofNat width (n / 256) ++ [UInt8.ofNat n]

/-- The number whose octets these are, most significant first. -/
def toNat (b : Bytes) : Nat :=
  b.foldl (fun n x => n * 256 + x.toNat) 0

/-- `n` zero octets. -/
def zeros (n : Nat) : Bytes :=
  List.replicate n 0

@[simp] theorem length_ofNat (width n : Nat) : (ofNat width n).length = width := by
  induction width generalizing n with
  | zero => rfl
  | succ w ih => simp [ofNat, ih]

@[simp] theorem length_zeros (n : Nat) : (zeros n).length = n := List.length_replicate

end Bytes

/-- The two octets of a 16-bit word. -/
def be16 (v : UInt16) : Bytes := Bytes.ofNat 2 v.toNat

/-- The four octets of a 32-bit word. -/
def be32 (v : UInt32) : Bytes := Bytes.ofNat 4 v.toNat

/-- The eight octets of a 64-bit word. -/
def be64 (v : UInt64) : Bytes := Bytes.ofNat 8 v.toNat

@[simp] theorem length_be16 (v : UInt16) : (be16 v).length = 2 := Bytes.length_ofNat ..

@[simp] theorem length_be32 (v : UInt32) : (be32 v).length = 4 := Bytes.length_ofNat ..

@[simp] theorem length_be64 (v : UInt64) : (be64 v).length = 8 := Bytes.length_ofNat ..

end TrustedPlatform
