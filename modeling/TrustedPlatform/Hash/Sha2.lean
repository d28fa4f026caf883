import TrustedPlatform.Bytes

/-!
# The SHA-2 hash functions

All members of the family do the same to words of different size: the message is padded to whole
blocks of sixteen words, each block is expanded to a schedule of words, and each word of the
schedule turns the eight working words once. `Sha2.Parameters` holds what differs between the
sizes (shift and rotation amounts, round constants, the width of the length field), and
`Sha2.digest` is the common algorithm.
-/

namespace TrustedPlatform.Sha2

/-- The operations the algorithm uses on machine words. -/
class Word (W : Type) extends Add W, AndOp W, XorOp W, Complement W where
  /-- Octets of a word. -/
  size : Nat
  ofNat : Nat → W
  toNat : W → Nat
  rotateRight : W → Nat → W
  shiftRight : W → Nat → W

instance : Word UInt32 where
  size := 4
  ofNat := UInt32.ofNat
  toNat := UInt32.toNat
  rotateRight x n := x >>> UInt32.ofNat n ||| x <<< UInt32.ofNat (32 - n)
  shiftRight x n := x >>> UInt32.ofNat n

instance : Word UInt64 where
  size := 8
  ofNat := UInt64.ofNat
  toNat := UInt64.toNat
  rotateRight x n := x >>> UInt64.ofNat n ||| x <<< UInt64.ofNat (64 - n)
  shiftRight x n := x >>> UInt64.ofNat n

/-- What differs between the word sizes. -/
structure Parameters (W : Type) where
  /-- Rotations of the working word `a`. -/
  bigSigma0 : Nat × Nat × Nat
  /-- Rotations of the working word `e`. -/
  bigSigma1 : Nat × Nat × Nat
  /-- Two rotations and a shift of a schedule word. -/
  smallSigma0 : Nat × Nat × Nat
  /-- Two rotations and a shift of a schedule word. -/
  smallSigma1 : Nat × Nat × Nat
  /-- One constant per round. -/
  constants : List W
  /-- Octets of the field that holds the message's length in bits. -/
  lengthSize : Nat

/-- The eight working words. -/
structure State (W : Type) where
  a : W
  b : W
  c : W
  d : W
  e : W
  f : W
  g : W
  h : W

section

variable {W : Type} [Word W]

/-- Three rotations, added bit by bit. -/
def rotations (amounts : Nat × Nat × Nat) (x : W) : W :=
  Word.rotateRight x amounts.1 ^^^ Word.rotateRight x amounts.2.1 ^^^ Word.rotateRight x amounts.2.2

/-- Two rotations and a shift, added bit by bit. -/
def rotationsAndShift (amounts : Nat × Nat × Nat) (x : W) : W :=
  Word.rotateRight x amounts.1 ^^^ Word.rotateRight x amounts.2.1 ^^^ Word.shiftRight x amounts.2.2

/-- The `count` schedule words that start with the window of sixteen words `window`. -/
def schedule (p : Parameters W) : (count : Nat) → (window : List W) → List W
  | 0, _ => []
  | _ + 1, [] => []
  | count + 1, word :: others =>
    let later (i : Nat) : W := others.getD i (Word.ofNat 0)
    let next := rotationsAndShift p.smallSigma1 (later 13) + later 8
      + rotationsAndShift p.smallSigma0 (later 0) + word
    word :: schedule p count (others ++ [next])

/-- One round, with a round constant and a schedule word. -/
def round (p : Parameters W) (s : State W) (input : W × W) : State W :=
  let choice := (s.e &&& s.f) ^^^ (~~~s.e &&& s.g)
  let majority := (s.a &&& s.b) ^^^ (s.a &&& s.c) ^^^ (s.b &&& s.c)
  let t1 := s.h + rotations p.bigSigma1 s.e + choice + input.1 + input.2
  let t2 := rotations p.bigSigma0 s.a + majority
  ⟨t1 + t2, s.a, s.b, s.c, s.d + t1, s.e, s.f, s.g⟩

/-- The working words after a block of sixteen words. -/
def compress (p : Parameters W) (s : State W) (block : List W) : State W :=
  let words := schedule p p.constants.length block
  let t := (p.constants.zip words).foldl (round p) s
  ⟨s.a + t.a, s.b + t.b, s.c + t.c, s.d + t.d, s.e + t.e, s.f + t.f, s.g + t.g, s.h + t.h⟩

/-- The first `count` pieces of `size` items each. -/
def pieces {α : Type} (size : Nat) : (count : Nat) → List α → List (List α)
  | 0, _ => []
  | count + 1, items => items.take size :: pieces size count (items.drop size)

/-- Octets of a block. -/
def blockSize (W : Type) [Word W] : Nat := 16 * Word.size W

/-- The message, a one bit, zeros up to a block boundary, and the length in bits at the end. -/
def padded (p : Parameters W) (message : Bytes) : Bytes :=
  let used := message.length + 1 + p.lengthSize
  let fill := (blockSize W - used % blockSize W) % blockSize W
  message ++ [0x80] ++ Bytes.zeros fill ++ Bytes.ofNat p.lengthSize (8 * message.length)

/-- The words of a block. -/
def blockWords (block : Bytes) : List W :=
  (pieces (Word.size W) 16 block).map fun octets => Word.ofNat (Bytes.toNat octets)

/-- The octets of the working words. -/
def State.bytes (s : State W) : Bytes :=
  [s.a, s.b, s.c, s.d, s.e, s.f, s.g, s.h].flatMap fun w => Bytes.ofNat (Word.size W) (Word.toNat w)

/-- The first `size` octets of the hash of `message`, from the starting words `initial`. -/
def digest (p : Parameters W) (initial : State W) (size : Nat) (message : Bytes) : Bytes :=
  let input := padded p message
  let blocks := pieces (blockSize W) (input.length / blockSize W) input
  let final := blocks.foldl (fun s block => compress p s (blockWords block)) initial
  final.bytes.take size

end

/-! ## Words of 32 bits -/

/-- The parameters for words of 32 bits. -/
def parameters32 : Parameters UInt32 where
  bigSigma0 := (2, 13, 22)
  bigSigma1 := (6, 11, 25)
  smallSigma0 := (7, 18, 3)
  smallSigma1 := (17, 19, 10)
  lengthSize := 8
  constants := [
    0x428a2f98, 0x71374491, 0xb5c0fbcf, 0xe9b5dba5, 0x3956c25b, 0x59f111f1, 0x923f82a4, 0xab1c5ed5,
    0xd807aa98, 0x12835b01, 0x243185be, 0x550c7dc3, 0x72be5d74, 0x80deb1fe, 0x9bdc06a7, 0xc19bf174,
    0xe49b69c1, 0xefbe4786, 0x0fc19dc6, 0x240ca1cc, 0x2de92c6f, 0x4a7484aa, 0x5cb0a9dc, 0x76f988da,
    0x983e5152, 0xa831c66d, 0xb00327c8, 0xbf597fc7, 0xc6e00bf3, 0xd5a79147, 0x06ca6351, 0x14292967,
    0x27b70a85, 0x2e1b2138, 0x4d2c6dfc, 0x53380d13, 0x650a7354, 0x766a0abb, 0x81c2c92e, 0x92722c85,
    0xa2bfe8a1, 0xa81a664b, 0xc24b8b70, 0xc76c51a3, 0xd192e819, 0xd6990624, 0xf40e3585, 0x106aa070,
    0x19a4c116, 0x1e376c08, 0x2748774c, 0x34b0bcb5, 0x391c0cb3, 0x4ed8aa4a, 0x5b9cca4f, 0x682e6ff3,
    0x748f82ee, 0x78a5636f, 0x84c87814, 0x8cc70208, 0x90befffa, 0xa4506ceb, 0xbef9a3f7, 0xc67178f2]

/-- The starting words of SHA-256. -/
def initial256 : State UInt32 :=
  ⟨0x6a09e667, 0xbb67ae85, 0x3c6ef372, 0xa54ff53a, 0x510e527f, 0x9b05688c, 0x1f83d9ab, 0x5be0cd19⟩

/-- SHA-256. -/
def sha256 (message : Bytes) : Bytes := digest parameters32 initial256 32 message

/-! ## Words of 64 bits -/

/-- The parameters for words of 64 bits. -/
def parameters64 : Parameters UInt64 where
  bigSigma0 := (28, 34, 39)
  bigSigma1 := (14, 18, 41)
  smallSigma0 := (1, 8, 7)
  smallSigma1 := (19, 61, 6)
  lengthSize := 16
  constants := [
    0x428a2f98d728ae22, 0x7137449123ef65cd, 0xb5c0fbcfec4d3b2f, 0xe9b5dba58189dbbc,
    0x3956c25bf348b538, 0x59f111f1b605d019, 0x923f82a4af194f9b, 0xab1c5ed5da6d8118,
    0xd807aa98a3030242, 0x12835b0145706fbe, 0x243185be4ee4b28c, 0x550c7dc3d5ffb4e2,
    0x72be5d74f27b896f, 0x80deb1fe3b1696b1, 0x9bdc06a725c71235, 0xc19bf174cf692694,
    0xe49b69c19ef14ad2, 0xefbe4786384f25e3, 0x0fc19dc68b8cd5b5, 0x240ca1cc77ac9c65,
    0x2de92c6f592b0275, 0x4a7484aa6ea6e483, 0x5cb0a9dcbd41fbd4, 0x76f988da831153b5,
    0x983e5152ee66dfab, 0xa831c66d2db43210, 0xb00327c898fb213f, 0xbf597fc7beef0ee4,
    0xc6e00bf33da88fc2, 0xd5a79147930aa725, 0x06ca6351e003826f, 0x142929670a0e6e70,
    0x27b70a8546d22ffc, 0x2e1b21385c26c926, 0x4d2c6dfc5ac42aed, 0x53380d139d95b3df,
    0x650a73548baf63de, 0x766a0abb3c77b2a8, 0x81c2c92e47edaee6, 0x92722c851482353b,
    0xa2bfe8a14cf10364, 0xa81a664bbc423001, 0xc24b8b70d0f89791, 0xc76c51a30654be30,
    0xd192e819d6ef5218, 0xd69906245565a910, 0xf40e35855771202a, 0x106aa07032bbd1b8,
    0x19a4c116b8d2d0c8, 0x1e376c085141ab53, 0x2748774cdf8eeb99, 0x34b0bcb5e19b48a8,
    0x391c0cb3c5c95a63, 0x4ed8aa4ae3418acb, 0x5b9cca4f7763e373, 0x682e6ff3d6b2b8a3,
    0x748f82ee5defb2fc, 0x78a5636f43172f60, 0x84c87814a1f0ab72, 0x8cc702081a6439ec,
    0x90befffa23631e28, 0xa4506cebde82bde9, 0xbef9a3f7b2c67915, 0xc67178f2e372532b,
    0xca273eceea26619c, 0xd186b8c721c0c207, 0xeada7dd6cde0eb1e, 0xf57d4f7fee6ed178,
    0x06f067aa72176fba, 0x0a637dc5a2c898a6, 0x113f9804bef90dae, 0x1b710b35131c471b,
    0x28db77f523047d84, 0x32caab7b40c72493, 0x3c9ebe0a15c9bebc, 0x431d67c49c100d4c,
    0x4cc5d4becb3e42b6, 0x597f299cfc657e2a, 0x5fcb6fab3ad6faec, 0x6c44198c4a475817]

/-- The starting words of SHA-384. -/
def initial384 : State UInt64 :=
  ⟨0xcbbb9d5dc1059ed8, 0x629a292a367cd507, 0x9159015a3070dd17, 0x152fecd8f70e5939,
    0x67332667ffc00b31, 0x8eb44a8768581511, 0xdb0c2e0d64f98fa7, 0x47b5481dbefa4fa4⟩

/-- The starting words of SHA-512. -/
def initial512 : State UInt64 :=
  ⟨0x6a09e667f3bcc908, 0xbb67ae8584caa73b, 0x3c6ef372fe94f82b, 0xa54ff53a5f1d36f1,
    0x510e527fade682d1, 0x9b05688c2b3e6c1f, 0x1f83d9abfb41bd6b, 0x5be0cd19137e2179⟩

/-- SHA-384. -/
def sha384 (message : Bytes) : Bytes := digest parameters64 initial384 48 message

/-- SHA-512. -/
def sha512 (message : Bytes) : Bytes := digest parameters64 initial512 64 message

end TrustedPlatform.Sha2
