import TrustedPlatform.Algorithm

/-!
# PCR selections

A selection names a bank by its hash and carries a bitmap: bit `i % 8` of octet `i / 8` stands for
PCR `i`. `PcrSelection.ofIndices` sets bits, `PcrSelection.selected` lists the indices whose bit is
set, in ascending order.
-/

namespace TrustedPlatform

/-- Octets of a bitmap over all PCRs of a bank. -/
def pcrSelectMax : Nat := 3

/-- PCRs in a bank. -/
def pcrCount : Nat := pcrSelectMax * 8

/-- Banks a selection list may name. -/
def maxBanks : Nat := 4

/-- PCRs of one bank. -/
structure PcrSelection where
  hash : AlgId
  bitmap : Bytes
  deriving DecidableEq, Repr

namespace PcrSelection

/-- The bitmap with the bit of PCR `pcr` set; a bit past the end is ignored. -/
def setBit (bitmap : Bytes) (pcr : Nat) : Bytes :=
  bitmap.modify (pcr / 8) (· ||| (1 <<< UInt8.ofNat (pcr % 8)))

/-- The PCRs `pcrs` of the bank of `hash`; indices past the last PCR are ignored. -/
def ofIndices (hash : AlgId) (pcrs : List UInt32) : PcrSelection :=
  ⟨hash, pcrs.foldl (fun bitmap pcr => setBit bitmap pcr.toNat) (Bytes.zeros pcrSelectMax)⟩

/-- The indices of the bits set in `octet`, whose lowest bit stands for PCR `first`. -/
def selectedFrom (first : Nat) (octet : UInt8) : List Nat :=
  ((List.range 8).filter octet.toNat.testBit).map (first + ·)

/-- The selected indices, ascending. -/
def selected (selection : PcrSelection) : List Nat :=
  selection.bitmap.zipIdx.flatMap fun (octet, i) => selectedFrom (8 * i) octet

instance : Wire PcrSelection where
  write selection :=
    be16 selection.hash.code ++ [UInt8.ofNat selection.bitmap.length] ++ selection.bitmap
  read := do
    let hash ← (Wire.read : Reader HashName)
    let length ← Reader.octet
    if length.toNat > pcrSelectMax then throw .value
    return ⟨hash.alg, ← Reader.take length.toNat⟩

end PcrSelection

/-- PCRs of several banks. -/
structure PcrSelections where
  banks : List PcrSelection
  deriving DecidableEq, Repr

namespace PcrSelections

/-- PCRs of one bank only. -/
def single (hash : AlgId) (pcrs : List UInt32) : PcrSelections :=
  ⟨[PcrSelection.ofIndices hash pcrs]⟩

instance : Wire PcrSelections where
  write selections :=
    be32 (UInt32.ofNat selections.banks.length) ++ selections.banks.flatMap Wire.write
  read := do
    let count ← Reader.word32
    if count.toNat > maxBanks then throw .size
    return ⟨← Reader.repeated Wire.read count.toNat⟩

end PcrSelections

end TrustedPlatform
