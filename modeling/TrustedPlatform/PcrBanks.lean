import TrustedPlatform.Hash.Hmac
import TrustedPlatform.Fault
import TrustedPlatform.PcrSelection

/-!
# PCR banks

One bank of registers per implemented hash, all starting at zero. A register is never set, only
extended: in each bank its value becomes the bank's hash of the old value and the hash of the data.
A counter counts the extends.
-/

namespace TrustedPlatform

/-- The registers of every bank, and how often one was extended. -/
structure PcrBanks where
  /-- The values of the registers of the bank of a hash. -/
  values : HashId → List Bytes
  updateCounter : UInt32

namespace PcrBanks

/-- All registers at zero. -/
def initial : PcrBanks where
  values hash := List.replicate pcrCount (Bytes.zeros hash.digestSize)
  updateCounter := 0

/-- The value of a register after it is extended by `data`. -/
def extended (hash : HashId) (data old : Bytes) : Bytes :=
  hash.digest (old ++ hash.digest data)

/-- Extends register `index` of every bank by `data`; a `Cause.value` if there is no such
register. -/
def extend (banks : PcrBanks) (index : Nat) (data : Bytes) : Except Cause PcrBanks :=
  if index ≥ pcrCount then .error .value
  else
    let sha256 := (banks.values .sha256).modify index (extended .sha256 data)
    let sha384 := (banks.values .sha384).modify index (extended .sha384 data)
    let sha512 := (banks.values .sha512).modify index (extended .sha512 data)
    .ok {
      values := fun
        | .sha256 => sha256
        | .sha384 => sha384
        | .sha512 => sha512
      updateCounter := banks.updateCounter + 1 }

/-- The value of register `index` of the bank of `alg`, if there is one. -/
def read (banks : PcrBanks) (index : Nat) (alg : AlgId) : Option Bytes := do
  let hash ← alg.hash?
  (banks.values hash)[index]?

/-- The values of the registers `indices` of a bank; a breach if there is no such register. -/
def valuesAt (registers : List Bytes) : (indices : List Nat) → Except Stop (List Bytes)
  | [] => .ok []
  | index :: indices => do
    match registers[index]? with
    | some value => return value :: (← valuesAt registers indices)
    | none => throw (.breach .pcrOutOfRange)

/-- The values of the selected registers, in the order of the selections; a `Cause.value` if one
names a bank that does not exist. -/
def selectedValues (banks : PcrBanks) : (selections : List PcrSelection) →
    Except Stop (List Bytes)
  | [] => .ok []
  | selection :: selections => do
    match selection.hash.hash? with
    | some hash =>
      let values ← valuesAt (banks.values hash) selection.selected
      return values ++ (← banks.selectedValues selections)
    | none => throw (.ofCause .value)

/-- The hash, with `alg`, of the values of the selected registers. -/
def digest (banks : PcrBanks) (selections : PcrSelections) (alg : AlgId) : Except Stop Bytes := do
  let values ← banks.selectedValues selections.banks
  match alg.hash? with
  | some hash => return hash.digest values.flatten
  | none => throw (.ofCause .value)

end PcrBanks

end TrustedPlatform
