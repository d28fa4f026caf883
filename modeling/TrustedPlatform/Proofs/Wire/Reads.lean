import TrustedPlatform.PcrSelection
import TrustedPlatform.Proofs.Computation
import TrustedPlatform.Proofs.Number

/-!
# Reading back what was written

`reader.Reads octets value` says that the reader makes `value` of the octets and then stops,
whatever comes after them. Readers that are put together out of pieces read what the pieces read,
one after the other. A form that is read back this way shows where it ends: no other one begins in
the same input.
-/

namespace TrustedPlatform

namespace Reader

/-- The reader takes exactly `octets` off the front of its input, and gives `value`. -/
def Reads {α : Type} (reader : Reader α) (octets : Bytes) (value : α) : Prop :=
  ∀ rest, reader (octets ++ rest) = .ok value rest

namespace Reads

variable {α β : Type} {reader : Reader α} {octets octets' : Bytes} {value value' : α}

/-- Two readings of one input give one value and leave one rest. -/
theorem unique {rest rest' : Bytes} (h : reader.Reads octets value)
    (h' : reader.Reads octets' value') (heq : octets ++ rest = octets' ++ rest') :
    value = value' ∧ rest = rest' := by
  have hread := h rest
  rw [heq, h' rest'] at hread
  cases hread
  exact ⟨rfl, rfl⟩

/-! ## Readers put together -/

theorem pure (value : α) : (Pure.pure value : Reader α).Reads [] value := by
  intro rest
  rfl

theorem bind {next : α → Reader β} {result : β} (h : reader.Reads octets value)
    (hnext : (next value).Reads octets' result) :
    (reader >>= next).Reads (octets ++ octets') result := by
  intro rest
  rw [List.append_assoc]
  show EStateM.bind reader next _ = _
  rw [EStateM.bind, h]
  exact hnext rest

/-- A reader whose last piece reads nothing. -/
theorem bind_nil {next : α → Reader β} {result : β} (h : reader.Reads octets value)
    (hnext : (next value).Reads [] result) : (reader >>= next).Reads octets result := by
  have hboth := h.bind hnext
  rw [List.append_nil] at hboth
  exact hboth

theorem bind_pure {f : α → β} (h : reader.Reads octets value) :
    (reader >>= fun a => Pure.pure (f a)).Reads octets (f value) :=
  h.bind_nil (.pure (f value))

/-! ## Octets and numbers -/

theorem take (octets : Bytes) : (Reader.take octets.length).Reads octets octets := by
  intro rest
  have hlong : ¬(octets ++ rest).length < octets.length := by
    rw [List.length_append]
    omega
  rw [Reader.take, if_neg hlong, List.take_left, List.drop_left]

theorem number (octets : Bytes) :
    (Reader.number octets.length).Reads octets octets.toNat :=
  (take octets).bind_pure

theorem octet (v : UInt8) : Reader.octet.Reads [v] v := by
  have h : Reader.octet.Reads [v] (UInt8.ofNat (Bytes.toNat [v])) := (number [v]).bind_pure
  have hv : UInt8.ofNat (Bytes.toNat [v]) = v := by
    rw [show Bytes.toNat [v] = v.toNat by simp [Bytes.toNat], UInt8.ofNat_toNat]
  rw [hv] at h
  exact h

theorem word16 (v : UInt16) : Reader.word16.Reads (be16 v) v := by
  have h : Reader.word16.Reads (be16 v) (UInt16.ofNat (be16 v).toNat) := (number (be16 v)).bind_pure
  rw [toNat_be16, UInt16.ofNat_toNat] at h
  exact h

theorem word32 (v : UInt32) : Reader.word32.Reads (be32 v) v := by
  have h : Reader.word32.Reads (be32 v) (UInt32.ofNat (be32 v).toNat) := (number (be32 v)).bind_pure
  rw [toNat_be32, UInt32.ofNat_toNat] at h
  exact h

/-! ## Lists -/

/-- Items that are read back one by one are read back as a list. -/
theorem repeated {write : α → Bytes} {items : List α}
    (h : ∀ item ∈ items, reader.Reads (write item) item) :
    (Reader.repeated reader items.length).Reads (items.flatMap write) items := by
  induction items with
  | nil => exact pure []
  | cons first others ih =>
    have hfirst := h first List.mem_cons_self
    have hothers := ih fun item hitem => h item (List.mem_cons_of_mem first hitem)
    rw [List.flatMap_cons]
    exact hfirst.bind hothers.bind_pure

end Reads

end Reader

/-- Four octets show the word they are of. -/
theorem be32_injective : Function.Injective be32 := by
  intro a b heq
  -- nothing comes after either word
  have hinput : be32 a ++ [] = be32 b ++ [] := by rw [heq]
  exact ((Reader.Reads.word32 a).unique (.word32 b) hinput).1

/-! ## Selections of PCRs -/

theorem AlgId.reads (alg : AlgId) : (Wire.read : Reader AlgId).Reads (be16 alg.code) alg := by
  refine (Reader.Reads.word16 alg.code).bind_nil ?_
  rw [AlgId.ofCode?_code]
  exact .pure alg

theorem HashName.reads {alg : AlgId} (h : alg.isHash) :
    (Wire.read : Reader HashName).Reads (be16 alg.code) ⟨alg⟩ := by
  refine (AlgId.reads alg).bind_nil ?_
  rw [if_pos h]
  exact .pure (HashName.mk alg)

/-- A selection that has a form on the wire: of a bank that names a hash, in a bitmap that is not
too long. -/
structure PcrSelection.Valid (selection : PcrSelection) : Prop where
  hash : selection.hash.isHash
  bitmap : selection.bitmap.length ≤ pcrSelectMax

/-- Selections that have a form on the wire. -/
structure PcrSelections.Valid (selections : PcrSelections) : Prop where
  banks : selections.banks.length ≤ maxBanks
  each : ∀ selection ∈ selections.banks, selection.Valid

instance (selection : PcrSelection) : Decidable selection.Valid :=
  decidable_of_iff (selection.hash.isHash ∧ selection.bitmap.length ≤ pcrSelectMax)
    ⟨fun h => ⟨h.1, h.2⟩, fun h => ⟨h.hash, h.bitmap⟩⟩

instance (selections : PcrSelections) : Decidable selections.Valid :=
  decidable_of_iff
    (selections.banks.length ≤ maxBanks ∧ ∀ selection ∈ selections.banks, selection.Valid)
    ⟨fun h => ⟨h.1, h.2⟩, fun h => ⟨h.banks, h.each⟩⟩

theorem PcrSelection.reads {selection : PcrSelection} (h : selection.Valid) :
    (Wire.read : Reader PcrSelection).Reads (Wire.write selection) selection := by
  have hlength : (UInt8.ofNat selection.bitmap.length).toNat = selection.bitmap.length := by
    have := h.bitmap
    rw [UInt8.toNat_ofNat', Nat.mod_eq_of_lt]
    unfold pcrSelectMax at this
    omega
  have hcount := Reader.Reads.octet (UInt8.ofNat selection.bitmap.length)
  have hwrite : Wire.write selection = be16 selection.hash.code ++
      ([UInt8.ofNat selection.bitmap.length] ++ selection.bitmap) := List.append_assoc _ _ _
  rw [hwrite]
  refine (HashName.reads h.hash).bind (hcount.bind ?_)
  rw [hlength, if_neg (Nat.not_lt.mpr h.bitmap)]
  exact (Reader.Reads.take selection.bitmap).bind_pure

theorem PcrSelections.reads {selections : PcrSelections} (h : selections.Valid) :
    (Wire.read : Reader PcrSelections).Reads (Wire.write selections) selections := by
  have hlength : (UInt32.ofNat selections.banks.length).toNat = selections.banks.length := by
    have := h.banks
    rw [UInt32.toNat_ofNat', Nat.mod_eq_of_lt]
    unfold maxBanks at this
    omega
  have hcount := Reader.Reads.word32 (UInt32.ofNat selections.banks.length)
  have hbanks : (Reader.repeated Wire.read selections.banks.length).Reads
      (selections.banks.flatMap Wire.write) selections.banks :=
    Reader.Reads.repeated fun selection hmem => PcrSelection.reads (h.each selection hmem)
  refine hcount.bind ?_
  rw [hlength, if_neg (Nat.not_lt.mpr h.banks)]
  exact hbanks.bind_pure

end TrustedPlatform
