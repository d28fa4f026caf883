import Mathlib.Algebra.Group.Nat.Defs
import TrustedPlatform.Handle

/-!
# Handles

What a handle is made of, when the handles of consecutive indices come round, and what is found in a
list of things that are kept under handles.
-/

namespace TrustedPlatform

/-- The next index and those after it. -/
theorem add_one_add_ofNat (index : UInt32) (n : Nat) :
    index + 1 + UInt32.ofNat n = index + UInt32.ofNat (n + 1) := by
  rw [UInt32.ofNat_add, UInt32.add_assoc, UInt32.add_comm 1]
  rfl

namespace HandleKind

theorem toNat_and_index (index : UInt32) :
    (index &&& 0x00FFFFFF).toNat = index.toNat % 2 ^ 24 := by
  rw [UInt32.toNat_and]
  show index.toNat &&& 2 ^ 24 - 1 = _
  exact Nat.and_two_pow_sub_one_eq_mod ..

/-- The index of a handle does not reach into its most significant octet. -/
theorem octet_handle (kind : HandleKind) (index : UInt32) :
    (kind.handle index >>> 24).toUInt8 = kind.octet := by
  have hindex : (index &&& 0x00FFFFFF) >>> 24 = 0 := by
    apply UInt32.toNat_inj.mp
    rw [UInt32.toNat_shiftRight, toNat_and_index]
    show (index.toNat % 2 ^ 24) >>> 24 = 0
    rw [Nat.shiftRight_eq_div_pow]
    omega
  rw [handle, UInt32.shiftRight_or, hindex, UInt32.or_zero]
  cases kind <;> decide

/-- A handle is the octet of its kind and the low 24 bits of its index. -/
theorem toNat_handle (kind : HandleKind) (index : UInt32) :
    (kind.handle index).toNat = kind.octet.toNat * 2 ^ 24 + index.toNat % 2 ^ 24 := by
  have hbase : kind.base.toNat = kind.octet.toNat * 2 ^ 24 := by
    cases kind <;> decide
  have hlt : index.toNat % 2 ^ 24 < 2 ^ 24 := Nat.mod_lt _ (by decide)
  rw [handle, UInt32.toNat_or, hbase, toNat_and_index, ← Nat.shiftLeft_eq,
    ← Nat.shiftLeft_add_eq_or_of_lt hlt]

/-- Indices that are less than a range apart give different handles. -/
theorem eq_of_handle_add_eq (kind : HandleKind) (index : UInt32) {i j : Nat} (hi : i < 2 ^ 24)
    (hj : j < 2 ^ 24)
    (h : kind.handle (index + UInt32.ofNat i) = kind.handle (index + UInt32.ofNat j)) : i = j := by
  have hnat := congrArg UInt32.toNat h
  rw [toNat_handle, toNat_handle, UInt32.toNat_add, UInt32.toNat_add, UInt32.toNat_ofNat',
    UInt32.toNat_ofNat'] at hnat
  omega

/-- The handles of a kind come round after a range of indices, and not before. -/
theorem handle_add_eq_iff (kind : HandleKind) (index : UInt32) (n : Nat) :
    kind.handle (index + UInt32.ofNat n) = kind.handle index ↔ 2 ^ 24 ∣ n := by
  rw [← UInt32.toNat_inj, toNat_handle, toNat_handle, UInt32.toNat_add, UInt32.toNat_ofNat']
  omega

theorem of?_handle (kind : HandleKind) (index : UInt32) :
    of? (kind.handle index) = some kind := by
  unfold of?
  rw [octet_handle]
  cases kind <;> decide

end HandleKind

/-! ## Things kept under handles -/

namespace Handle

variable {α : Type} {value : α} {handle other : UInt32}

theorem lookup_cons (key : UInt32) (value : α) (entries : List (UInt32 × α)) :
    ((key, value) :: entries).lookup other =
      if other = key then some value else entries.lookup other := by
  rw [List.lookup_cons]
  by_cases h : other = key
  · rw [if_pos h, beq_iff_eq.mpr h]
  · rw [if_neg h, beq_eq_false_iff_ne.mpr h]

theorem lookup_map_replace (entries : List (UInt32 × α)) :
    (entries.map fun entry => if entry.1 = handle then (handle, value) else entry).lookup other =
      if other = handle then (entries.lookup handle).map fun _ => value
      else entries.lookup other := by
  induction entries with
  | nil => simp
  | cons entry entries ih =>
    obtain ⟨key, first⟩ := entry
    rw [List.map_cons, lookup_cons, lookup_cons]
    -- is the entry the one that is replaced, and is it the one that is looked up?
    by_cases hkey : key = handle
    · rw [if_pos hkey, lookup_cons, ih, if_pos hkey.symm, hkey]
      by_cases hother : other = handle
      · rw [if_pos hother, if_pos hother]
        rfl
      · rw [if_neg hother, if_neg hother, if_neg hother, if_neg hother]
    · rw [if_neg hkey, lookup_cons, ih, if_neg (Ne.symm hkey)]
      by_cases hother : other = handle
      · rw [if_pos hother, if_pos hother, if_neg (hother ▸ Ne.symm hkey)]
      · rw [if_neg hother, if_neg hother]

theorem lookup_filter_ne (entries : List (UInt32 × α)) :
    (entries.filter (·.1 ≠ handle)).lookup other =
      if other = handle then none else entries.lookup other := by
  induction entries with
  | nil => simp
  | cons entry entries ih =>
    obtain ⟨key, first⟩ := entry
    rw [lookup_cons]
    by_cases hkey : key = handle
    · rw [List.filter_cons_of_neg (by simpa using hkey), ih, hkey]
      by_cases hother : other = handle
      · rw [if_pos hother, if_pos hother]
      · rw [if_neg hother, if_neg hother, if_neg hother]
    · rw [List.filter_cons_of_pos (by simpa using hkey), lookup_cons, ih]
      by_cases hother : other = handle
      · rw [if_pos hother, if_pos hother, if_neg (hother ▸ Ne.symm hkey)]
      · rw [if_neg hother, if_neg hother]

end Handle

end TrustedPlatform
