import Mathlib.Algebra.Group.Nat.Defs
import Mathlib.Data.List.Induction
import TrustedPlatform.Bytes
import TrustedPlatform.Number.Modular

/-!
# Numbers and their octets, and powers

The two directions between numbers and octets agree, and repeated squaring computes powers.
-/

namespace TrustedPlatform

namespace Bytes

theorem toNat_concat (b : Bytes) (x : UInt8) : toNat (b ++ [x]) = toNat b * 256 + x.toNat := by
  simp [toNat]

/-- Reading back what was written gives the number, cut to the width. -/
theorem toNat_ofNat (width n : Nat) : toNat (ofNat width n) = n % 256 ^ width := by
  induction width generalizing n with
  | zero => simp [ofNat, toNat, Nat.mod_one]
  | succ w ih =>
    have octet : (UInt8.ofNat n).toNat = n % 256 := by simp
    rw [ofNat, toNat_concat, ih, octet, Nat.pow_succ, Nat.mul_comm (256 ^ w) 256, Nat.mod_mul]
    omega

/-- Octets are what is written for the number they stand for. -/
theorem ofNat_toNat (b : Bytes) : ofNat b.length b.toNat = b := by
  induction b using List.reverseRecOn with
  | nil => rfl
  | append_singleton front x ih =>
    have hx := x.toNat_lt
    have hfront : (toNat front * 256 + x.toNat) / 256 = toNat front := by omega
    have hlast : UInt8.ofNat (toNat front * 256 + x.toNat) = x := by
      apply UInt8.toNat_inj.mp
      rw [UInt8.toNat_ofNat']
      omega
    rw [List.length_append, List.length_singleton, toNat_concat, ofNat, hfront, hlast, ih]

theorem toNat_lt (b : Bytes) : b.toNat < 256 ^ b.length := by
  have hpos : 0 < 256 ^ b.length := Nat.pow_pos (by decide)
  calc b.toNat = (ofNat b.length b.toNat).toNat := by rw [ofNat_toNat]
    _ = b.toNat % 256 ^ b.length := toNat_ofNat ..
    _ < 256 ^ b.length := Nat.mod_lt _ hpos

end Bytes

/-! ## Words -/

@[simp] theorem toNat_be16 (v : UInt16) : (be16 v).toNat = v.toNat := by
  rw [be16, Bytes.toNat_ofNat]
  exact Nat.mod_eq_of_lt v.toNat_lt

@[simp] theorem toNat_be32 (v : UInt32) : (be32 v).toNat = v.toNat := by
  rw [be32, Bytes.toNat_ofNat]
  exact Nat.mod_eq_of_lt v.toNat_lt

@[simp] theorem toNat_be64 (v : UInt64) : (be64 v).toNat = v.toNat := by
  rw [be64, Bytes.toNat_ofNat]
  exact Nat.mod_eq_of_lt v.toNat_lt

namespace Modular

theorem powBits_eq (m : Nat) : ∀ bits a n : Nat, n < 2 ^ bits → powBits m bits a n = a ^ n % m
  | 0, a, n, h => by
    obtain rfl : n = 0 := by simpa using h
    simp [powBits]
  | bits + 1, a, n, h => by
    have half : n / 2 < 2 ^ bits := by rw [Nat.pow_succ] at h; omega
    have square : (a * a % m) ^ (n / 2) % m = a ^ (2 * (n / 2)) % m := by
      rw [← Nat.pow_mod, Nat.pow_mul, Nat.pow_two]
    rw [powBits, powBits_eq m bits _ _ half, square]
    by_cases odd : n % 2 = 1
    · rw [if_pos odd, Nat.mod_mul_mod, ← Nat.pow_succ]
      congr 2
      omega
    · rw [if_neg odd]
      congr 2
      omega

/-- Squaring and multiplying computes the power. -/
theorem pow_eq (m a n : Nat) : pow m a n = a ^ n % m := by
  rw [pow, powBits_eq _ _ _ _ Nat.lt_log2_self, ← Nat.pow_mod]

end Modular

end TrustedPlatform
