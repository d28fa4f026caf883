import TrustedPlatform.Authorization
import TrustedPlatform.PcrSelection
import TrustedPlatform.Proofs.Computation
import TrustedPlatform.Signature
import TrustedPlatform.SymmetricDefinition
import TrustedPlatform.Ticket

/-!
# Readers put together out of pieces

The reader of every wire type takes pieces off the front of its input, looks at them, and goes on or
stops; it never asks how much input there is. So what it makes of its input depends on what it has
taken alone: with more input behind it ends in the same way, unless it ran out of input before.
-/

namespace TrustedPlatform

namespace Reader

/-- The reader takes pieces off the front of its input, and does nothing else with it. -/
inductive Piecewise : {α : Type} → Reader α → Prop
  | pure {α : Type} (value : α) : Piecewise (Pure.pure value : Reader α)
  | throw {α : Type} (cause : Cause) : Piecewise (MonadExcept.throw cause : Reader α)
  | take (n : Nat) : Piecewise (Reader.take n)
  | bind {α β : Type} {reader : Reader α} {next : α → Reader β} (h : Piecewise reader)
    (hnext : ∀ value, Piecewise (next value)) : Piecewise (reader >>= next)

namespace Piecewise

variable {α β : Type} {reader : Reader α} {input rest more : Bytes}

/-! ## Readers put together -/

theorem ite {c : Prop} [Decidable c] {other : Reader α} (h : Piecewise reader)
    (hother : Piecewise other) : Piecewise (if c then reader else other) := by
  split
  · exact h
  · exact hother

/-- A check that refuses, or goes on. -/
theorem check {c : Prop} [Decidable c] {cause : Cause} {next : Unit → Reader β}
    (h : ∀ u, Piecewise (next u)) :
    Piecewise (if c then MonadExcept.throw cause >>= next else next ()) :=
  ite ((throw cause).bind h) (h ())

theorem number (width : Nat) : Piecewise (Reader.number width) :=
  (take width).bind fun _ => pure _

theorem octet : Piecewise Reader.octet := (number 1).bind fun _ => pure _

theorem word16 : Piecewise Reader.word16 := (number 2).bind fun _ => pure _

theorem word32 : Piecewise Reader.word32 := (number 4).bind fun _ => pure _

theorem int32 : Piecewise Reader.int32 := word32.bind fun _ => pure _

theorem sized (max : Nat) : Piecewise (Reader.sized max) :=
  word16.bind fun _ => check fun _ => take _

theorem repeated {item : Reader α} (h : Piecewise item) (count : Nat) :
    Piecewise (Reader.repeated item count) := by
  induction count with
  | zero => exact pure []
  | succ count ih => exact h.bind fun _ => ih.bind fun _ => pure _

/-! ## More input -/

theorem take_append_of_ok {n : Nat} {octets : Bytes} (h : Reader.take n input = .ok octets rest) :
    Reader.take n (input ++ more) = .ok octets (rest ++ more) := by
  unfold Reader.take at h ⊢
  split at h
  · cases h
  · rename_i hlong
    cases h
    have hfront : n ≤ input.length := Nat.not_lt.mp hlong
    have hmore : ¬(input ++ more).length < n := by
      rw [List.length_append]
      omega
    rw [if_neg hmore, List.take_append_of_le_length hfront, List.drop_append_of_le_length hfront]

/-- A value that was read is read with more input too, which is left unread. -/
theorem append_of_ok (h : Piecewise reader) {value : α} (hread : reader input = .ok value rest) :
    reader (input ++ more) = .ok value (rest ++ more) := by
  induction h generalizing input rest with
  | pure _ =>
    obtain ⟨rfl, rfl⟩ := EStateM.pure_eq_ok_iff.mp hread
    rfl
  | throw _ => exact (EStateM.throw_eq_ok_iff.mp hread).elim
  | take _ => exact take_append_of_ok hread
  | bind _ _ ih ihnext =>
    obtain ⟨first, middle, hfirst, hothers⟩ := EStateM.bind_eq_ok_iff.mp hread
    rw [EStateM.bind_of_ok (ih hfirst)]
    exact ihnext first hothers

/-- An input that was refused, and not because it was too short, is refused with more input too. -/
theorem append_of_error (h : Piecewise reader) {cause : Cause}
    (hread : reader input = .error cause rest) (hcause : cause ≠ .size) :
    reader (input ++ more) = .error cause (rest ++ more) := by
  induction h generalizing input rest with
  | pure _ => cases hread
  | throw _ =>
    cases hread
    rfl
  | take n =>
    -- a piece is refused for its size only
    unfold Reader.take at hread
    split at hread
    · cases hread
      exact absurd rfl hcause
    · cases hread
  | @bind _ _ reader next hreader _ ih ihnext =>
    cases hfirst : reader input with
    | ok first middle =>
      rw [EStateM.bind_of_ok hfirst] at hread
      rw [EStateM.bind_of_ok (append_of_ok hreader hfirst)]
      exact ihnext first hread
    | error _ _ =>
      rw [EStateM.bind_of_error hfirst] at hread
      cases hread
      rw [EStateM.bind_of_error (ih hfirst)]

end Piecewise

end Reader

/-! ## Wire types -/

/-- A wire type that is read piece by piece. -/
class Wire.Piecewise (α : Type) [Wire α] : Prop where
  read : Reader.Piecewise (Wire.read : Reader α)

namespace Wire.Piecewise

open Reader.Piecewise (pure throw ite check take octet word16 word32 int32 sized)

/-- A reader that goes on with a value of a wire type. -/
theorem bind {α β : Type} [Wire α] [Wire.Piecewise α] {next : α → Reader β}
    (h : ∀ value, Reader.Piecewise (next value)) : Reader.Piecewise (Wire.read >>= next) :=
  Reader.Piecewise.bind read h

instance : Wire.Piecewise UInt32 := ⟨word32⟩

instance : Wire.Piecewise Int32 := ⟨int32⟩

instance : Wire.Piecewise AlgId where
  read := word16.bind fun code => by
    split
    · exact pure _
    · exact throw _

instance : Wire.Piecewise StructureTag where
  read := word16.bind fun code => by
    split
    · exact pure _
    · exact throw _

instance : Wire.Piecewise SessionKind where
  read := octet.bind fun code => by
    split
    · exact pure _
    · exact throw _

instance : Wire.Piecewise SessionAttributes := ⟨octet.bind fun _ => pure _⟩

instance : Wire.Piecewise HashName := ⟨bind fun _ => ite (pure _) (throw _)⟩

instance {max : Nat} : Wire.Piecewise (Sized max) := ⟨(sized max).bind fun _ => pure _⟩

instance : Wire.Piecewise Timeout := ⟨(sized timeoutSize).bind fun _ => ite (pure _) (throw _)⟩

instance : Wire.Piecewise Ticket where
  read := bind fun _ => word32.bind fun _ => bind fun _ => pure _

instance : Wire.Piecewise SymmetricDefinition where
  read := bind fun alg => by
    cases alg with
    | null => exact pure _
    | xor => exact bind fun _ => pure _
    | aes => exact word16.bind fun _ => bind fun _ => pure _
    | _ => exact throw _

instance : Wire.Piecewise Signature where
  read := bind fun alg => by
    cases alg with
    | null => exact pure _
    | rsaSsa => exact bind fun _ => bind fun _ => pure _
    | ecdsa => exact bind fun _ => bind fun _ => bind fun _ => pure _
    | _ => exact throw _

instance : Wire.Piecewise AuthResponse where
  read := bind fun _ => bind fun _ => bind fun _ => pure _

instance : Wire.Piecewise AuthCommand where
  read := word32.bind fun _ => bind fun _ => bind fun _ => bind fun _ => pure _

instance : Wire.Piecewise PcrSelection where
  read := bind fun _ => octet.bind fun _ => check fun _ => (take _).bind fun _ => pure _

instance : Wire.Piecewise PcrSelections where
  read := word32.bind fun _ => check fun _ => (read.repeated _).bind fun _ => pure _

end Wire.Piecewise

end TrustedPlatform
