import TrustedPlatform.CommandSet
import TrustedPlatform.Envelope.Reply
import TrustedPlatform.Proofs.Wire.Piecewise

/-!
# Readers stay within their input

A reader that is given octets of any kind, from an honest peer or not, takes pieces off the front of
them and nothing else: wherever it ends, with a value or with a fault, what it leaves unread is the
end of its input. A piece that would reach past the end is refused before it is cut.
-/

namespace TrustedPlatform

namespace Reader

/-- What a computation has not read where it ends, with a value or with a fault. -/
def unread {ε α : Type} : EStateM.Result ε Bytes α → Bytes
  | .ok _ rest => rest
  | .error _ rest => rest

/-- Wherever the computation ends, it leaves the end of its input unread. -/
def Confined {ε α : Type} (reader : EStateM ε Bytes α) : Prop :=
  ∀ input, unread (reader input) <:+ input

namespace Confined

variable {ε α β : Type}

/-! ## Readers put together -/

theorem pure (value : α) : Confined (Pure.pure value : EStateM ε Bytes α) :=
  fun _ => List.suffix_rfl

theorem throw (cause : ε) : Confined (MonadExcept.throw cause : EStateM ε Bytes α) :=
  fun _ => List.suffix_rfl

theorem get : Confined (MonadState.get : EStateM ε Bytes Bytes) :=
  fun _ => List.suffix_rfl

theorem bind {reader : EStateM ε Bytes α} {next : α → EStateM ε Bytes β} (h : Confined reader)
    (hnext : ∀ value, Confined (next value)) : Confined (reader >>= next) := by
  intro input
  have hfirst := h input
  cases hread : reader input with
  | ok value middle =>
    rw [hread] at hfirst
    rw [EStateM.bind_of_ok hread]
    -- the end of the end of the input is an end of the input
    exact (hnext value middle).trans hfirst
  | error cause stopped =>
    rw [hread] at hfirst
    rw [EStateM.bind_of_error hread]
    exact hfirst

theorem ite {c : Prop} [Decidable c] {reader other : EStateM ε Bytes α} (h : Confined reader)
    (hother : Confined other) : Confined (if c then reader else other) := by
  split
  · exact h
  · exact hother

/-- A check that refuses, or goes on. -/
theorem check {c : Prop} [Decidable c] {cause : ε} {next : Unit → EStateM ε Bytes β}
    (h : ∀ u, Confined (next u)) :
    Confined (if c then MonadExcept.throw cause >>= next else next ()) :=
  ite ((throw cause).bind h) (h ())

/-! ## Pieces -/

/-- A piece is cut off the front, and only if it is there. -/
theorem take (n : Nat) : Confined (Reader.take n) := by
  intro input
  unfold Reader.take
  split
  · exact List.suffix_rfl
  · exact List.drop_suffix n input

/-- What takes pieces off the front of its input leaves the end of it. -/
theorem of_piecewise {reader : Reader α} (h : Piecewise reader) : Confined reader := by
  induction h with
  | pure value => exact pure value
  | throw cause => exact throw cause
  | take n => exact take n
  | bind _ _ ih ihnext => exact ih.bind ihnext

theorem word16 : Confined Reader.word16 := of_piecewise .word16

theorem word32 : Confined Reader.word32 := of_piecewise .word32

theorem rest : Confined Reader.rest := fun _ => List.nil_suffix

theorem finish : Confined Reader.finish := by
  intro input
  unfold Reader.finish
  split
  · exact List.suffix_rfl
  · exact List.suffix_rfl

theorem untilEnd {item : Reader α} (h : Confined item) (limit : Nat) :
    Confined (Reader.untilEnd item limit) := by
  -- on the limit, and not on the input, which an item need not make shorter
  induction limit with
  | zero => exact finish.bind fun _ => pure _
  | succ limit ih =>
    refine get.bind fun _ => ite (pure []) ?_
    exact h.bind fun _ => ih.bind fun _ => pure _

end Confined

end Reader

open Reader (Confined)

/-! ## Wire types -/

theorem Wire.confined_read {α : Type} [Wire α] [Wire.Piecewise α] :
    Confined (Wire.read : Reader α) := .of_piecewise Wire.Piecewise.read

/-! ## Layouts -/

/-- A list of fields whose reader stays within its input. -/
class FieldList.Confined (α : Type) [FieldList α] : Prop where
  read : ∀ index, Reader.Confined (FieldList.read index : EStateM Fault Bytes α)

namespace FieldList.Confined

theorem readParameter {α : Type} {reader : Reader α} (h : Reader.Confined reader) (index : UInt8) :
    Reader.Confined (FieldList.readParameter index reader) := by
  intro input
  have hread := h input
  unfold FieldList.readParameter
  cases hresult : reader input <;> rw [hresult] at hread <;> exact hread

instance : FieldList.Confined Unit := ⟨fun _ => .pure ()⟩

instance {α β : Type} [Wire α] [Wire.Piecewise α] [FieldList β] [FieldList.Confined β] :
    FieldList.Confined (α × β) where
  read index := (readParameter Wire.confined_read index).bind fun _ =>
    (read (index + 1)).bind fun _ => .pure _

end FieldList.Confined

/-- A layout whose parameters are read within their area. -/
class Layout.Confined (α : Type) [Layout α] : Prop where
  fields : @FieldList.Confined (Layout.Fields α) Layout.fieldList

theorem Layout.Confined.read {α : Type} [Layout α] [h : Layout.Confined α] (handles : List UInt32) :
    Reader.Confined (Layout.read α handles) := by
  refine .check fun _ => (h.fields.read 1).bind fun fields => ?_
  split
  · exact .pure _
  · exact .throw _

namespace Command

/-- The parameters of every request are read within their area. -/
instance requestConfined : (command : Command) → Layout.Confined command.Request
  | startAuthSession => ⟨inferInstanceAs (FieldList.Confined
      (Nonce × EncryptedSecret × SessionKind × SymmetricDefinition × HashName × Unit))⟩
  | flushContext => ⟨inferInstanceAs (FieldList.Confined (UInt32 × Unit))⟩
  | policyAuthValue => ⟨inferInstanceAs (FieldList.Confined Unit)⟩
  | policyPassword => ⟨inferInstanceAs (FieldList.Confined Unit)⟩
  | policyCommandCode => ⟨inferInstanceAs (FieldList.Confined (UInt32 × Unit))⟩
  | policyPcr => ⟨inferInstanceAs (FieldList.Confined (Digest × PcrSelections × Unit))⟩
  | policyAuthorize => ⟨inferInstanceAs (FieldList.Confined
      (Digest × Nonce × Name × Ticket × Unit))⟩
  | policyTicket => ⟨inferInstanceAs (FieldList.Confined
      (Timeout × Digest × Nonce × Name × Ticket × Unit))⟩
  | policySigned => ⟨inferInstanceAs (FieldList.Confined
      (Nonce × Digest × Nonce × Int32 × Signature × Unit))⟩
  | policyGetDigest => ⟨inferInstanceAs (FieldList.Confined Unit)⟩
  | verifySignature => ⟨inferInstanceAs (FieldList.Confined (Digest × Signature × Unit))⟩

/-- The parameters of every response are read within their area. -/
instance responseConfined : (command : Command) → Layout.Confined command.Response
  | startAuthSession => ⟨inferInstanceAs (FieldList.Confined (Nonce × Unit))⟩
  | policySigned => ⟨inferInstanceAs (FieldList.Confined (Timeout × Ticket × Unit))⟩
  | policyGetDigest => ⟨inferInstanceAs (FieldList.Confined (Digest × Unit))⟩
  | verifySignature => ⟨inferInstanceAs (FieldList.Confined (Ticket × Unit))⟩
  | flushContext | policyAuthValue | policyPassword | policyCommandCode | policyPcr
  | policyAuthorize | policyTicket => ⟨inferInstanceAs (FieldList.Confined Unit)⟩

end Command

/-! ## Envelopes -/

theorem RequestHeader.confined_reader (total : Nat) : Confined (RequestHeader.reader total) := by
  refine Reader.Confined.word16.bind fun code => ?_
  split
  · exact .throw _
  · exact Reader.Confined.word32.bind fun _ => .check fun _ =>
      Reader.Confined.word32.bind fun _ => .pure _

namespace Request

theorem confined_readHandles (index : UInt8) (count : Nat) :
    Confined (readHandles index count) := by
  induction count generalizing index with
  | zero => exact .pure []
  | succ count ih =>
    -- no bind of readers, as the fault of a missing handle shows its index
    intro input
    have hfirst := Reader.Confined.word32 input
    rw [readHandles]
    dsimp only
    cases hread : Reader.word32 input with
    | error cause rest =>
      rw [hread] at hfirst
      exact hfirst
    | ok handle rest =>
      rw [hread] at hfirst
      have hothers := (ih (index + 1)).bind fun handles =>
        (.pure (handle :: handles) : Confined (pure (handle :: handles) : EStateM Fault Bytes _))
      exact (hothers rest).trans hfirst

theorem confined_readSessions : Confined readSessions := by
  intro input
  have harea := (Reader.Confined.word32.bind fun size => .take size.toNat) input
  unfold readSessions
  split
  · rename_i htake
    rw [htake] at harea
    exact harea
  · rename_i htake
    rw [htake] at harea
    split <;> exact harea

/-- The areas of a request are cut out of what follows its header. -/
theorem confined_reader (header : RequestHeader) (handleCount : Nat) :
    Confined (reader header handleCount) := by
  have hrest : ∀ make : Bytes → Request, Confined
      (do let parameters ← get; set ([] : Bytes); return make parameters :
        EStateM Fault Bytes Request) := fun _ _ => List.nil_suffix
  refine (confined_readHandles 1 handleCount).bind fun handles => .ite ?_ ?_
  · exact confined_readSessions.bind fun sessions => hrest _
  · exact (Reader.Confined.pure []).bind fun sessions => hrest _

end Request

/-- The areas of a response are cut out of what follows its header. -/
theorem Reply.confined_areasReader (tag : StructureTag) (handleCount : Nat) :
    Confined (Reply.areasReader tag handleCount) :=
  (Reader.Confined.of_piecewise (.repeated .word32 handleCount)).bind fun _ => .ite
    (.of_piecewise (.bind .word32 fun size => .bind (.take size.toNat) fun _ => .pure _))
    (Reader.Confined.rest.bind fun _ => .pure _)

end TrustedPlatform
