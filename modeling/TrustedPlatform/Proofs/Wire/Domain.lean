import TrustedPlatform.Authorization
import TrustedPlatform.Proofs.Wire.Reads
import TrustedPlatform.Signature
import TrustedPlatform.SymmetricDefinition
import TrustedPlatform.Ticket

/-!
# What readers accept

A reader accepts exactly what its writer gives for the values in the domain of their type: nothing
else is read, and each value of the domain is read back. `Wire.Lawful` is this law, for every type
of the wire.
-/

namespace TrustedPlatform

namespace Reader

variable {input rest : Bytes}

/-! ## Octets and numbers -/

theorem take_eq_ok_iff {n : Nat} {b : Bytes} :
    Reader.take n input = .ok b rest ↔ b.length = n ∧ input = b ++ rest := by
  constructor
  · intro h
    unfold Reader.take at h
    split at h
    · cases h
    · rename_i hlong
      cases h
      have hlength : (input.take n).length = n := by
        rw [List.length_take]
        omega
      exact ⟨hlength, (List.take_append_drop n input).symm⟩
  · rintro ⟨rfl, rfl⟩
    exact Reads.take b rest

theorem number_eq_ok_iff {width n : Nat} :
    Reader.number width input = .ok n rest ↔
      n < 256 ^ width ∧ input = Bytes.ofNat width n ++ rest := by
  constructor
  · intro h
    obtain ⟨b, _, htake, hpure⟩ := EStateM.bind_eq_ok_iff.mp h
    obtain ⟨rfl, rfl⟩ := EStateM.pure_eq_ok_iff.mp hpure
    obtain ⟨rfl, hinput⟩ := take_eq_ok_iff.mp htake
    rw [Bytes.ofNat_toNat]
    exact ⟨Bytes.toNat_lt b, hinput⟩
  · rintro ⟨hlt, rfl⟩
    have h := Reads.number (Bytes.ofNat width n) rest
    rw [Bytes.length_ofNat, Bytes.toNat_ofNat, Nat.mod_eq_of_lt hlt] at h
    exact h

/-- Words are read as the numbers of their width. -/
theorem word_eq_ok_iff {α : Type} {width : Nat} {ofNat : Nat → α} {toNat : α → Nat}
    (hto : ∀ n < 256 ^ width, toNat (ofNat n) = n) (hof : ∀ v, ofNat (toNat v) = v)
    (hlt : ∀ v, toNat v < 256 ^ width) {v : α} :
    (do return ofNat (← Reader.number width) : Reader α) input = .ok v rest ↔
      input = Bytes.ofNat width (toNat v) ++ rest := by
  constructor
  · intro h
    obtain ⟨n, _, hnumber, hpure⟩ := EStateM.bind_eq_ok_iff.mp h
    obtain ⟨rfl, rfl⟩ := EStateM.pure_eq_ok_iff.mp hpure
    obtain ⟨hn, hinput⟩ := number_eq_ok_iff.mp hnumber
    rw [hto n hn]
    exact hinput
  · rintro rfl
    have hnumber : Reader.number width (Bytes.ofNat width (toNat v) ++ rest) = .ok (toNat v) rest :=
      number_eq_ok_iff.mpr ⟨hlt v, rfl⟩
    refine EStateM.bind_eq_ok_iff.mpr ⟨_, _, hnumber, ?_⟩
    exact EStateM.pure_eq_ok_iff.mpr ⟨hof v, rfl⟩

theorem octet_eq_ok_iff {v : UInt8} : Reader.octet input = .ok v rest ↔ input = [v] ++ rest := by
  have hword : Reader.octet input = .ok v rest ↔ input = Bytes.ofNat 1 v.toNat ++ rest :=
    word_eq_ok_iff (fun _ => Nat.mod_eq_of_lt) (fun _ => UInt8.ofNat_toNat) UInt8.toNat_lt
  rw [hword, Bytes.ofNat, UInt8.ofNat_toNat]
  rfl

theorem word16_eq_ok_iff {v : UInt16} :
    Reader.word16 input = .ok v rest ↔ input = be16 v ++ rest :=
  word_eq_ok_iff (fun _ => Nat.mod_eq_of_lt) (fun _ => UInt16.ofNat_toNat) UInt16.toNat_lt

theorem word32_eq_ok_iff {v : UInt32} :
    Reader.word32 input = .ok v rest ↔ input = be32 v ++ rest :=
  word_eq_ok_iff (fun _ => Nat.mod_eq_of_lt) (fun _ => UInt32.ofNat_toNat) UInt32.toNat_lt

theorem word64_eq_ok_iff {v : UInt64} :
    Reader.word64 input = .ok v rest ↔ input = be64 v ++ rest :=
  word_eq_ok_iff (fun _ => Nat.mod_eq_of_lt) (fun _ => UInt64.ofNat_toNat) UInt64.toNat_lt

theorem int32_eq_ok_iff {v : Int32} :
    Reader.int32 input = .ok v rest ↔ input = be32 v.toUInt32 ++ rest := by
  constructor
  · intro h
    obtain ⟨w, _, hword, hpure⟩ := EStateM.bind_eq_ok_iff.mp h
    obtain ⟨rfl, rfl⟩ := EStateM.pure_eq_ok_iff.mp hpure
    exact word32_eq_ok_iff.mp hword
  · rintro rfl
    exact (Reads.word32 v.toUInt32).bind_pure rest

/-- A length is read back unless it was cut. -/
theorem sized_eq_ok_iff {max : Nat} {b : Bytes} :
    Reader.sized max input = .ok b rest ↔
      (b.length ≤ max ∧ b.length < 2 ^ 16) ∧ input = sizedBytes b ++ rest := by
  constructor
  · intro h
    obtain ⟨length, _, hword, h⟩ := EStateM.bind_eq_ok_iff.mp h
    obtain ⟨hmax, h⟩ := EStateM.ite_throw_bind_eq_ok_iff.mp h
    obtain ⟨hlength, rfl⟩ := take_eq_ok_iff.mp h
    obtain rfl := word16_eq_ok_iff.mp hword
    have hlt := length.toNat_lt
    refine ⟨⟨by omega, by omega⟩, ?_⟩
    rw [sizedBytes, hlength, UInt16.ofNat_toNat, List.append_assoc]
  · rintro ⟨⟨hmax, hlt⟩, rfl⟩
    have hlength : (UInt16.ofNat b.length).toNat = b.length := Nat.mod_eq_of_lt hlt
    have hword := Reads.word16 (UInt16.ofNat b.length) (b ++ rest)
    rw [sizedBytes, List.append_assoc]
    refine EStateM.bind_eq_ok_iff.mpr ⟨_, _, hword, ?_⟩
    rw [hlength, if_neg (Nat.not_lt.mpr hmax)]
    exact Reads.take b rest

/-- Octets are read back unless there are too many of them for the limit or for the length. -/
theorem Reads.sized {max : Nat} {b : Bytes} (hmax : b.length ≤ max) (hlt : b.length < 2 ^ 16) :
    (Reader.sized max).Reads (sizedBytes b) b := fun _ =>
  sized_eq_ok_iff.mpr ⟨⟨hmax, hlt⟩, rfl⟩

/-! ## Readers put together -/

/-- Items of which each was accepted were accepted as a list. -/
theorem of_repeated {α : Type} {item : Reader α} {Valid : α → Prop} {write : α → Bytes}
    (hitem : ∀ {input rest v}, item input = .ok v rest → Valid v ∧ input = write v ++ rest)
    {count : Nat} {items : List α} (h : Reader.repeated item count input = .ok items rest) :
    items.length = count ∧ (∀ v ∈ items, Valid v) ∧ input = items.flatMap write ++ rest := by
  induction count generalizing input items with
  | zero =>
    obtain ⟨rfl, rfl⟩ := EStateM.pure_eq_ok_iff.mp h
    exact ⟨rfl, List.forall_mem_nil _, rfl⟩
  | succ count ih =>
    obtain ⟨first, _, hfirst, h⟩ := EStateM.bind_eq_ok_iff.mp h
    obtain ⟨others, _, hothers, h⟩ := EStateM.bind_eq_ok_iff.mp h
    obtain ⟨rfl, rfl⟩ := EStateM.pure_eq_ok_iff.mp h
    obtain ⟨hvalid, rfl⟩ := hitem hfirst
    obtain ⟨rfl, hall, rfl⟩ := ih hothers
    refine ⟨rfl, List.forall_mem_cons.mpr ⟨hvalid, hall⟩, ?_⟩
    rw [List.flatMap_cons, List.append_assoc]

end Reader

/-! ## The law of a wire type -/

/-- A wire type whose reader accepts the written forms of the values in its domain, and no other
octets. -/
class Wire.Lawful (α : Type) [Wire α] where
  /-- The value is in the domain. -/
  Valid : α → Prop
  /-- Values of the domain are read back. -/
  reads : ∀ {v : α}, Valid v → (Wire.read : Reader α).Reads (Wire.write v) v
  /-- Only what is written for values of the domain is read. -/
  of_read : ∀ {input rest : Bytes} {v : α}, (Wire.read : Reader α) input = .ok v rest →
    Valid v ∧ input = Wire.write v ++ rest

namespace Wire

export Lawful (Valid)

variable {α : Type} [Wire α] [Lawful α]

theorem read_eq_ok_iff {input rest : Bytes} {v : α} :
    (Wire.read : Reader α) input = .ok v rest ↔ Valid v ∧ input = Wire.write v ++ rest := by
  constructor
  · exact Lawful.of_read
  · rintro ⟨hvalid, rfl⟩
    exact Lawful.reads hvalid rest

/-- Two values of the domain at the front of one input are one. -/
theorem eq_of_write_append {v w : α} {rest rest' : Bytes} (hv : Valid v) (hw : Valid w)
    (h : Wire.write v ++ rest = Wire.write w ++ rest') : v = w ∧ rest = rest' :=
  (Lawful.reads hv).unique (Lawful.reads hw) h

end Wire

/-! ## Types every value of which has a form -/

instance : Wire.Lawful UInt8 where
  Valid _ := True
  reads {v} _ := Reader.Reads.octet v
  of_read h := ⟨trivial, Reader.octet_eq_ok_iff.mp h⟩

instance : Wire.Lawful UInt16 where
  Valid _ := True
  reads {v} _ := Reader.Reads.word16 v
  of_read h := ⟨trivial, Reader.word16_eq_ok_iff.mp h⟩

instance : Wire.Lawful UInt32 where
  Valid _ := True
  reads {v} _ := Reader.Reads.word32 v
  of_read h := ⟨trivial, Reader.word32_eq_ok_iff.mp h⟩

instance : Wire.Lawful UInt64 where
  Valid _ := True
  reads {_} _ _ := Reader.word64_eq_ok_iff.mpr rfl
  of_read h := ⟨trivial, Reader.word64_eq_ok_iff.mp h⟩

instance : Wire.Lawful Int32 where
  Valid _ := True
  reads {_} _ _ := Reader.int32_eq_ok_iff.mpr rfl
  of_read h := ⟨trivial, Reader.int32_eq_ok_iff.mp h⟩

instance : Wire.Lawful AlgId where
  Valid _ := True
  reads {alg} _ := AlgId.reads alg
  of_read hread := by
    obtain ⟨code, _, hcode, h⟩ := EStateM.bind_eq_ok_iff.mp hread
    cases hvalue : AlgId.ofCode? code with
    | none =>
      rw [hvalue] at h
      exact (EStateM.throw_eq_ok_iff.mp h).elim
    | some _ =>
      rw [hvalue] at h
      obtain ⟨rfl, rfl⟩ := EStateM.pure_eq_ok_iff.mp h
      obtain rfl := AlgId.code_of_ofCode? hvalue
      exact ⟨trivial, Reader.word16_eq_ok_iff.mp hcode⟩

theorem StructureTag.reads (tag : StructureTag) :
    (Wire.read : Reader StructureTag).Reads (be16 tag.code) tag := by
  refine (Reader.Reads.word16 tag.code).bind_nil ?_
  rw [StructureTag.ofCode?_code]
  exact .pure tag

instance : Wire.Lawful StructureTag where
  Valid _ := True
  reads {tag} _ := StructureTag.reads tag
  of_read hread := by
    obtain ⟨code, _, hcode, h⟩ := EStateM.bind_eq_ok_iff.mp hread
    cases hvalue : StructureTag.ofCode? code with
    | none =>
      rw [hvalue] at h
      exact (EStateM.throw_eq_ok_iff.mp h).elim
    | some _ =>
      rw [hvalue] at h
      obtain ⟨rfl, rfl⟩ := EStateM.pure_eq_ok_iff.mp h
      obtain rfl := StructureTag.code_of_ofCode? hvalue
      exact ⟨trivial, Reader.word16_eq_ok_iff.mp hcode⟩

instance : Wire.Lawful SessionKind where
  Valid _ := True
  reads {kind} _ := by
    refine (Reader.Reads.octet kind.code).bind_nil ?_
    rw [SessionKind.ofCode?_code]
    exact .pure kind
  of_read hread := by
    obtain ⟨code, _, hcode, h⟩ := EStateM.bind_eq_ok_iff.mp hread
    cases hvalue : SessionKind.ofCode? code with
    | none =>
      rw [hvalue] at h
      exact (EStateM.throw_eq_ok_iff.mp h).elim
    | some _ =>
      rw [hvalue] at h
      obtain ⟨rfl, rfl⟩ := EStateM.pure_eq_ok_iff.mp h
      obtain rfl := SessionKind.code_of_ofCode? hvalue
      exact ⟨trivial, Reader.octet_eq_ok_iff.mp hcode⟩

instance : Wire.Lawful SessionAttributes where
  Valid _ := True
  reads {attributes} _ := (Reader.Reads.octet attributes.bits).bind_pure
  of_read hread := by
    obtain ⟨bits, _, hoctet, h⟩ := EStateM.bind_eq_ok_iff.mp hread
    obtain ⟨rfl, rfl⟩ := EStateM.pure_eq_ok_iff.mp h
    exact ⟨trivial, Reader.octet_eq_ok_iff.mp hoctet⟩

/-! ## Types with limits -/

/-- An identifier that names a hash. -/
def HashName.Valid (name : HashName) : Prop := name.alg.isHash

/-- Octets that are not too long for their kind, nor for the length in front of them. -/
structure Sized.Valid {max : Nat} (s : Sized max) : Prop where
  le_max : s.bytes.length ≤ max
  lt_two_pow : s.bytes.length < 2 ^ 16

/-- A timeout that is empty or shows when it expires. -/
def Timeout.Valid (timeout : Timeout) : Prop :=
  timeout = .empty ∨ timeout.bytes.length = timeoutSize

/-- A definition whose algorithm may be asked for, and whose fields that the algorithm does not
use are those of the null definition. -/
inductive SymmetricDefinition.Valid : SymmetricDefinition → Prop
  | null : Valid .null
  | xor {hash : AlgId} (h : hash.isHash) : Valid ⟨.xor, hash.code, .null⟩
  | aes (keyBits : UInt16) (mode : AlgId) : Valid ⟨.aes, keyBits, mode⟩

/-- A signature that names a hash and has parts that are not too long. -/
inductive Signature.Valid : Signature → Prop
  | null : Valid .null
  | rsaSsa {hash : AlgId} {sig : RsaValue} (h : hash.isHash) (hsig : sig.Valid) :
    Valid (.rsaSsa hash sig)
  | ecdsa {hash : AlgId} {r s : EccParameter} (h : hash.isHash) (hr : r.Valid) (hs : s.Valid) :
    Valid (.ecdsa hash r s)

/-- A ticket whose digest is not too long. -/
def Ticket.Valid (ticket : Ticket) : Prop := ticket.digest.Valid

/-- An entry whose nonce and HMAC are not too long. -/
structure AuthCommand.Valid (entry : AuthCommand) : Prop where
  nonce : entry.nonce.Valid
  hmac : entry.hmac.Valid

/-- An entry whose nonce and HMAC are not too long. -/
structure AuthResponse.Valid (entry : AuthResponse) : Prop where
  nonce : entry.nonce.Valid
  hmac : entry.hmac.Valid

instance : Wire.Lawful HashName where
  Valid := HashName.Valid
  reads h := HashName.reads h
  of_read hread := by
    obtain ⟨alg, _, halg, h⟩ := EStateM.bind_eq_ok_iff.mp hread
    split at h
    · rename_i hhash
      obtain ⟨rfl, rfl⟩ := EStateM.pure_eq_ok_iff.mp h
      exact ⟨hhash, (Wire.Lawful.of_read halg).2⟩
    · exact (EStateM.throw_eq_ok_iff.mp h).elim

instance {max : Nat} : Wire.Lawful (Sized max) where
  Valid := Sized.Valid
  reads {_} h := (Reader.Reads.sized h.le_max h.lt_two_pow).bind_pure
  of_read hread := by
    obtain ⟨bytes, _, hsized, h⟩ := EStateM.bind_eq_ok_iff.mp hread
    obtain ⟨rfl, rfl⟩ := EStateM.pure_eq_ok_iff.mp h
    obtain ⟨⟨hmax, hlt⟩, hinput⟩ := Reader.sized_eq_ok_iff.mp hsized
    exact ⟨⟨hmax, hlt⟩, hinput⟩

instance : Wire.Lawful Timeout where
  Valid := Timeout.Valid
  reads {timeout} h := by
    have hlength : timeout.bytes.length ≤ timeoutSize := by
      rcases h with rfl | h
      · exact Nat.zero_le _
      · exact Nat.le_of_eq h
    have hlt : timeout.bytes.length < 2 ^ 16 := Nat.lt_of_le_of_lt hlength (by decide)
    have hread : timeout.bytes.isEmpty ∨ timeout.bytes.length = timeoutSize := by
      rcases h with rfl | h
      · exact .inl rfl
      · exact .inr h
    refine (Reader.Reads.sized hlength hlt).bind_nil ?_
    rw [if_pos hread]
    exact .pure timeout
  of_read hread := by
    obtain ⟨bytes, _, hsized, h⟩ := EStateM.bind_eq_ok_iff.mp hread
    split at h
    · rename_i hlength
      obtain ⟨rfl, rfl⟩ := EStateM.pure_eq_ok_iff.mp h
      refine ⟨?_, (Reader.sized_eq_ok_iff.mp hsized).2⟩
      rcases hlength with hempty | hlength
      · exact .inl (congrArg Timeout.mk (List.isEmpty_iff.mp hempty))
      · exact .inr hlength
    · exact (EStateM.throw_eq_ok_iff.mp h).elim

instance : Wire.Lawful Ticket where
  Valid := Ticket.Valid
  reads {ticket} h := by
    have htag := StructureTag.reads ticket.tag
    have hhierarchy := Reader.Reads.word32 ticket.hierarchy
    have hdigest : (Wire.read : Reader Digest).Reads _ _ := Wire.Lawful.reads h
    have hwrite : Wire.write ticket = Wire.write ticket.tag ++
        (be32 ticket.hierarchy ++ Wire.write ticket.digest) := List.append_assoc _ _ _
    rw [hwrite]
    exact htag.bind (hhierarchy.bind hdigest.bind_pure)
  of_read hread := by
    obtain ⟨tag, _, htag, h⟩ := EStateM.bind_eq_ok_iff.mp hread
    obtain ⟨hierarchy, _, hhierarchy, h⟩ := EStateM.bind_eq_ok_iff.mp h
    obtain ⟨digest, _, hdigest, h⟩ := EStateM.bind_eq_ok_iff.mp h
    obtain ⟨rfl, rfl⟩ := EStateM.pure_eq_ok_iff.mp h
    obtain ⟨_, rfl⟩ := Wire.Lawful.of_read htag
    obtain rfl := Reader.word32_eq_ok_iff.mp hhierarchy
    obtain ⟨hvalid, rfl⟩ := Wire.Lawful.of_read hdigest
    refine ⟨hvalid, ?_⟩
    simp only [Wire.write, List.append_assoc]

instance : Wire.Lawful SymmetricDefinition where
  Valid := SymmetricDefinition.Valid
  reads h := by
    cases h with
    | null => exact (AlgId.reads .null).bind_nil (.pure SymmetricDefinition.null)
    | xor hhash => exact (AlgId.reads .xor).bind (HashName.reads hhash).bind_pure
    | aes keyBits mode =>
      have hkeyBits := Reader.Reads.word16 keyBits
      exact (AlgId.reads .aes).bind (hkeyBits.bind (AlgId.reads mode).bind_pure)
  of_read hread := by
    obtain ⟨alg, _, halg, h⟩ := EStateM.bind_eq_ok_iff.mp hread
    obtain ⟨_, rfl⟩ := Wire.Lawful.of_read halg
    cases alg with
    | null =>
      obtain ⟨rfl, rfl⟩ := EStateM.pure_eq_ok_iff.mp h
      exact ⟨.null, rfl⟩
    | xor =>
      obtain ⟨hash, _, hhash, h⟩ := EStateM.bind_eq_ok_iff.mp h
      obtain ⟨rfl, rfl⟩ := EStateM.pure_eq_ok_iff.mp h
      obtain ⟨hvalid, rfl⟩ := Wire.Lawful.of_read hhash
      refine ⟨.xor hvalid, ?_⟩
      simp only [Wire.write, List.append_assoc]
    | aes =>
      obtain ⟨keyBits, _, hkeyBits, h⟩ := EStateM.bind_eq_ok_iff.mp h
      obtain ⟨mode, _, hmode, h⟩ := EStateM.bind_eq_ok_iff.mp h
      obtain ⟨rfl, rfl⟩ := EStateM.pure_eq_ok_iff.mp h
      obtain rfl := Reader.word16_eq_ok_iff.mp hkeyBits
      obtain ⟨_, rfl⟩ := Wire.Lawful.of_read hmode
      refine ⟨.aes keyBits mode, ?_⟩
      simp only [Wire.write, List.append_assoc]
    | _ => exact (EStateM.throw_eq_ok_iff.mp h).elim

instance : Wire.Lawful Signature where
  Valid := Signature.Valid
  reads h := by
    cases h with
    | null => exact (AlgId.reads .null).bind_nil (.pure Signature.null)
    | @rsaSsa hash sig hhash hsig =>
      have hread : (Wire.read : Reader RsaValue).Reads _ _ := Wire.Lawful.reads hsig
      have hwrite : Wire.write (Signature.rsaSsa hash sig) =
          be16 AlgId.rsaSsa.code ++ (be16 hash.code ++ Wire.write sig) := List.append_assoc _ _ _
      rw [hwrite]
      exact (AlgId.reads .rsaSsa).bind ((HashName.reads hhash).bind hread.bind_pure)
    | @ecdsa hash r s hhash hr hs =>
      have hreadR : (Wire.read : Reader EccParameter).Reads _ _ := Wire.Lawful.reads hr
      have hreadS : (Wire.read : Reader EccParameter).Reads _ _ := Wire.Lawful.reads hs
      have hwrite : Wire.write (Signature.ecdsa hash r s) =
          be16 AlgId.ecdsa.code ++ (be16 hash.code ++ (Wire.write r ++ Wire.write s)) := by
        simp only [Wire.write, List.append_assoc]
      rw [hwrite]
      exact (AlgId.reads .ecdsa).bind
        ((HashName.reads hhash).bind (hreadR.bind hreadS.bind_pure))
  of_read hread := by
    obtain ⟨alg, _, halg, h⟩ := EStateM.bind_eq_ok_iff.mp hread
    obtain ⟨_, rfl⟩ := Wire.Lawful.of_read halg
    cases alg with
    | null =>
      obtain ⟨rfl, rfl⟩ := EStateM.pure_eq_ok_iff.mp h
      exact ⟨.null, rfl⟩
    | rsaSsa =>
      obtain ⟨hash, _, hhash, h⟩ := EStateM.bind_eq_ok_iff.mp h
      obtain ⟨sig, _, hsig, h⟩ := EStateM.bind_eq_ok_iff.mp h
      obtain ⟨rfl, rfl⟩ := EStateM.pure_eq_ok_iff.mp h
      obtain ⟨hvalid, rfl⟩ := Wire.Lawful.of_read hhash
      obtain ⟨hvalidSig, rfl⟩ := Wire.Lawful.of_read hsig
      refine ⟨.rsaSsa hvalid hvalidSig, ?_⟩
      simp only [Wire.write, List.append_assoc]
    | ecdsa =>
      obtain ⟨hash, _, hhash, h⟩ := EStateM.bind_eq_ok_iff.mp h
      obtain ⟨r, _, hr, h⟩ := EStateM.bind_eq_ok_iff.mp h
      obtain ⟨s, _, hs, h⟩ := EStateM.bind_eq_ok_iff.mp h
      obtain ⟨rfl, rfl⟩ := EStateM.pure_eq_ok_iff.mp h
      obtain ⟨hvalid, rfl⟩ := Wire.Lawful.of_read hhash
      obtain ⟨hvalidR, rfl⟩ := Wire.Lawful.of_read hr
      obtain ⟨hvalidS, rfl⟩ := Wire.Lawful.of_read hs
      refine ⟨.ecdsa hvalid hvalidR hvalidS, ?_⟩
      simp only [Wire.write, List.append_assoc]
    | _ => exact (EStateM.throw_eq_ok_iff.mp h).elim

instance : Wire.Lawful AuthCommand where
  Valid := AuthCommand.Valid
  reads {entry} h := by
    have hhandle := Reader.Reads.word32 entry.sessionHandle
    have hnonce : (Wire.read : Reader Nonce).Reads _ _ := Wire.Lawful.reads h.nonce
    have hattributes : (Wire.read : Reader SessionAttributes).Reads _ entry.attributes :=
      Wire.Lawful.reads trivial
    have hhmac : (Wire.read : Reader AuthValue).Reads _ _ := Wire.Lawful.reads h.hmac
    have hwrite : Wire.write entry = be32 entry.sessionHandle ++ (Wire.write entry.nonce ++
        (Wire.write entry.attributes ++ Wire.write entry.hmac)) := by
      simp only [Wire.write, List.append_assoc]
    rw [hwrite]
    exact hhandle.bind (hnonce.bind (hattributes.bind hhmac.bind_pure))
  of_read hread := by
    obtain ⟨handle, _, hhandle, h⟩ := EStateM.bind_eq_ok_iff.mp hread
    obtain ⟨nonce, _, hnonce, h⟩ := EStateM.bind_eq_ok_iff.mp h
    obtain ⟨attributes, _, hattributes, h⟩ := EStateM.bind_eq_ok_iff.mp h
    obtain ⟨hmac, _, hhmac, h⟩ := EStateM.bind_eq_ok_iff.mp h
    obtain ⟨rfl, rfl⟩ := EStateM.pure_eq_ok_iff.mp h
    obtain rfl := Reader.word32_eq_ok_iff.mp hhandle
    obtain ⟨hvalidNonce, rfl⟩ := Wire.Lawful.of_read hnonce
    obtain ⟨_, rfl⟩ := Wire.Lawful.of_read hattributes
    obtain ⟨hvalidHmac, rfl⟩ := Wire.Lawful.of_read hhmac
    refine ⟨⟨hvalidNonce, hvalidHmac⟩, ?_⟩
    simp only [Wire.write, List.append_assoc]

instance : Wire.Lawful AuthResponse where
  Valid := AuthResponse.Valid
  reads {entry} h := by
    have hnonce : (Wire.read : Reader Nonce).Reads _ _ := Wire.Lawful.reads h.nonce
    have hattributes : (Wire.read : Reader SessionAttributes).Reads _ entry.attributes :=
      Wire.Lawful.reads trivial
    have hhmac : (Wire.read : Reader AuthValue).Reads _ _ := Wire.Lawful.reads h.hmac
    have hwrite : Wire.write entry = Wire.write entry.nonce ++
        (Wire.write entry.attributes ++ Wire.write entry.hmac) := List.append_assoc _ _ _
    rw [hwrite]
    exact hnonce.bind (hattributes.bind hhmac.bind_pure)
  of_read hread := by
    obtain ⟨nonce, _, hnonce, h⟩ := EStateM.bind_eq_ok_iff.mp hread
    obtain ⟨attributes, _, hattributes, h⟩ := EStateM.bind_eq_ok_iff.mp h
    obtain ⟨hmac, _, hhmac, h⟩ := EStateM.bind_eq_ok_iff.mp h
    obtain ⟨rfl, rfl⟩ := EStateM.pure_eq_ok_iff.mp h
    obtain ⟨hvalidNonce, rfl⟩ := Wire.Lawful.of_read hnonce
    obtain ⟨_, rfl⟩ := Wire.Lawful.of_read hattributes
    obtain ⟨hvalidHmac, rfl⟩ := Wire.Lawful.of_read hhmac
    refine ⟨⟨hvalidNonce, hvalidHmac⟩, ?_⟩
    simp only [Wire.write, List.append_assoc]

instance : Wire.Lawful PcrSelection where
  Valid := PcrSelection.Valid
  reads h := PcrSelection.reads h
  of_read hread := by
    obtain ⟨hash, _, hhash, h⟩ := EStateM.bind_eq_ok_iff.mp hread
    obtain ⟨length, _, hlength, h⟩ := EStateM.bind_eq_ok_iff.mp h
    obtain ⟨hmax, h⟩ := EStateM.ite_throw_bind_eq_ok_iff.mp h
    obtain ⟨bitmap, _, hbitmap, h⟩ := EStateM.bind_eq_ok_iff.mp h
    obtain ⟨rfl, rfl⟩ := EStateM.pure_eq_ok_iff.mp h
    obtain ⟨hvalid, rfl⟩ := Wire.Lawful.of_read hhash
    obtain rfl := Reader.octet_eq_ok_iff.mp hlength
    obtain ⟨hcount, rfl⟩ := Reader.take_eq_ok_iff.mp hbitmap
    have hbitmapMax : bitmap.length ≤ pcrSelectMax := by omega
    refine ⟨⟨hvalid, hbitmapMax⟩, ?_⟩
    simp only [Wire.write, hcount, UInt8.ofNat_toNat, List.append_assoc]

instance : Wire.Lawful PcrSelections where
  Valid := PcrSelections.Valid
  reads h := PcrSelections.reads h
  of_read hread := by
    obtain ⟨count, _, hcount, h⟩ := EStateM.bind_eq_ok_iff.mp hread
    obtain ⟨hmax, h⟩ := EStateM.ite_throw_bind_eq_ok_iff.mp h
    obtain ⟨banks, _, hbanks, h⟩ := EStateM.bind_eq_ok_iff.mp h
    obtain ⟨rfl, rfl⟩ := EStateM.pure_eq_ok_iff.mp h
    obtain rfl := Reader.word32_eq_ok_iff.mp hcount
    obtain ⟨hlength, hvalid, rfl⟩ := Reader.of_repeated Wire.Lawful.of_read hbanks
    have hbanksMax : banks.length ≤ maxBanks := by omega
    refine ⟨⟨hbanksMax, hvalid⟩, ?_⟩
    simp only [Wire.write, hlength, UInt32.ofNat_toNat, List.append_assoc]

end TrustedPlatform
