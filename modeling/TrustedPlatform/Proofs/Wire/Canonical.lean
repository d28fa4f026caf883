import TrustedPlatform.Proofs.Wire.Domain

/-!
# Written forms of values outside the domain

`Wire.write` cuts the lengths of values that are too long, so that such a form may begin like that
of another value. It is then longer than any form that is read: below its type's horizon, a form
shows its value, up to fields that are not written. `Wire.Shows` is this law.
-/

namespace TrustedPlatform

/-- A wire type whose forms, below a certain length, show the value they are of: if one begins
like that of a value of the domain, that value is its canonical form. -/
class Wire.Shows (α : Type) [Wire α] extends Wire.Lawful α where
  /-- The value, with what is not written about it set to what readers put there. -/
  canonical : α → α
  /-- Octets of the longest form of a value of the domain. -/
  maxLength : Nat
  /-- Octets of the shortest form in which a length may have been cut. -/
  horizon : Nat
  canonical_of_valid : ∀ {v : α}, Valid v → canonical v = v
  write_canonical : ∀ v : α, Wire.write (canonical v) = Wire.write v
  length_write_le : ∀ {v : α}, Valid v → (Wire.write v).length ≤ maxLength
  eq_canonical : ∀ {v w : α} {rest rest' : Bytes}, (Wire.write v).length < horizon → Valid w →
    Wire.write v ++ rest = Wire.write w ++ rest' → w = canonical v

namespace Wire

export Shows (canonical)

variable {α : Type} [Wire α] [Shows α]

/-- What follows the form of a value of the domain follows it in the written octets too. -/
theorem eq_canonical_and_rest {v w : α} {rest rest' : Bytes}
    (hlt : (Wire.write v).length < Shows.horizon α) (hw : Valid w)
    (h : Wire.write v ++ rest = Wire.write w ++ rest') : w = canonical v ∧ rest = rest' := by
  obtain rfl := Shows.eq_canonical hlt hw h
  rw [Shows.write_canonical] at h
  exact ⟨rfl, List.append_cancel_left h⟩

end Wire

/-! ## Octet strings -/

/-- A length that was not cut shows where its octets end. -/
theorem eq_of_sizedBytes_append {b b' rest rest' : Bytes} (hb : b.length < 2 ^ 16)
    (hb' : b'.length < 2 ^ 16) (h : sizedBytes b ++ rest = sizedBytes b' ++ rest') : b = b' := by
  have hread : (Reader.sized (2 ^ 16)).Reads (sizedBytes b) b := .sized (Nat.le_of_lt hb) hb
  have hread' : (Reader.sized (2 ^ 16)).Reads (sizedBytes b') b' := .sized (Nat.le_of_lt hb') hb'
  exact (hread.unique hread' h).1

theorem length_sizedBytes (b : Bytes) : (sizedBytes b).length = 2 + b.length := by
  rw [sizedBytes, List.length_append, length_be16]

instance {max : Nat} : Wire.Shows (Sized max) where
  canonical s := s
  maxLength := 2 + max
  horizon := 2 ^ 16
  canonical_of_valid _ := rfl
  write_canonical _ := rfl
  length_write_le {s} h := by
    have hmax := h.le_max
    show (sizedBytes s.bytes).length ≤ 2 + max
    rw [length_sizedBytes]
    omega
  eq_canonical {s t _ _} hlt ht h := by
    have hs : s.bytes.length < 2 ^ 16 := by
      have hlength : (sizedBytes s.bytes).length < 2 ^ 16 := hlt
      rw [length_sizedBytes] at hlength
      omega
    exact congrArg Sized.mk (eq_of_sizedBytes_append hs ht.lt_two_pow h).symm

theorem Timeout.Valid.length_le {timeout : Timeout} (h : timeout.Valid) :
    timeout.bytes.length ≤ timeoutSize := by
  rcases h with rfl | h
  · exact Nat.zero_le _
  · exact Nat.le_of_eq h

instance : Wire.Shows Timeout where
  canonical timeout := timeout
  maxLength := 2 + timeoutSize
  horizon := 2 ^ 16
  canonical_of_valid _ := rfl
  write_canonical _ := rfl
  length_write_le {timeout} h := by
    have hmax := h.length_le
    show (sizedBytes timeout.bytes).length ≤ 2 + timeoutSize
    rw [length_sizedBytes]
    omega
  eq_canonical {s t _ _} hlt ht h := by
    have hs : s.bytes.length < 2 ^ 16 := by
      have hlength : (sizedBytes s.bytes).length < 2 ^ 16 := hlt
      rw [length_sizedBytes] at hlength
      omega
    have hlt' : t.bytes.length < 2 ^ 16 := Nat.lt_of_le_of_lt ht.length_le (by decide)
    exact congrArg Timeout.mk (eq_of_sizedBytes_append hs hlt' h).symm

/-! ## Types every value of which has a form -/

instance : Wire.Shows UInt32 where
  canonical v := v
  maxLength := 4
  horizon := 2 ^ 16
  canonical_of_valid _ := rfl
  write_canonical _ := rfl
  length_write_le {v} _ := Nat.le_of_eq (length_be32 v)
  eq_canonical _ hw h := (Wire.eq_of_write_append trivial hw h).1.symm

instance : Wire.Shows Int32 where
  canonical v := v
  maxLength := 4
  horizon := 2 ^ 16
  canonical_of_valid _ := rfl
  write_canonical _ := rfl
  length_write_le {v} _ := Nat.le_of_eq (length_be32 v.toUInt32)
  eq_canonical _ hw h := (Wire.eq_of_write_append trivial hw h).1.symm

instance : Wire.Shows StructureTag where
  canonical tag := tag
  maxLength := 2
  horizon := 2 ^ 16
  canonical_of_valid _ := rfl
  write_canonical _ := rfl
  length_write_le {tag} _ := Nat.le_of_eq (length_be16 tag.code)
  eq_canonical _ hw h := (Wire.eq_of_write_append trivial hw h).1.symm

instance : Wire.Shows SessionKind where
  canonical kind := kind
  maxLength := 1
  horizon := 2 ^ 16
  canonical_of_valid _ := rfl
  write_canonical _ := rfl
  length_write_le _ := Nat.le_refl 1
  eq_canonical _ hw h := (Wire.eq_of_write_append trivial hw h).1.symm

/-! ## Types with a hash or an algorithm in them -/

/-- Two words at the front of one input are one. -/
theorem be16_eq_of_append {a b : UInt16} {rest rest' : Bytes}
    (h : be16 a ++ rest = be16 b ++ rest') : a = b ∧ rest = rest' :=
  (Reader.Reads.word16 a).unique (.word16 b) h

/-- Two identifiers at the front of one input are one. -/
theorem AlgId.eq_of_append {a b : AlgId} {rest rest' : Bytes}
    (h : be16 a.code ++ rest = be16 b.code ++ rest') : a = b ∧ rest = rest' :=
  (AlgId.reads a).unique (AlgId.reads b) h

instance : Wire.Shows HashName where
  canonical name := name
  maxLength := 2
  horizon := 2 ^ 16
  canonical_of_valid _ := rfl
  write_canonical _ := rfl
  length_write_le {name} _ := Nat.le_of_eq (length_be16 name.alg.code)
  eq_canonical _ _ h := congrArg HashName.mk (AlgId.eq_of_append h).1.symm

/-- The definition, with the fields that its algorithm does not use as in the null definition. -/
def SymmetricDefinition.canonical (d : SymmetricDefinition) : SymmetricDefinition :=
  match d.algorithm with
  | .null => .null
  | .xor => { d with mode := .null }
  | _ => d

theorem SymmetricDefinition.eq_canonical {d e : SymmetricDefinition} {rest rest' : Bytes}
    (he : e.Valid) (h : Wire.write d ++ rest = Wire.write e ++ rest') : e = d.canonical := by
  obtain ⟨alg, keyBits, mode⟩ := d
  simp only [Wire.write, List.append_assoc] at h
  obtain ⟨halg, h⟩ := AlgId.eq_of_append h
  cases he with
  | null =>
    obtain rfl : alg = .null := halg
    rfl
  | @xor hash _ =>
    obtain rfl : alg = .xor := halg
    have hkeyBits : keyBits = hash.code := (be16_eq_of_append h).1
    rw [hkeyBits]
    rfl
  | aes keyBits' mode' =>
    obtain rfl : alg = .aes := halg
    simp only [List.append_assoc] at h
    obtain ⟨hkeyBits, h⟩ := be16_eq_of_append h
    have hmode : mode = mode' := (AlgId.eq_of_append h).1
    rw [hkeyBits, hmode]
    rfl

instance : Wire.Shows SymmetricDefinition where
  canonical := SymmetricDefinition.canonical
  maxLength := 6
  horizon := 2 ^ 16
  canonical_of_valid h := by cases h <;> rfl
  write_canonical d := by
    obtain ⟨alg, _, _⟩ := d
    cases alg <;> rfl
  length_write_le h := by
    cases h <;> simp [Wire.write, SymmetricDefinition.null]
  eq_canonical _ hw h := SymmetricDefinition.eq_canonical hw h

/-- Every form of a signature starts with its scheme. -/
theorem Signature.scheme_eq_of_append {v w : Signature} {rest rest' : Bytes}
    (h : Wire.write v ++ rest = Wire.write w ++ rest') : v.scheme = w.scheme := by
  cases v <;> cases w <;> simp only [Wire.write, List.append_assoc] at h <;>
    exact (AlgId.eq_of_append h).1

theorem Signature.eq_of_write_append {v w : Signature} {rest rest' : Bytes}
    (hlt : (Wire.write v).length < 2 ^ 16) (hw : w.Valid)
    (h : Wire.write v ++ rest = Wire.write w ++ rest') : w = v := by
  have hscheme := scheme_eq_of_append h
  cases hw with
  | null =>
    cases v with
    | null => rfl
    | _ => cases hscheme
  | @rsaSsa hash' sig' _ hsig' =>
    cases v with
    | rsaSsa hash sig =>
      simp only [Wire.write, List.append_assoc] at h
      simp only [Wire.write, List.length_append, length_sizedBytes] at hlt
      obtain ⟨_, hhash⟩ := AlgId.eq_of_append h
      obtain ⟨rfl, hsig⟩ := AlgId.eq_of_append hhash
      have heq := eq_of_sizedBytes_append (by omega) hsig'.lt_two_pow hsig
      exact congrArg (rsaSsa hash) (congrArg Sized.mk heq.symm)
    | _ => cases hscheme
  | @ecdsa hash' r' s' _ hr' hs' =>
    cases v with
    | ecdsa hash r s =>
      simp only [Wire.write, List.append_assoc] at h
      simp only [Wire.write, List.length_append, length_sizedBytes] at hlt
      obtain ⟨_, hhash⟩ := AlgId.eq_of_append h
      obtain ⟨rfl, hr⟩ := AlgId.eq_of_append hhash
      have heqR := eq_of_sizedBytes_append (by omega) hr'.lt_two_pow hr
      rw [heqR] at hr
      have hs := List.append_cancel_left hr
      have heqS := eq_of_sizedBytes_append (by omega) hs'.lt_two_pow hs
      exact congrArg₂ (ecdsa hash) (congrArg Sized.mk heqR.symm) (congrArg Sized.mk heqS.symm)
    | _ => cases hscheme

instance : Wire.Shows Signature where
  canonical signature := signature
  maxLength := 4 + (2 + maxSignatureSize)
  horizon := 2 ^ 16
  canonical_of_valid _ := rfl
  write_canonical _ := rfl
  length_write_le h := by
    cases h with
    | null => decide
    | rsaSsa _ hsig =>
      have hmax := hsig.le_max
      simp only [Wire.write, List.length_append, length_be16, length_sizedBytes]
      omega
    | ecdsa _ hr hs =>
      have hmaxR := hr.le_max
      have hmaxS := hs.le_max
      simp only [Wire.write, List.length_append, length_be16, length_sizedBytes]
      unfold maxDigestSize at hmaxR hmaxS
      unfold maxSignatureSize
      omega
  eq_canonical hlt hw h := Signature.eq_of_write_append hlt hw h

instance : Wire.Shows Ticket where
  canonical ticket := ticket
  maxLength := 6 + (2 + maxDigestSize)
  horizon := 2 ^ 16
  canonical_of_valid _ := rfl
  write_canonical _ := rfl
  length_write_le {ticket} h := by
    have hmax : ticket.digest.bytes.length ≤ maxDigestSize := h.le_max
    simp only [Wire.write, List.length_append, length_be16, length_be32, length_sizedBytes]
    omega
  eq_canonical {v w _ _} hlt hw h := by
    obtain ⟨tag, hierarchy, digest⟩ := v
    obtain ⟨tag', hierarchy', digest'⟩ := w
    simp only [Wire.write, List.append_assoc] at h
    simp only [Wire.write, List.length_append, length_sizedBytes] at hlt
    obtain ⟨rfl, htag⟩ := (StructureTag.reads tag).unique (StructureTag.reads tag') h
    obtain ⟨rfl, hhierarchy⟩ := (Reader.Reads.word32 hierarchy).unique (.word32 hierarchy') htag
    have heq := eq_of_sizedBytes_append (by omega) hw.lt_two_pow hhierarchy
    exact congrArg (Ticket.mk tag hierarchy) (congrArg Sized.mk heq.symm)

/-! ## Selections of PCRs -/

instance : Wire.Shows PcrSelection where
  canonical selection := selection
  maxLength := 3 + pcrSelectMax
  horizon := 2 ^ 8
  canonical_of_valid _ := rfl
  write_canonical _ := rfl
  length_write_le {selection} h := by
    have hmax := h.bitmap
    simp only [Wire.write, List.length_append, length_be16, List.length_singleton]
    omega
  eq_canonical {v w _ _} hlt hw h := by
    obtain ⟨hash, bitmap⟩ := v
    obtain ⟨hash', bitmap'⟩ := w
    have hlength : bitmap.length < 2 ^ 8 := by
      simp only [Wire.write, List.length_append] at hlt
      omega
    have hlength' : bitmap'.length < 2 ^ 8 := Nat.lt_of_le_of_lt hw.bitmap (by decide)
    simp only [Wire.write, List.append_assoc] at h
    obtain ⟨rfl, hhash⟩ := AlgId.eq_of_append h
    obtain ⟨hcount, hbitmap⟩ := (Reader.Reads.octet _).unique (.octet _) hhash
    have hcount : bitmap.length = bitmap'.length := by
      have hnat := congrArg UInt8.toNat hcount
      rw [UInt8.toNat_ofNat', UInt8.toNat_ofNat', Nat.mod_eq_of_lt hlength,
        Nat.mod_eq_of_lt hlength'] at hnat
      exact hnat
    rw [List.append_inj_left hbitmap hcount]

/-- As many items as were written, one after the other, are the ones that were written. -/
theorem Wire.eq_of_flatMap_append {α : Type} [Wire α] [Wire.Shows α] {items items' : List α}
    {rest rest' : Bytes} (hlength : items.length = items'.length)
    (hlt : (items.flatMap Wire.write).length < Wire.Shows.horizon α)
    (hvalid : ∀ item ∈ items', Wire.Valid item)
    (h : items.flatMap Wire.write ++ rest = items'.flatMap Wire.write ++ rest') :
    items' = items.map Wire.canonical := by
  induction items generalizing items' with
  | nil =>
    rw [List.length_nil] at hlength
    exact List.length_eq_zero_iff.mp hlength.symm
  | cons item items ih =>
    match items', hlength with
    | item' :: items', hlength =>
      obtain ⟨hitem, hitems⟩ := List.forall_mem_cons.mp hvalid
      simp only [List.flatMap_cons, List.append_assoc, List.length_append] at h hlt
      obtain ⟨rfl, hrest⟩ := Wire.eq_canonical_and_rest (by omega) hitem h
      rw [List.map_cons, ih (Nat.succ.inj hlength) (by omega) hitems hrest]

/-- No bank is written in fewer than three octets. -/
theorem PcrSelection.length_le_length_flatMap (banks : List PcrSelection) :
    3 * banks.length ≤ (banks.flatMap Wire.write).length := by
  induction banks with
  | nil => exact Nat.zero_le _
  | cons bank banks ih =>
    simp only [List.flatMap_cons, Wire.write, List.length_append, length_be16,
      List.length_cons] at ih ⊢
    omega

/-- Items with short forms have a short form together. -/
theorem Wire.length_flatMap_le {α : Type} [Wire α] [Wire.Shows α] {items : List α}
    (hvalid : ∀ item ∈ items, Wire.Valid item) :
    (items.flatMap Wire.write).length ≤ items.length * Wire.Shows.maxLength α := by
  induction items with
  | nil => exact Nat.zero_le _
  | cons item items ih =>
    obtain ⟨hitem, hitems⟩ := List.forall_mem_cons.mp hvalid
    have hfirst := Wire.Shows.length_write_le hitem
    have hothers := ih hitems
    rw [List.flatMap_cons, List.length_append, List.length_cons, Nat.succ_mul]
    omega

instance : Wire.Shows PcrSelections where
  canonical selections := selections
  maxLength := 4 + maxBanks * (3 + pcrSelectMax)
  horizon := 2 ^ 8
  canonical_of_valid _ := rfl
  write_canonical _ := rfl
  length_write_le {selections} h := by
    have hbanks := Wire.length_flatMap_le h.each
    have hmax := Nat.mul_le_mul_right (3 + pcrSelectMax) h.banks
    show (be32 _ ++ selections.banks.flatMap Wire.write).length ≤ _
    rw [List.length_append, length_be32]
    exact Nat.add_le_add_left (Nat.le_trans hbanks hmax) 4
  eq_canonical {v w _ _} hlt hw h := by
    obtain ⟨banks⟩ := v
    obtain ⟨banks'⟩ := w
    have hbanks : (banks.flatMap Wire.write).length < 2 ^ 8 := by
      simp only [Wire.write, List.length_append] at hlt ⊢
      omega
    have hlength := PcrSelection.length_le_length_flatMap banks
    have hlength' : banks'.length ≤ maxBanks := hw.banks
    simp only [Wire.write, List.append_assoc] at h
    obtain ⟨hcount, hitems⟩ := (Reader.Reads.word32 _).unique (.word32 _) h
    have hcount : banks.length = banks'.length := by
      have hnat := congrArg UInt32.toNat hcount
      unfold maxBanks at hlength'
      rw [UInt32.toNat_ofNat', UInt32.toNat_ofNat', Nat.mod_eq_of_lt (by omega),
        Nat.mod_eq_of_lt (by omega)] at hnat
      exact hnat
    have heq := Wire.eq_of_flatMap_append hcount hbanks hw.each hitems
    rw [heq]
    exact congrArg PcrSelections.mk (List.map_id banks)

end TrustedPlatform
