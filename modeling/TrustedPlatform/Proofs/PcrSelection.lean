import Mathlib.Data.Finset.Sort
import TrustedPlatform.PcrSelection

/-!
# Bitmaps as sets of PCRs

A bitmap stands for the set of the PCRs whose bits are set. Setting bits one after the other puts
PCRs into the set, in whatever order and however often; listing the selected indices enumerates the
set, ascending. Between bitmaps of one length and sets, each shows the other.
-/

namespace TrustedPlatform

namespace PcrSelection

/-- Whether the bit of PCR `pcr` is set. No bit past the end is. -/
def bitAt (bitmap : Bytes) (pcr : Nat) : Bool :=
  (bitmap[pcr / 8]?.getD 0).toNat.testBit (pcr % 8)

/-- The PCRs of a bank among those asked for. -/
def inBank (pcrs : List UInt32) : Finset Nat :=
  (pcrs.map UInt32.toNat).toFinset.filter (· < pcrCount)

variable {bitmap other : Bytes} {i : Nat}

/-! ## Bits -/

theorem bitAt_eq_true_iff :
    bitAt bitmap i = true ↔
      ∃ octet, bitmap[i / 8]? = some octet ∧ octet.toNat.testBit (i % 8) = true := by
  unfold bitAt
  cases bitmap[i / 8]? with
  | none => simp
  | some octet => simp

theorem lt_of_bitAt (h : bitAt bitmap i = true) : i < 8 * bitmap.length := by
  obtain ⟨octet, hoctet, _⟩ := bitAt_eq_true_iff.mp h
  have hlt := (List.getElem?_eq_some_iff.mp hoctet).1
  omega

/-- A bit that is set in an octet leaves the other bits as they are. -/
theorem testBit_or_bit (octet : UInt8) {k j : Nat} (hk : k < 8) (hj : j < 8) :
    (octet ||| (1 <<< UInt8.ofNat k)).toNat.testBit j =
      (octet.toNat.testBit j || decide (j = k)) := by
  have hbit : ∀ k < 8, ∀ j < 8,
      ((1 : UInt8) <<< UInt8.ofNat k).toNat.testBit j = decide (j = k) := by decide
  rw [UInt8.toNat_or, Nat.testBit_or, hbit k hk j hj]

@[simp] theorem length_setBit (bitmap : Bytes) (pcr : Nat) :
    (setBit bitmap pcr).length = bitmap.length := List.length_modify ..

/-- Setting a bit puts its PCR into the set, if the bitmap has such a bit. -/
theorem bitAt_setBit (bitmap : Bytes) (pcr i : Nat) :
    bitAt (setBit bitmap pcr) i = true ↔
      bitAt bitmap i = true ∨ (i = pcr ∧ i < 8 * bitmap.length) := by
  unfold bitAt setBit
  rw [List.getElem?_modify]
  cases hoctet : bitmap[i / 8]? with
  | none =>
    have hlength := List.getElem?_eq_none_iff.mp hoctet
    have hpast : ¬i < 8 * bitmap.length := by omega
    simp [hpast]
  | some octet =>
    have hlt : i < 8 * bitmap.length := by
      have := (List.getElem?_eq_some_iff.mp hoctet).1
      omega
    by_cases hsame : pcr / 8 = i / 8
    · have hindex : i % 8 = pcr % 8 ↔ i = pcr := by omega
      have hbit := testBit_or_bit octet (Nat.mod_lt pcr (by decide : 0 < 8))
        (Nat.mod_lt i (by decide : 0 < 8))
      simp only [Option.map_eq_map, Option.map_some, Option.getD_some, if_pos hsame]
      rw [hbit, Bool.or_eq_true, decide_eq_true_eq, hindex]
      simp [hlt]
    · have hne : i ≠ pcr := by
        rintro rfl
        exact hsame rfl
      simp [hsame, hne]

theorem length_foldl_setBit (pcrs : List UInt32) (bitmap : Bytes) :
    (pcrs.foldl (fun bitmap pcr => setBit bitmap pcr.toNat) bitmap).length = bitmap.length := by
  induction pcrs generalizing bitmap with
  | nil => rfl
  | cons pcr pcrs ih => rw [List.foldl_cons, ih, length_setBit]

/-- Setting bits one after the other puts all their PCRs into the set. -/
theorem bitAt_foldl_setBit (pcrs : List UInt32) (bitmap : Bytes) (i : Nat) :
    bitAt (pcrs.foldl (fun bitmap pcr => setBit bitmap pcr.toNat) bitmap) i = true ↔
      bitAt bitmap i = true ∨ (i ∈ pcrs.map UInt32.toNat ∧ i < 8 * bitmap.length) := by
  induction pcrs generalizing bitmap with
  | nil => simp
  | cons pcr pcrs ih =>
    rw [List.foldl_cons, ih, bitAt_setBit, length_setBit, List.map_cons, List.mem_cons]
    tauto

/-- Two bitmaps of one length that stand for one set are one. -/
theorem eq_of_bitAt (hlength : bitmap.length = other.length)
    (h : ∀ i, bitAt bitmap i = true ↔ bitAt other i = true) : bitmap = other := by
  refine List.ext_getElem hlength fun j hj hj' => ?_
  apply UInt8.toNat_inj.mp
  apply Nat.eq_of_testBit_eq
  intro k
  by_cases hk : k < 8
  · have hdiv : (8 * j + k) / 8 = j := by omega
    have hmod : (8 * j + k) % 8 = k := by omega
    have hbit := Bool.eq_iff_iff.mpr (h (8 * j + k))
    unfold bitAt at hbit
    rw [hdiv, hmod, List.getElem?_eq_getElem hj, List.getElem?_eq_getElem hj'] at hbit
    exact hbit
  · -- an octet has no further bits
    have hpast : ∀ octet : UInt8, octet.toNat.testBit k = false := fun octet =>
      Nat.testBit_lt_two_pow (Nat.lt_of_lt_of_le octet.toNat_lt
        (Nat.pow_le_pow_right (by decide) (Nat.le_of_not_lt hk)))
    rw [hpast, hpast]

/-- Zero octets behind a bitmap add nothing to the set. -/
theorem bitAt_append_zeros (bitmap : Bytes) (n i : Nat) :
    bitAt (bitmap ++ Bytes.zeros n) i = bitAt bitmap i := by
  unfold bitAt Bytes.zeros
  by_cases hlt : i / 8 < bitmap.length
  · rw [List.getElem?_append_left hlt]
  · have hle := Nat.le_of_not_lt hlt
    rw [List.getElem?_append_right hle, List.getElem?_eq_none hle, List.getElem?_replicate]
    split <;> rfl

/-! ## Selected indices -/

theorem mem_selectedFrom {first : Nat} {octet : UInt8} :
    i ∈ selectedFrom first octet ↔ ∃ bit < 8, octet.toNat.testBit bit = true ∧ i = first + bit := by
  unfold selectedFrom
  simp only [List.mem_map, List.mem_filter, List.mem_range, and_assoc, eq_comm]

/-- The selected indices are those whose bits are set. -/
theorem mem_selected {selection : PcrSelection} :
    i ∈ selection.selected ↔ bitAt selection.bitmap i = true := by
  rw [bitAt_eq_true_iff, selected, List.mem_flatMap]
  constructor
  · rintro ⟨⟨octet, j⟩, hmem, hindex⟩
    obtain ⟨bit, hbit, htest, rfl⟩ := mem_selectedFrom.mp hindex
    have hdiv : (8 * j + bit) / 8 = j := by omega
    have hmod : (8 * j + bit) % 8 = bit := by omega
    rw [hdiv, hmod]
    exact ⟨octet, List.mem_zipIdx_iff_getElem?.mp hmem, htest⟩
  · rintro ⟨octet, hoctet, htest⟩
    refine ⟨(octet, i / 8), List.mem_zipIdx_iff_getElem?.mpr hoctet, mem_selectedFrom.mpr ?_⟩
    exact ⟨i % 8, Nat.mod_lt i (by decide), htest, (Nat.div_add_mod i 8).symm⟩

/-- The selected indices ascend, within an octet and from one octet to the next. -/
theorem pairwise_selected (selection : PcrSelection) : selection.selected.Pairwise (· < ·) := by
  rw [selected, List.pairwise_flatMap]
  constructor
  · rintro ⟨octet, j⟩ _
    refine List.Pairwise.map _ (fun a b hlt => ?_) (List.pairwise_lt_range.filter _)
    exact Nat.add_lt_add_left hlt (8 * j)
  · have hindices : (selection.bitmap.zipIdx.map Prod.snd).Pairwise (· < ·) := by
      rw [List.zipIdx_map_snd, ← List.range_eq_range']
      exact List.pairwise_lt_range
    refine (List.pairwise_map.mp hindices).imp fun {first second} hlt => ?_
    intro a ha b hb
    obtain ⟨bit, hbit, _, rfl⟩ := mem_selectedFrom.mp ha
    obtain ⟨bit', _, _, rfl⟩ := mem_selectedFrom.mp hb
    omega

/-- The indices in a bitmap that is not too long are those of PCRs. -/
theorem lt_of_mem_selected {selection : PcrSelection}
    (hlength : selection.bitmap.length ≤ pcrSelectMax) (h : i ∈ selection.selected) :
    i < pcrCount := by
  have hlt := lt_of_bitAt (mem_selected.mp h)
  unfold pcrCount
  omega

/-! ## Selections made of indices -/

@[simp] theorem length_bitmap_ofIndices (hash : AlgId) (pcrs : List UInt32) :
    (ofIndices hash pcrs).bitmap.length = pcrSelectMax := by
  rw [ofIndices, length_foldl_setBit, Bytes.length_zeros]

/-- The bits that are set are those of the PCRs asked for, as far as the bank has them. -/
theorem bitAt_ofIndices (hash : AlgId) (pcrs : List UInt32) (i : Nat) :
    bitAt (ofIndices hash pcrs).bitmap i = true ↔ i ∈ inBank pcrs := by
  have hzeros : bitAt (Bytes.zeros pcrSelectMax) i = false := by
    rw [← List.nil_append (Bytes.zeros pcrSelectMax), bitAt_append_zeros]
    exact Nat.zero_testBit _
  have hcount : 8 * pcrSelectMax = pcrCount := rfl
  rw [ofIndices, bitAt_foldl_setBit, hzeros, Bytes.length_zeros, hcount, inBank, Finset.mem_filter,
    List.mem_toFinset]
  simp

theorem selected_ofIndices (hash : AlgId) (pcrs : List UInt32) :
    (ofIndices hash pcrs).selected = (inBank pcrs).sort := by
  have hascending := pairwise_selected (ofIndices hash pcrs)
  have hset : (ofIndices hash pcrs).selected.toFinset = inBank pcrs := by
    ext i
    rw [List.mem_toFinset, mem_selected, bitAt_ofIndices]
  rw [← hset]
  exact ((List.toFinset_sort _ (hascending.imp Nat.ne_of_lt)).mpr
    (hascending.imp Nat.le_of_lt)).symm

theorem ofIndices_eq_iff {hash : AlgId} {pcrs others : List UInt32} :
    ofIndices hash pcrs = ofIndices hash others ↔ inBank pcrs = inBank others := by
  constructor
  · intro h
    ext i
    rw [← bitAt_ofIndices hash, h, bitAt_ofIndices]
  · intro h
    have hbitmap : (ofIndices hash pcrs).bitmap = (ofIndices hash others).bitmap := by
      refine eq_of_bitAt ?_ fun i => ?_
      · rw [length_bitmap_ofIndices, length_bitmap_ofIndices]
      · rw [bitAt_ofIndices, bitAt_ofIndices, h]
    exact congrArg (PcrSelection.mk hash) hbitmap

/-- The octets on the wire show the set, and nothing else of what was asked for. -/
theorem write_ofIndices_eq_iff {hash : AlgId} {pcrs others : List UInt32} :
    Wire.write (ofIndices hash pcrs) = Wire.write (ofIndices hash others) ↔
      inBank pcrs = inBank others := by
  constructor
  · intro h
    have hbitmap : (ofIndices hash pcrs).bitmap = (ofIndices hash others).bitmap :=
      (List.append_inj' h (by rw [length_bitmap_ofIndices, length_bitmap_ofIndices])).2
    have hsame : ofIndices hash pcrs = ofIndices hash others :=
      congrArg (PcrSelection.mk hash) hbitmap
    exact ofIndices_eq_iff.mp hsame
  · intro h
    rw [ofIndices_eq_iff.mpr h]

/-- Indices of PCRs fit their words. -/
theorem mem_inBank_map_ofNat {indices : List Nat} (h : ∀ pcr ∈ indices, pcr < pcrCount) :
    i ∈ inBank (indices.map UInt32.ofNat) ↔ i ∈ indices := by
  have hwords : (indices.map UInt32.ofNat).map UInt32.toNat = indices := by
    have hword : ∀ pcr ∈ indices, (UInt32.toNat ∘ UInt32.ofNat) pcr = id pcr := by
      intro pcr hpcr
      have hlt : pcr < 2 ^ 32 := Nat.lt_trans (h pcr hpcr) (by decide)
      exact UInt32.toNat_ofNat_of_lt' hlt
    rw [List.map_map, List.map_congr_left hword, List.map_id]
  rw [inBank, hwords, Finset.mem_filter, List.mem_toFinset, and_iff_left_of_imp (h i)]

/-- The indices of a bitmap that is not too long make up the bitmap again. -/
theorem ofIndices_selected (hash : AlgId) (hlength : bitmap.length ≤ pcrSelectMax) :
    ofIndices hash ((selected ⟨hash, bitmap⟩).map UInt32.ofNat) =
      ⟨hash, bitmap ++ Bytes.zeros (pcrSelectMax - bitmap.length)⟩ := by
  have hbound : ∀ pcr ∈ selected ⟨hash, bitmap⟩, pcr < pcrCount := fun _ =>
    lt_of_mem_selected hlength
  have hbitmap : (ofIndices hash ((selected ⟨hash, bitmap⟩).map UInt32.ofNat)).bitmap =
      bitmap ++ Bytes.zeros (pcrSelectMax - bitmap.length) := by
    refine eq_of_bitAt ?_ fun i => ?_
    · rw [length_bitmap_ofIndices, List.length_append, Bytes.length_zeros]
      omega
    · rw [bitAt_ofIndices, mem_inBank_map_ofNat hbound, mem_selected, bitAt_append_zeros]
  exact congrArg (PcrSelection.mk hash) hbitmap

/-- Selecting PCRs keeps the set of those in the bank, which its list of indices enumerates and its
octets show; a bitmap of any length lists the bits that are set in it, and is made again of them if
it is no longer than a bank. -/
theorem bitmap_means_set (hash : AlgId) :
    (∀ pcrs : List UInt32, (ofIndices hash pcrs).selected = (inBank pcrs).sort) ∧
    (∀ pcrs others : List UInt32,
      (ofIndices hash pcrs = ofIndices hash others ↔ inBank pcrs = inBank others) ∧
      (Wire.write (ofIndices hash pcrs) = Wire.write (ofIndices hash others) ↔
        inBank pcrs = inBank others)) ∧
    ∀ bitmap : Bytes,
      (selected ⟨hash, bitmap⟩).Pairwise (· < ·) ∧
      (∀ i, i ∈ selected ⟨hash, bitmap⟩ ↔
        ∃ octet, bitmap[i / 8]? = some octet ∧ octet.toNat.testBit (i % 8) = true) ∧
      (bitmap.length ≤ pcrSelectMax →
        ofIndices hash ((selected ⟨hash, bitmap⟩).map UInt32.ofNat) =
          ⟨hash, bitmap ++ Bytes.zeros (pcrSelectMax - bitmap.length)⟩) := by
  refine ⟨selected_ofIndices hash, fun pcrs others => ?_, fun bitmap => ?_⟩
  · exact ⟨ofIndices_eq_iff, write_ofIndices_eq_iff⟩
  · refine ⟨pairwise_selected ⟨hash, bitmap⟩, fun i => ?_, ofIndices_selected hash⟩
    exact mem_selected.trans bitAt_eq_true_iff

/-- The first and the last PCR of a bitmap of two octets. -/
theorem bitmap_means_set_short :
    ([0x01, 0x80] : Bytes).length ≤ pcrSelectMax ∧
      selected ⟨.sha256, [0x01, 0x80]⟩ = [0, 15] ∧
      ofIndices .sha256 ((selected ⟨.sha256, [0x01, 0x80]⟩).map UInt32.ofNat) =
        ⟨.sha256, [0x01, 0x80, 0x00]⟩ :=
  ⟨by decide, by decide, ((bitmap_means_set .sha256).2.2 [0x01, 0x80]).2.2 (by decide)⟩

end PcrSelection

end TrustedPlatform
