import TrustedPlatform.PcrBanks
import TrustedPlatform.Proofs.Computation

/-!
# Reading and extending PCR banks

Every extend is counted, and one that is refused changes nothing. The digest of a selection is the
hash of the selected registers, bank by bank.
-/

namespace TrustedPlatform.PcrBanks

variable {banks next : PcrBanks}

/-! ## Extends -/

/-- There are no registers from `pcrCount` on. -/
theorem extend_of_le {index : Nat} (h : pcrCount ≤ index) (data : Bytes) :
    banks.extend index data = .error .value :=
  if_pos h

/-- An extend is counted. -/
theorem extend_of_lt (banks : PcrBanks) {index : Nat} (h : index < pcrCount) (data : Bytes) :
    ∃ next, banks.extend index data = .ok next ∧
      next.updateCounter = banks.updateCounter + 1 :=
  ⟨_, if_neg (Nat.not_le.mpr h), rfl⟩

/-! ## Digests -/

/-- What is read from the selected registers, bank by bank. -/
def readAll (banks : PcrBanks) (selections : List PcrSelection) : List (Option Bytes) :=
  selections.flatMap fun selection => selection.selected.map (banks.read · selection.hash)

theorem getElem?_of_valuesAt {registers values : List Bytes} {indices : List Nat}
    (h : valuesAt registers indices = .ok values) :
    indices.map (registers[·]?) = values.map some := by
  induction indices generalizing values with
  | nil =>
    cases h
    rfl
  | cons index indices ih =>
    unfold valuesAt at h
    cases hvalue : registers[index]? with
    | none =>
      rw [hvalue] at h
      cases h
    | some value =>
      rw [hvalue] at h
      obtain ⟨others, hothers, hpure⟩ := Except.bind_eq_ok_iff.mp h
      cases Except.pure_eq_ok_iff.mp hpure
      rw [List.map_cons, List.map_cons, hvalue, ih hothers]

theorem readAll_of_selectedValues {selections : List PcrSelection} {values : List Bytes}
    (h : banks.selectedValues selections = .ok values) :
    banks.readAll selections = values.map some := by
  induction selections generalizing values with
  | nil =>
    cases h
    rfl
  | cons selection selections ih =>
    unfold selectedValues at h
    cases hhash : selection.hash.hash? with
    | none =>
      rw [hhash] at h
      cases h
    | some hash =>
      rw [hhash] at h
      obtain ⟨first, hfirst, hrest⟩ := Except.bind_eq_ok_iff.mp h
      obtain ⟨others, hothers, hpure⟩ := Except.bind_eq_ok_iff.mp hrest
      cases Except.pure_eq_ok_iff.mp hpure
      have hread : (banks.read · selection.hash) = ((banks.values hash)[·]?) := by
        funext index
        rw [read, hhash]
        rfl
      have htail : banks.readAll selections = others.map some := ih hothers
      rw [List.map_append, ← htail, ← getElem?_of_valuesAt hfirst, ← hread]
      rfl

/-- The digest of a selection is the hash of the values of the registers that it selects. -/
theorem of_digest {selections : PcrSelections} {alg : AlgId} {value : Bytes}
    (h : banks.digest selections alg = .ok value) :
    ∃ (hash : HashId) (values : List Bytes), alg = hash.alg ∧
      banks.readAll selections.banks = values.map some ∧ value = hash.digest values.flatten := by
  obtain ⟨values, hvalues, hrest⟩ := Except.bind_eq_ok_iff.mp h
  cases hhash : alg.hash? with
  | none =>
    rw [hhash] at hrest
    cases hrest
  | some hash =>
    rw [hhash] at hrest
    cases Except.pure_eq_ok_iff.mp hrest
    exact ⟨hash, values, AlgId.hash?_eq_some_iff.mp hhash, readAll_of_selectedValues hvalues, rfl⟩

end TrustedPlatform.PcrBanks
