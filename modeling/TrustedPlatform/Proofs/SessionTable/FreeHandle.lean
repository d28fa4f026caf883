import Mathlib.Algebra.Group.Nat.Defs
import Mathlib.Data.List.Perm.Subperm
import TrustedPlatform.Proofs.SessionTable.Operation

/-!
# The search for a free handle

A range has `2 ^ 24` handles, and handles of consecutive indices are different until the range has
been gone through. The search for a free handle therefore ends as soon as it has tried one handle
more than there are live sessions in the range, unless every handle of the range is in use. The
search that starts a session has a bound; `freeHandle?_eq_some_iff` compares it with one that goes
on until it finds a handle.
-/

namespace TrustedPlatform

namespace SessionTable

variable {table : SessionTable} {kind : HandleKind} {tries : Nat} {index : UInt32}

/-- The handles in use among those of a kind. -/
def liveIn (table : SessionTable) (kind : HandleKind) : List UInt32 :=
  table.handles.filter (HandleKind.of? · = some kind)

theorem mem_handles_of_contains {handle : UInt32} (h : table.contains handle = true) :
    handle ∈ table.handles := by
  by_contra habsent
  rw [contains, get?_eq_none_iff.mpr habsent] at h
  cases h

/-- Every handle that was tried in vain is in use. -/
theorem contains_of_freeHandle?_eq_none (h : table.freeHandle? kind tries index = none) :
    ∀ i < tries, table.contains (kind.handle (index + UInt32.ofNat i)) = true := by
  induction tries generalizing index with
  | zero =>
    intro i hi
    omega
  | succ tries ih =>
    unfold freeHandle? at h
    by_cases hused : table.contains (kind.handle index) = true
    · rw [if_pos hused] at h
      intro i hi
      cases i with
      | zero =>
        show table.contains (kind.handle (index + 0)) = true
        rw [UInt32.add_zero]
        exact hused
      | succ i =>
        have hnext := ih h i (by omega)
        rw [← add_one_add_ofNat]
        exact hnext
    · rw [if_neg hused] at h
      cases h

/-- A handle is found if the search tries more of them than are in use, and not all of the range are
in use. -/
theorem freeHandle?_isSome (hrange : (table.liveIn kind).length < 2 ^ 24)
    (htries : (table.liveIn kind).length < tries) :
    (table.freeHandle? kind tries index).isSome := by
  by_contra hnone
  have hused := contains_of_freeHandle?_eq_none (Option.not_isSome_iff_eq_none.mp hnone)
  -- the handles tried so far are one too many to be all in use
  let tried := (List.range ((table.liveIn kind).length + 1)).map fun i =>
    kind.handle (index + UInt32.ofNat i)
  have hnodup : tried.Nodup := by
    refine List.Nodup.map_on (fun i hi j hj heq => ?_) List.nodup_range
    rw [List.mem_range] at hi hj
    exact kind.eq_of_handle_add_eq index (by omega) (by omega) heq
  have hsubset : tried ⊆ table.liveIn kind := by
    intro handle hmem
    obtain ⟨i, hi, rfl⟩ := List.mem_map.mp hmem
    rw [List.mem_range] at hi
    refine List.mem_filter.mpr ⟨mem_handles_of_contains (hused i (by omega)), ?_⟩
    rw [HandleKind.of?_handle, decide_eq_true_eq]
  have hlength := (List.subperm_of_subset hnodup hsubset).length_le
  rw [List.length_map, List.length_range] at hlength
  omega

/-- No more handles of a kind are in use than there are sessions. -/
theorem length_liveIn_le (table : SessionTable) (kind : HandleKind) :
    (table.liveIn kind).length ≤ table.size := by
  rw [← length_handles]
  exact List.length_filter_le _ _

/-- Dropping sessions frees handles. -/
theorem length_liveIn_erase_le (table : SessionTable) (handle : UInt32) (kind : HandleKind) :
    ((table.erase handle).liveIn kind).length ≤ (table.liveIn kind).length :=
  ((handles_erase table handle).filter _).length_le

/-- Making room for a session takes no handles. -/
theorem length_liveIn_of_makeRoom {roomy : SessionTable} (h : table.makeRoom = .ok roomy)
    (kind : HandleKind) : (roomy.liveIn kind).length ≤ (table.liveIn kind).length := by
  rcases makeRoom_eq_ok_iff.mp h with ⟨_, rfl⟩ | ⟨_, _, _, rfl⟩
  · exact Nat.le_refl _
  · cases table.leastRecent? with
    | none => exact Nat.le_refl _
    | some victim => exact length_liveIn_erase_le table victim kind

/-! ## The search without a bound -/

variable {turns : Nat} {handle nextIndex : UInt32}

/-- Looking at one handle after the other, from that of `index` on and for as long as it takes, ends
in turn `turns` with `handle`, which is free, and goes on at `nextIndex` next time. -/
inductive Searches (table : SessionTable) (kind : HandleKind) :
    (index : UInt32) → (turns : Nat) → (handle nextIndex : UInt32) → Prop
  | free {index : UInt32} (h : table.contains (kind.handle index) = false) :
    Searches table kind index 1 (kind.handle index) (index + 1)
  | inUse {index handle nextIndex : UInt32} {turns : Nat}
    (h : table.contains (kind.handle index) = true)
    (hrest : Searches table kind (index + 1) turns handle nextIndex) :
    Searches table kind index (turns + 1) handle nextIndex

/-- A search that may try so many handles finds what the search without a bound finds in so many
turns. -/
theorem freeHandle?_eq_some_iff :
    table.freeHandle? kind tries index = some (handle, nextIndex) ↔
      ∃ turns ≤ tries, table.Searches kind index turns handle nextIndex := by
  induction tries generalizing index with
  | zero =>
    constructor
    · intro h
      cases h
    · rintro ⟨turns, hturns, hsearch⟩
      cases hsearch <;> omega
  | succ tries ih =>
    rw [freeHandle?]
    cases hlive : table.contains (kind.handle index) with
    | false =>
      constructor
      · intro h
        cases h
        exact ⟨1, by omega, .free hlive⟩
      · rintro ⟨turns, _, hsearch⟩
        cases hsearch with
        | free _ => rfl
        | inUse h _ =>
          rw [hlive] at h
          cases h
    | true =>
      constructor
      · intro h
        obtain ⟨turns, hturns, hsearch⟩ := ih.mp h
        exact ⟨turns + 1, by omega, .inUse hlive hsearch⟩
      · rintro ⟨turns, hturns, hsearch⟩
        cases hsearch with
        | free h =>
          rw [hlive] at h
          cases h
        | inUse _ hrest => exact ih.mpr ⟨_, by omega, hrest⟩

/-- What the search ends with is a handle of its kind that is not in use. -/
theorem of_searches (h : table.Searches kind index turns handle nextIndex) :
    HandleKind.of? handle = some kind ∧ table.contains handle = false := by
  obtain ⟨⟨i, rfl⟩, hfree⟩ := of_freeHandle? (freeHandle?_eq_some_iff.mpr ⟨turns, Nat.le_refl _, h⟩)
  exact ⟨HandleKind.of?_handle kind i, hfree⟩

/-- Unless every handle of a range is in use, the search ends, after one turn more than handles of
the range are in use at the latest. -/
theorem exists_searches (hrange : (table.liveIn kind).length < 2 ^ 24) (index : UInt32) :
    ∃ turns ≤ (table.liveIn kind).length + 1, ∃ handle nextIndex,
      table.Searches kind index turns handle nextIndex := by
  have hfound : (table.freeHandle? kind ((table.liveIn kind).length + 1) index).isSome :=
    freeHandle?_isSome hrange (Nat.lt_succ_self _)
  obtain ⟨⟨handle, nextIndex⟩, hfree⟩ := Option.isSome_iff_exists.mp hfound
  obtain ⟨turns, hturns, hsearch⟩ := freeHandle?_eq_some_iff.mp hfree
  exact ⟨turns, hturns, handle, nextIndex, hsearch⟩

/-! ## Sessions that are started -/

/-- Unless every handle of its range is in use, a session is started under a handle of the range
that no session has, once there is room; the search for it ends whatever the next index is. Only a
table without room refuses the session, and stays as it was. -/
theorem start_allots_fresh_handle (table : SessionTable) (parameters : SessionParameters)
    (hrange : (table.liveIn (handleKind parameters.kind)).length < 2 ^ 24) :
    (∀ index, ∃ turns ≤ (table.liveIn (handleKind parameters.kind)).length + 1,
      ∃ handle nextIndex, table.Searches (handleKind parameters.kind) index turns handle nextIndex ∧
        HandleKind.of? handle = some (handleKind parameters.kind) ∧
        table.contains handle = false) ∧
    ((table.capacity ≤ table.size ∧ (table.evicts = false ∨ table.capacity = 0) ∧
        start parameters table = .error (.ofCause (.exhausted .sessionTable)) table) ∨
      ∃ roomy turns handle next, table.Roomy roomy ∧
        turns ≤ (roomy.liveIn (handleKind parameters.kind)).length + 1 ∧
        roomy.Searches (handleKind parameters.kind) table.nextIndex turns handle next.nextIndex ∧
        start parameters table = .ok handle next ∧
        HandleKind.of? handle = some (handleKind parameters.kind) ∧
        roomy.contains handle = false ∧
        next.handles = roomy.handles ++ [handle] ∧
        next.get? handle = some (.start handle parameters (table.useClock + 1)) ∧
        ∀ other, other ≠ handle → next.get? other = roomy.get? other) := by
  refine ⟨fun index => ?_, ?_⟩
  · obtain ⟨turns, hturns, handle, nextIndex, hsearch⟩ := exists_searches hrange index
    exact ⟨turns, hturns, handle, nextIndex, hsearch, of_searches hsearch⟩
  · cases hroom : table.makeRoom with
    | error stop =>
      obtain ⟨hfull, hstays, rfl⟩ := makeRoom_eq_error_iff.mp hroom
      refine .inl ⟨hfull, hstays, ?_⟩
      rw [start, hroom]
    | ok roomy =>
      have hlive := length_liveIn_of_makeRoom hroom (handleKind parameters.kind)
      have hsize := length_liveIn_le roomy (handleKind parameters.kind)
      obtain ⟨turns, hturns, handle, nextIndex, hsearch⟩ :=
        exists_searches (Nat.lt_of_le_of_lt hlive hrange) roomy.nextIndex
      obtain ⟨hkind, hfree⟩ := of_searches hsearch
      -- the search with a bound may go on for as long as this one does
      have hfound : roomy.freeHandle? (handleKind parameters.kind) (roomy.size + 1) roomy.nextIndex
          = some (handle, nextIndex) :=
        freeHandle?_eq_some_iff.mpr ⟨turns, by omega, hsearch⟩
      have hstart := start_eq_ok_iff.mpr ⟨roomy, nextIndex, hroom, hfound, rfl⟩
      rw [nextIndex_of_makeRoom hroom] at hsearch
      rw [← useClock_of_makeRoom hroom]
      -- the index and the use clock have no part in what is live
      have hunused : { roomy with
          nextIndex := nextIndex, useClock := roomy.useClock + 1 }.contains handle = false := hfree
      refine .inr ⟨roomy, turns, handle, _, roomy_of_makeRoom hroom, hturns, ?_, hstart, hkind,
        hfree, handles_insert_of_free hunused _, get?_insert_self _ _ _, fun other hother => ?_⟩
      · rw [nextIndex_insert]
        exact hsearch
      · rw [get?_insert, if_neg hother]
        rfl

/-- A session that is asked for. -/
def sampleParameters (kind : SessionKind) : SessionParameters := ⟨kind, .sha256, none, [], [], 0⟩

/-- A full table whose next index is the last one there is. The handles of that index and of the
first one are both in use. -/
def roundTable : SessionTable where
  entries := [
    (0x02000000, .start 0x02000000 (sampleParameters .hmac) 1),
    (0x03FFFFFF, .start 0x03FFFFFF (sampleParameters .policy) 2),
    (0x03000000, .start 0x03000000 (sampleParameters .policy) 3)]
  capacity := 3
  evicts := true
  nextIndex := 0xFFFFFFFF
  useClock := 3

/-- The search passes over both handles, and the session of the other range makes room. -/
theorem start_allots_fresh_handle_round :
    (roundTable.liveIn (handleKind (sampleParameters .policy).kind)).length < 2 ^ 24 ∧
      (∃ turns ≤ 3, ∃ handle nextIndex,
        roundTable.Searches .policySession 0xFFFFFFFF turns handle nextIndex ∧
          HandleKind.of? handle = some .policySession ∧ roundTable.contains handle = false) ∧
      ∃ handle next, start (sampleParameters .policy) roundTable = .ok handle next ∧
        next.handles = [0x03FFFFFF, 0x03000000, handle] := by
  have hrange :
      (roundTable.liveIn (handleKind (sampleParameters .policy).kind)).length < 2 ^ 24 := by decide
  obtain ⟨hsearch, hstart⟩ := start_allots_fresh_handle roundTable (sampleParameters .policy) hrange
  refine ⟨hrange, hsearch 0xFFFFFFFF, ?_⟩
  rcases hstart with
    ⟨_, hstays, _⟩ | ⟨roomy, _, handle, next, hroomy, _, _, hstart, _, _, hhandles, _⟩
  · exact absurd hstays (by decide)
  · refine ⟨handle, next, hstart, ?_⟩
    rcases hroomy with ⟨hroom, _⟩ | ⟨_, victim, hleast, rfl⟩
    · exact absurd hroom (by decide)
    · have hvictim : roundTable.leastRecent? = some 0x02000000 := by decide
      obtain rfl := Option.some.inj (hvictim.symm.trans hleast)
      rw [hhandles]
      rfl

end SessionTable

end TrustedPlatform
