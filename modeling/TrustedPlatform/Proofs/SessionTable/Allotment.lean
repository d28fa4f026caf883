import TrustedPlatform.Proofs.SessionTable.FreeHandle

/-!
# Handles that were allotted

The index of the next handle moves on by one with every session that is started. As long as it has
not gone through a range, the handle that it stands for was never allotted before: not to a session
that is still live, which the search for a free handle would notice, and not to one that was
dropped, which nothing in the table tells of. `Allotted` ties the table to the handles that it
allotted so far.
-/

namespace TrustedPlatform

/-- Which one of its range a handle is. -/
def Handle.index (handle : UInt32) : Nat := handle.toNat % 2 ^ 24

theorem Handle.index_handle (kind : HandleKind) (index : UInt32) :
    Handle.index (kind.handle index) = index.toNat % 2 ^ 24 := by
  rw [Handle.index, HandleKind.toNat_handle, Nat.mul_add_mod_self_right, Nat.mod_mod]

namespace SessionTable

variable {table middle next roomy : SessionTable} {given : List UInt32} {handle other : UInt32}

/-! ## Live handles -/

theorem contains_insert (table : SessionTable) (handle : UInt32) (session : Session)
    (other : UInt32) :
    (table.insert handle session).contains other = true ↔
      other = handle ∨ table.contains other = true := by
  unfold contains
  rw [get?_insert]
  by_cases hother : other = handle <;> simp [hother]

theorem contains_of_contains_erase (h : (table.erase handle).contains other = true) :
    table.contains other = true := by
  obtain ⟨session, hlive⟩ := Option.isSome_iff_exists.mp h
  rw [contains, get?_of_get?_erase hlive]
  rfl

/-- No handle was allotted on the way from one table to the other, but handles may have become
free. -/
structure AllotsNone (table next : SessionTable) : Prop where
  nextIndex_eq : next.nextIndex = table.nextIndex
  contains_of : ∀ handle, next.contains handle = true → table.contains handle = true

namespace AllotsNone

theorem refl (table : SessionTable) : table.AllotsNone table := ⟨rfl, fun _ => id⟩

theorem trans (h : table.AllotsNone middle) (h' : middle.AllotsNone next) :
    table.AllotsNone next where
  nextIndex_eq := h'.nextIndex_eq.trans h.nextIndex_eq
  contains_of handle hlive := h.contains_of handle (h'.contains_of handle hlive)

theorem erase (table : SessionTable) (handle : UInt32) : table.AllotsNone (table.erase handle) where
  nextIndex_eq := rfl
  contains_of _ := contains_of_contains_erase

/-- The use clock has no part in the handles. -/
theorem tick (table : SessionTable) (useClock : Nat) :
    table.AllotsNone { table with useClock := useClock } := ⟨rfl, fun _ => id⟩

/-- A session may take the place of another. -/
theorem insert (hlive : table.contains handle = true) (session : Session) :
    table.AllotsNone (table.insert handle session) where
  nextIndex_eq := nextIndex_insert ..
  contains_of other hother := by
    rcases (contains_insert ..).mp hother with rfl | hold
    · exact hlive
    · exact hold

theorem touch {session : Session} (h : touch handle table = .ok session next) :
    table.AllotsNone next := by
  obtain ⟨old, hold, rfl, rfl⟩ := touch_eq_ok_iff.mp h
  have hlive : { table with useClock := table.useClock + 1 }.contains handle = true :=
    Option.isSome_iff_exists.mpr ⟨old, hold⟩
  exact (tick table (table.useClock + 1)).trans (.insert hlive _)

theorem makeRoom (h : table.makeRoom = .ok roomy) : table.AllotsNone roomy := by
  rcases makeRoom_eq_ok_iff.mp h with ⟨_, rfl⟩ | ⟨_, _, _, rfl⟩
  · exact refl roomy
  · cases table.leastRecent? with
    | none => exact refl table
    | some victim => exact erase table victim

end AllotsNone

theorem contains_of_start {parameters : SessionParameters}
    (h : start parameters table = .ok handle next) (hlive : next.contains other = true) :
    other = handle ∨ table.contains other = true := by
  obtain ⟨roomy, _, hroom, _, rfl⟩ := start_eq_ok_iff.mp h
  exact ((contains_insert ..).mp hlive).imp_right ((AllotsNone.makeRoom hroom).contains_of other)

/-! ## The handles so far -/

/-- The table allotted the handles `given`, the oldest first: those of all indices so far, in their
order. Every live session is under one of them, and the index goes on where they end. -/
structure Allotted (given : List UInt32) (table : SessionTable) : Prop where
  indices_eq : given.map Handle.index = List.range given.length
  kind_of : ∀ handle ∈ given, ∃ kind, HandleKind.of? handle = some (handleKind kind)
  nextIndex_eq : table.nextIndex.toNat = given.length
  mem_of_contains : ∀ handle, table.contains handle = true → handle ∈ given

namespace Allotted

theorem empty (capacity : Nat) (evicts : Bool) : Allotted [] (.empty capacity evicts) where
  indices_eq := rfl
  kind_of _ h := by cases h
  nextIndex_eq := rfl
  mem_of_contains _ h := by cases h

/-- No handle was allotted twice. -/
theorem nodup (h : Allotted given table) : given.Nodup := by
  have hindices : (given.map Handle.index).Nodup := by
    rw [h.indices_eq]
    exact List.nodup_range
  exact .of_map _ hindices

theorem allotsNone (h : Allotted given table) (hnone : table.AllotsNone next) :
    Allotted given next where
  indices_eq := h.indices_eq
  kind_of := h.kind_of
  nextIndex_eq := by rw [hnone.nextIndex_eq, h.nextIndex_eq]
  mem_of_contains handle hlive := h.mem_of_contains handle (hnone.contains_of handle hlive)

theorem index_nextHandle (h : Allotted given table) (hrange : given.length < 2 ^ 24)
    (kind : HandleKind) : Handle.index (kind.handle table.nextIndex) = given.length := by
  rw [Handle.index_handle, h.nextIndex_eq, Nat.mod_eq_of_lt hrange]

/-- The handle of the next index was never allotted, as long as the range has not been gone
through. -/
theorem nextHandle_not_mem (h : Allotted given table) (hrange : given.length < 2 ^ 24)
    (kind : HandleKind) : kind.handle table.nextIndex ∉ given := by
  intro hmem
  have hindex : Handle.index (kind.handle table.nextIndex) ∈ given.map Handle.index :=
    List.mem_map_of_mem hmem
  rw [h.indices_eq, h.index_nextHandle hrange, List.mem_range] at hindex
  exact Nat.lt_irrefl _ hindex

/-- The search ends at once: the first handle that is tried is free. -/
theorem freeHandle?_eq (h : Allotted given table) (hrange : given.length < 2 ^ 24)
    (kind : HandleKind) (tries : Nat) :
    table.freeHandle? kind (tries + 1) table.nextIndex
      = some (kind.handle table.nextIndex, table.nextIndex + 1) := by
  have hfree : ¬table.contains (kind.handle table.nextIndex) = true := fun hlive =>
    h.nextHandle_not_mem hrange kind (h.mem_of_contains _ hlive)
  rw [freeHandle?]
  exact if_neg hfree

/-- A session that is started gets a handle that was never allotted. -/
theorem start {parameters : SessionParameters} (h : Allotted given table)
    (hrange : given.length < 2 ^ 24) (hstart : start parameters table = .ok handle next) :
    Allotted (given ++ [handle]) next := by
  obtain ⟨roomy, nextIndex, hroom, hsearch, rfl⟩ := start_eq_ok_iff.mp hstart
  have hroomy : Allotted given roomy := h.allotsNone (.makeRoom hroom)
  rw [hroomy.freeHandle?_eq hrange] at hsearch
  cases hsearch
  refine ⟨?_, ?_, ?_, ?_⟩
  · -- the new handle has the index that comes next
    rw [List.map_append, hroomy.indices_eq, List.map_singleton, hroomy.index_nextHandle hrange,
      List.length_append, List.length_singleton, List.range_succ]
  · intro other hmem
    rcases List.mem_append.mp hmem with hold | hnew
    · exact hroomy.kind_of other hold
    · obtain rfl := List.mem_singleton.mp hnew
      exact ⟨parameters.kind, HandleKind.of?_handle _ _⟩
  · have hindex := hroomy.nextIndex_eq
    rw [nextIndex_insert, List.length_append, List.length_singleton]
    show (roomy.nextIndex + 1).toNat = _
    rw [UInt32.toNat_add, hindex]
    exact Nat.mod_eq_of_lt (by show given.length + 1 < 2 ^ 32; omega)
  · intro other hlive
    rcases (contains_insert ..).mp hlive with rfl | hold
    · exact List.mem_append_right _ (List.mem_singleton_self _)
    · exact List.mem_append_left _ (hroomy.mem_of_contains other hold)

end Allotted

end SessionTable

end TrustedPlatform
