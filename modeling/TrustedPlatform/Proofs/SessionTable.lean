import TrustedPlatform.Proofs.Handle
import TrustedPlatform.SessionTable

/-!
# Finding sessions in the table

What is found under a handle after each operation on the session table, and what an operation that
succeeds did.
-/

namespace TrustedPlatform.SessionTable

open Handle (lookup_cons lookup_map_replace lookup_filter_ne)

variable {table next roomy : SessionTable} {handle other : UInt32} {session : Session}

/-! ## Entries -/

/-- An inserted session is found under its handle, and every other session is as it was. -/
theorem get?_insert (table : SessionTable) (handle : UInt32) (session : Session)
    (other : UInt32) :
    (table.insert handle session).get? other =
      if other = handle then some session else table.get? other := by
  unfold insert contains get?
  split
  · rename_i hlive
    obtain ⟨old, hold⟩ := Option.isSome_iff_exists.mp hlive
    rw [lookup_map_replace, hold]
    rfl
  · rename_i hlive
    have hfree : table.entries.lookup handle = none := Option.not_isSome_iff_eq_none.mp hlive
    rw [List.lookup_append, lookup_cons]
    by_cases hother : other = handle
    · rw [if_pos hother, if_pos hother, hother, hfree]
      rfl
    · rw [if_neg hother, if_neg hother]
      exact Option.or_none

/-- An erased session is not found any more, and every other session is as it was. -/
theorem get?_erase (table : SessionTable) (handle other : UInt32) :
    (table.erase handle).get? other = if other = handle then none else table.get? other :=
  lookup_filter_ne table.entries

@[simp] theorem get?_insert_self (table : SessionTable) (handle : UInt32) (session : Session) :
    (table.insert handle session).get? handle = some session := by
  rw [get?_insert, if_pos rfl]

theorem get?_of_get?_erase (h : (table.erase handle).get? other = some session) :
    table.get? other = some session := by
  rw [get?_erase] at h
  split at h
  · cases h
  · exact h

/-! ## Operations that succeed -/

/-- There is room in a table that is not full; a full one makes room only if it may evict. -/
theorem makeRoom_eq_ok_iff :
    table.makeRoom = .ok roomy ↔
      (table.size < table.capacity ∧ roomy = table) ∨
        (table.capacity ≤ table.size ∧ table.evicts = true ∧ table.capacity ≠ 0 ∧
          roomy = (table.leastRecent?.map table.erase).getD table) := by
  unfold makeRoom
  by_cases hroom : table.size < table.capacity
  · rw [if_pos hroom, Except.ok.injEq]
    constructor
    · rintro rfl
      exact .inl ⟨hroom, rfl⟩
    · rintro (⟨_, rfl⟩ | ⟨hfull, _⟩)
      · rfl
      · omega
  · have hfull : table.capacity ≤ table.size := Nat.le_of_not_lt hroom
    rw [if_neg hroom]
    by_cases hevicts : table.evicts = true ∧ table.capacity ≠ 0
    · cases hleast : table.leastRecent? <;> simp [hroom, hfull, hevicts, eq_comm]
    · rw [if_neg hevicts]
      constructor
      · intro h
        cases h
      · rintro (⟨hlt, _⟩ | ⟨_, h, hne, _⟩)
        · exact absurd hlt hroom
        · exact absurd ⟨h, hne⟩ hevicts

/-- Only a full table that may not evict has no room for a session. -/
theorem makeRoom_eq_error_iff {stop : Stop} :
    table.makeRoom = .error stop ↔
      table.capacity ≤ table.size ∧ (table.evicts = false ∨ table.capacity = 0) ∧
        stop = .ofCause (.exhausted .sessionTable) := by
  unfold makeRoom
  by_cases hroom : table.size < table.capacity
  · have hfull : ¬table.capacity ≤ table.size := Nat.not_le.mpr hroom
    simp [hroom, hfull]
  · have hfull : table.capacity ≤ table.size := Nat.le_of_not_lt hroom
    rw [if_neg hroom]
    by_cases hevicts : table.evicts = true ∧ table.capacity ≠ 0
    · cases hleast : table.leastRecent? <;> simp [hevicts]
    · have hstays : table.evicts = false ∨ table.capacity = 0 := by
        cases hmay : table.evicts with
        | false => exact .inl rfl
        | true => exact .inr (by simpa [hmay] using hevicts)
      rw [if_neg hevicts, Except.error.injEq]
      constructor
      · rintro rfl
        exact ⟨hfull, hstays, rfl⟩
      · rintro ⟨_, _, rfl⟩
        rfl

theorem get?_of_makeRoom (h : table.makeRoom = .ok roomy)
    (hlive : roomy.get? other = some session) :
    table.get? other = some session := by
  rcases makeRoom_eq_ok_iff.mp h with ⟨_, rfl⟩ | ⟨_, _, _, rfl⟩
  · exact hlive
  · cases hleast : table.leastRecent? with
    | none =>
      rw [hleast] at hlive
      exact hlive
    | some victim =>
      rw [hleast] at hlive
      exact get?_of_get?_erase hlive

/-- A session is started under a free handle, in a table in which there is room. -/
theorem start_eq_ok_iff {parameters : SessionParameters} :
    start parameters table = .ok handle next ↔
      ∃ roomy nextIndex, table.makeRoom = .ok roomy ∧
        roomy.freeHandle? (handleKind parameters.kind) (roomy.size + 1) roomy.nextIndex
          = some (handle, nextIndex) ∧
        next = { roomy with nextIndex := nextIndex, useClock := roomy.useClock + 1 }.insert handle
          (.start handle parameters (roomy.useClock + 1)) := by
  unfold start
  cases hroom : table.makeRoom with
  | error stop => simp
  | ok roomy =>
    cases hfree : roomy.freeHandle? (handleKind parameters.kind) (roomy.size + 1)
        roomy.nextIndex with
    | none => simp [hfree]
    | some found =>
      obtain ⟨handle', nextIndex⟩ := found
      constructor
      · intro h
        simp only [hfree] at h
        cases h
        exact ⟨roomy, nextIndex, rfl, hfree, rfl⟩
      · intro hconds
        obtain ⟨roomy', nextIndex', hroom', hfree', rfl⟩ := hconds
        cases hroom'
        rw [hfree] at hfree'
        cases hfree'
        simp [hfree]

/-- Touching stamps the session, and leaves everything else of it alone. -/
theorem touch_eq_ok_iff :
    touch handle table = .ok session next ↔
      ∃ old, table.get? handle = some old ∧
        session = { old with lastUsed := table.useClock + 1 } ∧
        next = { table with useClock := table.useClock + 1 }.insert handle session := by
  have hget : { table with useClock := table.useClock + 1 }.get? handle = table.get? handle := rfl
  unfold touch
  simp only [hget]
  cases hold : table.get? handle with
  | none => simp
  | some old =>
    constructor
    · intro h
      cases h
      exact ⟨old, rfl, rfl, rfl⟩
    · intro hconds
      obtain ⟨old', hold', rfl, rfl⟩ := hconds
      cases hold'
      rfl

theorem get?_of_touch (h : touch handle table = .ok session next) :
    next.get? handle = some session := by
  obtain ⟨_, _, _, rfl⟩ := touch_eq_ok_iff.mp h
  exact get?_insert_self _ _ _

theorem touch_eq_error_iff {cause : Cause} :
    touch handle table = .error cause next ↔
      table.get? handle = none ∧ cause = .handleNotFound ∧
        next = { table with useClock := table.useClock + 1 } := by
  have hget : { table with useClock := table.useClock + 1 }.get? handle = table.get? handle := rfl
  unfold touch
  simp only [hget]
  cases hold : table.get? handle with
  | none => simp [eq_comm]
  | some old => simp

theorem flush_eq_ok_iff :
    flush handle table = .ok session next ↔
      table.get? handle = some session ∧ next = table.erase handle := by
  unfold flush
  cases hold : table.get? handle with
  | none => simp
  | some old => simp [eq_comm]

end TrustedPlatform.SessionTable
