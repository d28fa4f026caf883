import Mathlib.Data.List.Nodup
import Mathlib.Logic.Relation
import TrustedPlatform.Proofs.SessionTable

/-!
# What happens to a session table

Whatever is done to a session table is a chain of operations: a session is started or touched or
dropped, one takes the place of another with its stamp, or the use clock moves on because a session
was not there. No operation takes away that a table is `Coherent`.
-/

namespace TrustedPlatform

namespace SessionTable

variable {table next roomy : SessionTable} {handle other : UInt32} {old session : Session}

/-! ## Entries -/

theorem get?_eq_none_iff : table.get? handle = none ↔ handle ∉ table.handles := by
  rw [get?, List.lookup_eq_none_iff, handles, List.mem_map]
  constructor
  · rintro h ⟨entry, hmem, rfl⟩
    simpa using h entry hmem
  · intro h entry hmem
    rw [bne_iff_ne]
    rintro rfl
    exact h ⟨entry, hmem, rfl⟩

theorem lookup_eq_some_iff_mem {entries : List (UInt32 × Session)}
    (h : (entries.map (·.1)).Nodup) :
    entries.lookup handle = some session ↔ (handle, session) ∈ entries := by
  induction entries with
  | nil => simp
  | cons entry entries ih =>
    obtain ⟨key, value⟩ := entry
    obtain ⟨hfirst, hothers⟩ := List.nodup_cons.mp h
    rw [Handle.lookup_cons, List.mem_cons, Prod.mk.injEq]
    by_cases hkey : handle = key
    · have habsent : (handle, session) ∉ entries := by
        intro hmem
        exact hfirst (List.mem_map.mpr ⟨_, hmem, hkey⟩)
      rw [if_pos hkey]
      simp [← hkey, habsent, eq_comm]
    · simp [hkey, ih hothers]

/-- If no handle is used twice, every entry is found under its handle. -/
theorem get?_eq_some_iff_mem (h : table.handles.Nodup) :
    table.get? handle = some session ↔ (handle, session) ∈ table.entries :=
  lookup_eq_some_iff_mem h

theorem handles_insert_of_live (h : table.contains handle = true) (session : Session) :
    (table.insert handle session).handles = table.handles := by
  unfold insert handles
  rw [if_pos h, List.map_map]
  apply List.map_congr_left
  intro entry _
  by_cases hkey : entry.1 = handle
  · simp [hkey]
  · simp [hkey]

theorem handles_insert_of_free (h : table.contains handle = false) (session : Session) :
    (table.insert handle session).handles = table.handles ++ [handle] := by
  unfold insert handles
  rw [if_neg (by simp [h]), List.map_append]
  rfl

theorem handles_erase (table : SessionTable) (handle : UInt32) :
    (table.erase handle).handles.Sublist table.handles :=
  (List.filter_sublist).map _

theorem length_handles (table : SessionTable) : table.handles.length = table.size :=
  List.length_map _

/-- Taking the place of a live session makes the table no larger. -/
theorem size_insert_of_live (h : table.contains handle = true) (session : Session) :
    (table.insert handle session).size = table.size := by
  rw [← length_handles, handles_insert_of_live h, length_handles]

theorem size_insert_of_free (h : table.contains handle = false) (session : Session) :
    (table.insert handle session).size = table.size + 1 := by
  rw [← length_handles, handles_insert_of_free h, List.length_append, length_handles]
  rfl

@[simp] theorem capacity_insert (table : SessionTable) (handle : UInt32) (session : Session) :
    (table.insert handle session).capacity = table.capacity := by
  unfold insert
  split <;> rfl

@[simp] theorem useClock_insert (table : SessionTable) (handle : UInt32) (session : Session) :
    (table.insert handle session).useClock = table.useClock := by
  unfold insert
  split <;> rfl

@[simp] theorem nextIndex_insert (table : SessionTable) (handle : UInt32) (session : Session) :
    (table.insert handle session).nextIndex = table.nextIndex := by
  unfold insert
  split <;> rfl

/-! ## Room for a session -/

/-- The session used least recently is one of the table's; there is one unless the table is
empty. -/
theorem leastRecent?_eq_some (h : table.entries ≠ []) :
    ∃ victim ∈ table.handles, table.leastRecent? = some victim := by
  obtain ⟨entry, hentry⟩ := Option.isSome_iff_exists.mp
    (List.isSome_minOn?_iff (f := fun entry : UInt32 × Session => entry.2.lastUsed).mpr h)
  refine ⟨entry.1, List.mem_map_of_mem (List.minOn?_mem hentry), ?_⟩
  rw [leastRecent?, hentry]
  rfl

/-- A full table has a session to drop, unless it can hold none at all. -/
theorem leastRecent?_of_full (hfull : table.capacity ≤ table.size) (hpos : table.capacity ≠ 0) :
    ∃ victim ∈ table.handles, table.leastRecent? = some victim := by
  refine leastRecent?_eq_some fun hnil => ?_
  rw [size, hnil, List.length_nil] at hfull
  omega

/-- What is left of a table so that there is room for a session: all of it, or all but the session
used least recently if the table is full. -/
def Roomy (table roomy : SessionTable) : Prop :=
  (table.size < table.capacity ∧ roomy = table) ∨
    (table.capacity ≤ table.size ∧ ∃ victim, table.leastRecent? = some victim ∧
      roomy = table.erase victim)

theorem roomy_of_makeRoom (h : table.makeRoom = .ok roomy) : table.Roomy roomy := by
  rcases makeRoom_eq_ok_iff.mp h with ⟨hroom, rfl⟩ | ⟨hfull, _, hpos, rfl⟩
  · exact .inl ⟨hroom, rfl⟩
  · obtain ⟨victim, _, hleast⟩ := leastRecent?_of_full hfull hpos
    rw [hleast]
    exact .inr ⟨hfull, victim, hleast, rfl⟩

/-- Dropping a session makes the table smaller. -/
theorem size_erase_lt (h : handle ∈ table.handles) : (table.erase handle).size < table.size := by
  obtain ⟨entry, hmem, rfl⟩ := List.mem_map.mp h
  exact List.length_filter_lt_length_iff_exists.mpr ⟨entry, hmem, by simp⟩

/-- Room is made by dropping at most one session. -/
theorem of_makeRoom (hsize : table.size ≤ table.capacity) (h : table.makeRoom = .ok roomy) :
    (roomy = table ∨ ∃ victim, roomy = table.erase victim) ∧ roomy.size < table.capacity := by
  rcases makeRoom_eq_ok_iff.mp h with ⟨hroom, rfl⟩ | ⟨hfull, _, hpos, rfl⟩
  · exact ⟨.inl rfl, hroom⟩
  · obtain ⟨victim, hvictim, hleast⟩ := leastRecent?_of_full hfull hpos
    rw [hleast]
    exact ⟨.inr ⟨victim, rfl⟩, Nat.lt_of_lt_of_le (size_erase_lt hvictim) hsize⟩

/-- Making room is not a use. -/
theorem useClock_of_makeRoom (h : table.makeRoom = .ok roomy) :
    roomy.useClock = table.useClock := by
  rcases makeRoom_eq_ok_iff.mp h with ⟨_, rfl⟩ | ⟨_, _, _, rfl⟩
  · rfl
  · cases table.leastRecent? <;> rfl

/-- Making room does not move the index of the next handle on. -/
theorem nextIndex_of_makeRoom (h : table.makeRoom = .ok roomy) :
    roomy.nextIndex = table.nextIndex := by
  rcases makeRoom_eq_ok_iff.mp h with ⟨_, rfl⟩ | ⟨_, _, _, rfl⟩
  · rfl
  · cases table.leastRecent? <;> rfl

/-- A handle that is allotted is of the kind asked for, and not in use. -/
theorem of_freeHandle? {kind : HandleKind} {tries : Nat} {index nextIndex : UInt32}
    (h : table.freeHandle? kind tries index = some (handle, nextIndex)) :
    (∃ i, handle = kind.handle i) ∧ table.contains handle = false := by
  induction tries generalizing index with
  | zero => cases h
  | succ tries ih =>
    unfold freeHandle? at h
    by_cases hused : table.contains (kind.handle index) = true
    · rw [if_pos hused] at h
      exact ih h
    · rw [if_neg hused] at h
      cases h
      exact ⟨⟨index, rfl⟩, by simpa using hused⟩

/-! ## Operations -/

/-- One thing that is done to a session table. -/
inductive Operation : SessionTable → SessionTable → Prop
  | start {table next : SessionTable} {parameters : SessionParameters} {handle : UInt32}
      (h : start parameters table = .ok handle next) : Operation table next
  | touch {table next : SessionTable} {handle : UInt32} {session : Session}
      (h : touch handle table = .ok session next) : Operation table next
  /-- A session that is not there is touched. -/
  | tick (table : SessionTable) : Operation table { table with useClock := table.useClock + 1 }
  /-- A session takes the place of one that was used at the same time. -/
  | replace {table : SessionTable} {handle : UInt32} {old session : Session}
      (hold : table.get? handle = some old) (hstamp : session.lastUsed = old.lastUsed) :
      Operation table (table.insert handle session)
  | erase (table : SessionTable) (handle : UInt32) : Operation table (table.erase handle)

/-- A chain of operations leads from one table to the other. -/
abbrev Reaches : SessionTable → SessionTable → Prop := Relation.ReflTransGen Operation

/-! ## Coherent tables -/

/-- A table that is not overfull, that keeps no two sessions under one handle, and whose use clock
tells the sessions apart. -/
structure Coherent (table : SessionTable) : Prop where
  size_le : table.size ≤ table.capacity
  nodup_handles : table.handles.Nodup
  /-- No two sessions were used last at the same time. -/
  stamp_injective : ∀ {handle other : UInt32} {session session' : Session},
    table.get? handle = some session → table.get? other = some session' →
    session.lastUsed = session'.lastUsed → handle = other
  /-- No session was used later than now. -/
  stamp_le : ∀ {handle : UInt32} {session : Session}, table.get? handle = some session →
    session.lastUsed ≤ table.useClock

namespace Coherent

theorem empty (capacity : Nat) (evicts : Bool) : Coherent (.empty capacity evicts) where
  size_le := Nat.zero_le _
  nodup_handles := List.nodup_nil
  stamp_injective h := by cases h
  stamp_le h := by cases h

theorem erase (h : Coherent table) (handle : UInt32) : Coherent (table.erase handle) where
  size_le := Nat.le_trans (List.length_filter_le _ _) h.size_le
  nodup_handles := h.nodup_handles.sublist (handles_erase table handle)
  stamp_injective hfirst hsecond heq :=
    h.stamp_injective (get?_of_get?_erase hfirst) (get?_of_get?_erase hsecond) heq
  stamp_le hlive := h.stamp_le (get?_of_get?_erase hlive)

/-- The clock and the index of handles may move on. -/
theorem tick (h : Coherent table) (nextIndex : UInt32) :
    Coherent { table with nextIndex := nextIndex, useClock := table.useClock + 1 } where
  size_le := h.size_le
  nodup_handles := h.nodup_handles
  stamp_injective := h.stamp_injective
  stamp_le hlive := Nat.le_succ_of_le (h.stamp_le hlive)

/-- A session may be put into a table if it has a place there, and a stamp of its own that is not
later than now. -/
theorem insert (h : Coherent table) (hsize : (table.insert handle session).size ≤ table.capacity)
    (hhandles : (table.insert handle session).handles.Nodup)
    (hown : ∀ {other found}, table.get? other = some found →
      found.lastUsed = session.lastUsed → other = handle)
    (hnow : session.lastUsed ≤ table.useClock) : Coherent (table.insert handle session) where
  size_le := by
    rw [capacity_insert]
    exact hsize
  nodup_handles := hhandles
  stamp_injective {first second _ _} hfirst hsecond heq := by
    rw [get?_insert] at hfirst hsecond
    by_cases hf : first = handle
    · by_cases hs : second = handle
      · rw [hf, hs]
      · rw [if_pos hf] at hfirst
        rw [if_neg hs] at hsecond
        cases hfirst
        exact hf.trans (hown hsecond heq.symm).symm
    · rw [if_neg hf] at hfirst
      by_cases hs : second = handle
      · rw [if_pos hs] at hsecond
        cases hsecond
        exact (hown hfirst heq).trans hs.symm
      · rw [if_neg hs] at hsecond
        exact h.stamp_injective hfirst hsecond heq
  stamp_le {other _} hlive := by
    rw [useClock_insert]
    rw [get?_insert] at hlive
    by_cases hother : other = handle
    · rw [if_pos hother] at hlive
      cases hlive
      exact hnow
    · rw [if_neg hother] at hlive
      exact h.stamp_le hlive

/-- A session that takes the place of another needs no room. -/
theorem insert_of_live (h : Coherent table) (hlive : table.get? handle = some old)
    (hown : ∀ {other found}, table.get? other = some found →
      found.lastUsed = session.lastUsed → other = handle)
    (hnow : session.lastUsed ≤ table.useClock) : Coherent (table.insert handle session) := by
  have hcontains : table.contains handle = true := by rw [contains, hlive, Option.isSome_some]
  refine h.insert ?_ ?_ hown hnow
  · rw [size_insert_of_live hcontains]
    exact h.size_le
  · rw [handles_insert_of_live hcontains]
    exact h.nodup_handles

/-- A session under a new handle needs room. -/
theorem insert_of_free (h : Coherent table) (hfree : table.contains handle = false)
    (hroom : table.size < table.capacity)
    (hown : ∀ {other found}, table.get? other = some found →
      found.lastUsed = session.lastUsed → other = handle)
    (hnow : session.lastUsed ≤ table.useClock) : Coherent (table.insert handle session) := by
  refine h.insert ?_ ?_ hown hnow
  · rw [size_insert_of_free hfree]
    exact hroom
  · have habsent : handle ∉ table.handles :=
      get?_eq_none_iff.mp (Option.not_isSome_iff_eq_none.mp (by rw [← contains, hfree]; decide))
    rw [handles_insert_of_free hfree]
    exact h.nodup_handles.append (List.nodup_singleton handle)
      (List.disjoint_singleton.mpr habsent)

/-- No operation takes coherence away, and the capacity stays. -/
theorem operation (h : Coherent table) (hop : Operation table next) :
    Coherent next ∧ next.capacity = table.capacity := by
  cases hop with
  | @start _ parameters handle hstart =>
    obtain ⟨roomy, nextIndex, hroom, hfree, rfl⟩ := start_eq_ok_iff.mp hstart
    obtain ⟨hroomy, hlt⟩ := of_makeRoom h.size_le hroom
    obtain ⟨_, hunused⟩ := of_freeHandle? hfree
    have hcoherent : Coherent roomy := by
      rcases hroomy with rfl | ⟨victim, rfl⟩
      · exact h
      · exact h.erase victim
    have hcapacity : roomy.capacity = table.capacity := by
      rcases hroomy with rfl | ⟨victim, rfl⟩
      · rfl
      · rfl
    have hroom : roomy.size < roomy.capacity := by rw [hcapacity]; exact hlt
    refine ⟨(hcoherent.tick nextIndex).insert_of_free hunused hroom ?_ (Nat.le_refl _), ?_⟩
    · -- every other stamp is earlier
      intro other found hfound heq
      have hle := hcoherent.stamp_le hfound
      have hlast : found.lastUsed = roomy.useClock + 1 := heq
      omega
    · rw [capacity_insert, ← hcapacity]
  | @touch _ handle session htouch =>
    obtain ⟨old, hold, rfl, rfl⟩ := touch_eq_ok_iff.mp htouch
    refine ⟨(h.tick table.nextIndex).insert_of_live hold ?_ (Nat.le_refl _), capacity_insert ..⟩
    -- every other stamp is earlier
    intro other found hfound heq
    have hle := h.stamp_le hfound
    have hlast : found.lastUsed = table.useClock + 1 := heq
    omega
  | tick => exact ⟨h.tick table.nextIndex, rfl⟩
  | @replace handle old session hold hstamp =>
    refine ⟨h.insert_of_live hold ?_ ?_, capacity_insert ..⟩
    · intro other found hfound heq
      exact h.stamp_injective hfound hold (heq.trans hstamp)
    · rw [hstamp]
      exact h.stamp_le hold
  | erase handle => exact ⟨h.erase handle, rfl⟩

/-- Nor does a chain of operations. -/
theorem reaches (h : Coherent table) (hops : Reaches table next) :
    Coherent next ∧ next.capacity = table.capacity := by
  induction hops with
  | refl => exact ⟨h, rfl⟩
  | tail _ hop ih =>
    obtain ⟨hmiddle, hcapacity⟩ := ih
    obtain ⟨hnext, hcapacity'⟩ := hmiddle.operation hop
    exact ⟨hnext, hcapacity'.trans hcapacity⟩

end Coherent

end SessionTable

end TrustedPlatform
