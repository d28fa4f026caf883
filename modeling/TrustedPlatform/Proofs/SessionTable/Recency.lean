import TrustedPlatform.Proofs.SessionTable.Operation

/-!
# The session used least recently

The stamps of a coherent table order its sessions strictly, so that the session with the lowest
stamp is the same one in whatever order the table lists its sessions. `Follows` ties the stamps to
the uses that the sessions were put to: `uses` lists the handles of the sessions that were used, in
the order of their uses, and a session has a higher stamp than another only if it was used after the
last use of the other.
-/

namespace TrustedPlatform.SessionTable

variable {table next other : SessionTable} {handle victim : UInt32} {session : Session}

/-! ## The lowest stamp -/

/-- In a coherent table the session used least recently is the live one with the lowest stamp. -/
theorem leastRecent?_eq_some_iff (h : Coherent table) :
    table.leastRecent? = some victim ↔
      ∃ session, table.get? victim = some session ∧
        ∀ other found, table.get? other = some found → session.lastUsed ≤ found.lastUsed := by
  have lowest : ∀ {least : UInt32}, table.leastRecent? = some least →
      ∃ session, table.get? least = some session ∧
        ∀ other found, table.get? other = some found → session.lastUsed ≤ found.lastUsed := by
    intro least hleast
    obtain ⟨entry, hentry, rfl⟩ := Option.map_eq_some_iff.mp hleast
    refine ⟨entry.2, (get?_eq_some_iff_mem h.nodup_handles).mpr (List.minOn?_mem hentry), ?_⟩
    intro other found hlive
    have hmem := (get?_eq_some_iff_mem h.nodup_handles).mp hlive
    rw [← List.minOn_eq_of_minOn?_eq_some hentry]
    exact List.apply_minOn_le_of_mem (f := fun entry : UInt32 × Session => entry.2.lastUsed) hmem
  constructor
  · exact lowest
  · rintro ⟨session, hlive, hle⟩
    have hne : table.entries ≠ [] :=
      List.ne_nil_of_mem ((get?_eq_some_iff_mem h.nodup_handles).mp hlive)
    obtain ⟨least, _, hleast⟩ := leastRecent?_eq_some hne
    obtain ⟨first, hfirst, hlowest⟩ := lowest hleast
    -- both stamps are the lowest
    have heq : first.lastUsed = session.lastUsed :=
      Nat.le_antisymm (hlowest victim session hlive) (hle least first hfirst)
    rw [hleast, h.stamp_injective hfirst hlive heq]

/-- A session that is started in a full table takes the place of the session used least recently,
and of no other. If its handle was in use, then by that session. -/
theorem start_of_full {parameters : SessionParameters}
    (hstart : start parameters table = .ok handle next) (hfull : table.capacity ≤ table.size) :
    ∃ victim, table.leastRecent? = some victim ∧ next.contains handle = true ∧
      (table.contains handle = true → handle = victim) ∧
      ∀ other, other ≠ handle →
        next.get? other = if other = victim then none else table.get? other := by
  obtain ⟨roomy, nextIndex, hroom, hfree, rfl⟩ := start_eq_ok_iff.mp hstart
  obtain ⟨hroomy, hpos⟩ : roomy = (table.leastRecent?.map table.erase).getD table ∧
      table.capacity ≠ 0 := by
    rcases makeRoom_eq_ok_iff.mp hroom with ⟨hlt, _⟩ | ⟨_, _, hpos, hroomy⟩
    · exact absurd hlt (Nat.not_lt.mpr hfull)
    · exact ⟨hroomy, hpos⟩
  obtain ⟨victim, _, hleast⟩ := leastRecent?_of_full hfull hpos
  rw [hleast] at hroomy
  subst hroomy
  obtain ⟨_, hunused⟩ := of_freeHandle? hfree
  refine ⟨victim, hleast, ?_, fun hlive => ?_, fun other hother => ?_⟩
  · rw [contains, get?_insert_self]
    rfl
  · by_contra hvictim
    have hkept : (table.erase victim).contains handle = table.contains handle := by
      rw [contains, get?_erase, if_neg hvictim]
      rfl
    cases hunused.symm.trans (hkept.trans hlive)
  · rw [get?_insert, if_neg hother]
    exact get?_erase table victim other

/-- If the handle of a session that is started was in use, then by the session that was dropped to
make room. -/
theorem leastRecent?_of_start {parameters : SessionParameters}
    (hstart : start parameters table = .ok handle next) (hlive : table.contains handle = true) :
    table.capacity ≤ table.size ∧ table.leastRecent? = some handle := by
  by_cases hfull : table.capacity ≤ table.size
  · obtain ⟨victim, hleast, _, hvictim, _⟩ := start_of_full hstart hfull
    rw [hvictim hlive]
    exact ⟨hfull, hleast⟩
  · -- a table that is not full stays as it is until the handle is found
    obtain ⟨roomy, _, hroom, hsearch, _⟩ := start_eq_ok_iff.mp hstart
    obtain ⟨_, hfree⟩ := of_freeHandle? hsearch
    rcases makeRoom_eq_ok_iff.mp hroom with ⟨_, rfl⟩ | ⟨hsize, _⟩
    · cases hlive.symm.trans hfree
    · exact absurd hsize hfull

theorem contains_of_leastRecent? (h : table.leastRecent? = some handle) :
    table.contains handle = true := by
  obtain ⟨entry, hentry, rfl⟩ := Option.map_eq_some_iff.mp h
  have hmem := List.minOn?_mem hentry
  by_contra hdead
  have hnone : table.entries.lookup entry.1 = none := Option.not_isSome_iff_eq_none.mp hdead
  have hother := List.lookup_eq_none_iff.mp hnone entry hmem
  simp at hother

/-- A session that is started leaves a live one alone, unless this one makes room for it. -/
theorem get?_of_start {parameters : SessionParameters} {live : UInt32}
    (hstart : start parameters table = .ok handle next) (hlive : table.get? live = some session)
    (hkept : table.capacity ≤ table.size → table.leastRecent? ≠ some live) :
    next.get? live = some session := by
  have hother : live ≠ handle := by
    rintro rfl
    obtain ⟨hfull, hleast⟩ := leastRecent?_of_start hstart (Option.isSome_of_eq_some hlive)
    exact hkept hfull hleast
  by_cases hfull : table.capacity ≤ table.size
  · obtain ⟨victim, hleast, _, _, hothers⟩ := start_of_full hstart hfull
    have hvictim : live ≠ victim := by
      rintro rfl
      exact hkept hfull hleast
    rw [hothers live hother, if_neg hvictim, hlive]
  · obtain ⟨roomy, _, hroom, _, rfl⟩ := start_eq_ok_iff.mp hstart
    rw [get?_insert, if_neg hother]
    rcases makeRoom_eq_ok_iff.mp hroom with ⟨_, rfl⟩ | ⟨hsize, _⟩
    · exact hlive
    · exact absurd hsize hfull

/-! ## The order of the list -/

/-- The two tables differ in nothing but the order in which they list their sessions. -/
def SameSessions (table other : SessionTable) : Prop :=
  ∃ entries, entries.Perm table.entries ∧ other = { table with entries := entries }

namespace SameSessions

theorem refl (table : SessionTable) : table.SameSessions table := ⟨table.entries, .refl _, rfl⟩

theorem size_eq (h : table.SameSessions other) : other.size = table.size := by
  obtain ⟨entries, hperm, rfl⟩ := h
  exact hperm.length_eq

theorem nodup_handles (h : table.SameSessions other) (hnodup : table.handles.Nodup) :
    other.handles.Nodup := by
  obtain ⟨entries, hperm, rfl⟩ := h
  have hhandles := hperm.map fun entry : UInt32 × Session => entry.1
  exact hhandles.nodup_iff.mpr hnodup

/-- The same session is found under every handle. -/
theorem get?_eq (h : table.SameSessions other) (hnodup : table.handles.Nodup) (handle : UInt32) :
    other.get? handle = table.get? handle := by
  have hother := h.nodup_handles hnodup
  obtain ⟨entries, hperm, rfl⟩ := h
  apply Option.ext
  intro session
  rw [get?_eq_some_iff_mem hother, get?_eq_some_iff_mem hnodup]
  exact hperm.mem_iff

theorem coherent (h : table.SameSessions other) (hcoherent : Coherent table) : Coherent other := by
  have hget := h.get?_eq hcoherent.nodup_handles
  have hsize := h.size_eq
  have hnodup := h.nodup_handles hcoherent.nodup_handles
  obtain ⟨entries, hperm, rfl⟩ := h
  refine ⟨?_, hnodup, ?_, ?_⟩
  · rw [hsize]
    exact hcoherent.size_le
  · intro first second session session' hfirst hsecond
    rw [hget] at hfirst hsecond
    exact hcoherent.stamp_injective hfirst hsecond
  · intro handle session hlive
    rw [hget] at hlive
    exact hcoherent.stamp_le hlive

theorem leastRecent?_eq (h : table.SameSessions other) (hcoherent : Coherent table) :
    other.leastRecent? = table.leastRecent? := by
  apply Option.ext
  intro victim
  rw [leastRecent?_eq_some_iff hcoherent, leastRecent?_eq_some_iff (h.coherent hcoherent)]
  simp only [h.get?_eq hcoherent.nodup_handles]

theorem erase (h : table.SameSessions other) (handle : UInt32) :
    (table.erase handle).SameSessions (other.erase handle) := by
  obtain ⟨entries, hperm, rfl⟩ := h
  exact ⟨_, hperm.filter _, rfl⟩

theorem freeHandle?_eq (h : table.SameSessions other) (hnodup : table.handles.Nodup)
    (kind : HandleKind) (tries : Nat) (index : UInt32) :
    other.freeHandle? kind tries index = table.freeHandle? kind tries index := by
  induction tries generalizing index with
  | zero => rfl
  | succ tries ih =>
    unfold freeHandle? contains
    simp only [h.get?_eq hnodup, ih]

/-- A session under a handle that is not in use comes last in both lists. -/
theorem insert_of_free (h : table.SameSessions other) (hnodup : table.handles.Nodup)
    (hfree : table.contains handle = false) (session : Session) :
    (table.insert handle session).SameSessions (other.insert handle session) := by
  have hother : other.contains handle = false := by
    rw [contains, h.get?_eq hnodup]
    exact hfree
  obtain ⟨entries, hperm, rfl⟩ := h
  refine ⟨entries ++ [(handle, session)], ?_, ?_⟩
  · unfold insert
    rw [hfree]
    exact hperm.append_right _
  · unfold insert
    rw [hfree, hother]
    rfl

/-- In whatever order a coherent table lists its sessions, a session that is started gets the same
handle, and the same session makes room for it. -/
theorem start (h : table.SameSessions other) (hcoherent : Coherent table)
    {parameters : SessionParameters} (hstart : start parameters table = .ok handle next) :
    ∃ next', SessionTable.start parameters other = .ok handle next' ∧ next.SameSessions next' := by
  obtain ⟨roomy, nextIndex, hroom, hfree, rfl⟩ := start_eq_ok_iff.mp hstart
  have hcoherent' : Coherent roomy := by
    rcases of_makeRoom hcoherent.size_le hroom with ⟨rfl | ⟨victim, rfl⟩, _⟩
    · exact hcoherent
    · exact hcoherent.erase victim
  obtain ⟨roomy', hroom', hsame⟩ :
      ∃ roomy', other.makeRoom = .ok roomy' ∧ roomy.SameSessions roomy' := by
    have hleast := h.leastRecent?_eq hcoherent
    have hsize := h.size_eq
    have hkept := h
    obtain ⟨entries, hperm, rfl⟩ := h
    rcases makeRoom_eq_ok_iff.mp hroom with ⟨hlt, rfl⟩ | ⟨hfull, hevicts, hpos, rfl⟩
    · exact ⟨_, makeRoom_eq_ok_iff.mpr (.inl ⟨by rw [hsize]; exact hlt, rfl⟩), hkept⟩
    · refine ⟨_, makeRoom_eq_ok_iff.mpr (.inr ⟨by rw [hsize]; exact hfull, hevicts, hpos, rfl⟩), ?_⟩
      rw [hleast]
      cases table.leastRecent? with
      | none => exact hkept
      | some victim => exact hkept.erase victim
  obtain ⟨_, hunused⟩ := of_freeHandle? hfree
  have hfree' := hsame.freeHandle?_eq hcoherent'.nodup_handles (handleKind parameters.kind)
    (roomy.size + 1) roomy.nextIndex
  rw [hfree] at hfree'
  have hsize := hsame.size_eq
  obtain ⟨entries, hperm, rfl⟩ := hsame
  rw [← hsize] at hfree'
  refine ⟨_, start_eq_ok_iff.mpr ⟨_, nextIndex, hroom', hfree', rfl⟩, ?_⟩
  have hticked : { roomy with
      nextIndex := nextIndex
      useClock := roomy.useClock + 1 }.SameSessions { roomy with
      entries := entries
      nextIndex := nextIndex
      useClock := roomy.useClock + 1 } := ⟨entries, hperm, rfl⟩
  exact hticked.insert_of_free hcoherent'.nodup_handles hunused _

end SameSessions

/-! ## Uses -/

/-- The stamps of the sessions follow their uses: every live session was used, and those with higher
stamps were used after its last use. -/
def Follows (uses : List UInt32) (table : SessionTable) : Prop :=
  ∀ handle session, table.get? handle = some session →
    ∃ earlier later, uses = earlier ++ handle :: later ∧ handle ∉ later ∧
      ∀ other found, table.get? other = some found → session.lastUsed < found.lastUsed →
        other ∈ later

namespace Follows

variable {uses : List UInt32}

theorem empty (capacity : Nat) (evicts : Bool) : Follows uses (.empty capacity evicts) := by
  intro handle session hlive
  cases hlive

/-- Sessions may be dropped. -/
theorem drop (h : Follows uses table)
    (hkept : ∀ other found, next.get? other = some found → table.get? other = some found) :
    Follows uses next := by
  intro handle session hlive
  obtain ⟨earlier, later, huses, hlast, hlater⟩ := h handle session (hkept _ _ hlive)
  exact ⟨earlier, later, huses, hlast, fun other found hfound =>
    hlater other found (hkept _ _ hfound)⟩

/-- A session that is used gets a stamp that is higher than those of all others, unless there is
none under the handle any more. Of the others some may be dropped. -/
theorem use (h : Follows uses table) (hcoherent : Coherent table) (handle : UInt32)
    (hothers : ∀ other found, other ≠ handle → next.get? other = some found →
      table.get? other = some found)
    (hused : ∀ session, next.get? handle = some session → table.useClock < session.lastUsed) :
    Follows (uses ++ [handle]) next := by
  intro other found hlive
  by_cases hother : other = handle
  · subst hother
    refine ⟨uses, [], rfl, List.not_mem_nil, fun later session hsession hlt => ?_⟩
    -- no other session has a stamp later than now
    exfalso
    by_cases hlater : later = other
    · subst hlater
      cases hlive.symm.trans hsession
      exact Nat.lt_irrefl _ hlt
    · have hnow := hcoherent.stamp_le (hothers later session hlater hsession)
      have hstamp := hused found hlive
      omega
  · have hbefore := hothers other found hother hlive
    obtain ⟨earlier, later, huses, hlast, hlater⟩ := h other found hbefore
    refine ⟨earlier, later ++ [handle], ?_, ?_, fun third session hsession hlt => ?_⟩
    · rw [huses, List.append_assoc, List.cons_append]
    · intro hmem
      rcases List.mem_append.mp hmem with hearlier | hnew
      · exact hlast hearlier
      · exact hother (List.mem_singleton.mp hnew)
    · by_cases hthird : third = handle
      · rw [hthird]
        exact List.mem_append_right _ (List.mem_singleton_self handle)
      · exact List.mem_append_left _
          (hlater third session (hothers third session hthird hsession) hlt)

end Follows

/-- Of the live sessions, the one that was used last at the earliest time: since its last use every
other one was used. -/
def IsLeastRecent (uses : List UInt32) (table : SessionTable) (victim : UInt32) : Prop :=
  table.contains victim = true ∧
    ∃ earlier later, uses = earlier ++ victim :: later ∧ victim ∉ later ∧
      ∀ other, table.contains other = true → other ≠ victim → other ∈ later

theorem Follows.isLeastRecent {uses : List UInt32} (h : Follows uses table)
    (hcoherent : Coherent table) (hleast : table.leastRecent? = some victim) :
    IsLeastRecent uses table victim := by
  obtain ⟨session, hlive, hlowest⟩ := (leastRecent?_eq_some_iff hcoherent).mp hleast
  obtain ⟨earlier, later, huses, hlast, hlater⟩ := h victim session hlive
  refine ⟨Option.isSome_of_eq_some hlive, earlier, later, huses, hlast, ?_⟩
  intro other hcontains hother
  obtain ⟨found, hfound⟩ := Option.isSome_iff_exists.mp hcontains
  -- no two sessions have one stamp
  have hne : session.lastUsed ≠ found.lastUsed := fun heq =>
    hother (hcoherent.stamp_injective hlive hfound heq).symm
  exact hlater other found hfound (Nat.lt_of_le_of_ne (hlowest other found hfound) hne)

end TrustedPlatform.SessionTable
