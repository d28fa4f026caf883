import TrustedPlatform.Session
import TrustedPlatform.Handle

/-!
# The session table

Sessions are kept under their handles, up to the table's capacity. The table has a use clock:
starting a session and touching one stamp the session with the next reading. A full table refuses
further sessions, or drops the session with the lowest stamp first if it may evict.

Handles are allotted by an index that only moves forward, to all session ranges alike; handles
still in use are passed over.
-/

namespace TrustedPlatform

/-- The live sessions. -/
structure SessionTable where
  /-- The sessions, by handle. -/
  entries : List (UInt32 × Session)
  capacity : Nat
  /-- Whether a full table drops the session used least recently. -/
  evicts : Bool
  /-- The index of the next handle. -/
  nextIndex : UInt32
  /-- The use clock: the highest stamp given so far. It is a number without an end here; one of 64
  bits does as well, because it does not get far (`Engine.useClock_reached_le`). -/
  useClock : Nat
  deriving DecidableEq, Repr

namespace SessionTable

/-- A table without sessions. -/
def empty (capacity : Nat) (evicts : Bool) : SessionTable := ⟨[], capacity, evicts, 0, 0⟩

/-- The number of live sessions. -/
def size (table : SessionTable) : Nat := table.entries.length

/-- Whether there is no session. -/
def isEmpty (table : SessionTable) : Bool := table.entries.isEmpty

/-- The handles of the live sessions. -/
def handles (table : SessionTable) : List UInt32 := table.entries.map (·.1)

/-- The session under `handle`. -/
def get? (table : SessionTable) (handle : UInt32) : Option Session :=
  table.entries.lookup handle

/-- Whether a session is live under `handle`. -/
def contains (table : SessionTable) (handle : UInt32) : Bool :=
  (table.get? handle).isSome

/-- The table with `session` under `handle`, in the place of the one that was there. -/
def insert (table : SessionTable) (handle : UInt32) (session : Session) : SessionTable :=
  if table.contains handle then
    { table with
      entries := table.entries.map fun entry =>
        if entry.1 = handle then (handle, session) else entry }
  else { table with entries := table.entries ++ [(handle, session)] }

/-- The table without the session under `handle`. -/
def erase (table : SessionTable) (handle : UInt32) : SessionTable :=
  { table with entries := table.entries.filter (·.1 ≠ handle) }

/-- The handle of the session used least recently. -/
def leastRecent? (table : SessionTable) : Option UInt32 :=
  (table.entries.minOn? (·.2.lastUsed)).map (·.1)

/-- The kind of the handles of a session. -/
def handleKind : SessionKind → HandleKind
  | .hmac => .hmacSession
  | .policy | .trial => .policySession

/-- The first handle not in use among the `tries` handles from `index` on, and the index after
it. -/
def freeHandle? (table : SessionTable) (kind : HandleKind) : (tries : Nat) → (index : UInt32) →
    Option (UInt32 × UInt32)
  | 0, _ => none
  | tries + 1, index =>
    let handle := kind.handle index
    if table.contains handle then table.freeHandle? kind tries (index + 1)
    else some (handle, index + 1)

/-- Makes room for a session, if the table is full and may evict. -/
def makeRoom (table : SessionTable) : Except Stop SessionTable :=
  if table.size < table.capacity then .ok table
  else if table.evicts ∧ table.capacity ≠ 0 then
    match table.leastRecent? with
    | some handle => .ok (table.erase handle)
    | none => .ok table
  else .error (.ofCause (.exhausted .sessionTable))

/-- Starts a session and returns its handle. The search for a free handle tries one more handle than
there are sessions; it finds none only if every handle of the range is in use. -/
def start (parameters : SessionParameters) : EStateM Stop SessionTable UInt32 := fun table =>
  match table.makeRoom with
  | .error stop => .error stop table
  | .ok roomy =>
    match roomy.freeHandle? (handleKind parameters.kind) (roomy.size + 1) roomy.nextIndex with
    | none => .error (.breach .handlesExhausted) roomy
    | some (handle, nextIndex) =>
      let stamp := roomy.useClock + 1
      let session := Session.start handle parameters stamp
      .ok handle ({ roomy with nextIndex := nextIndex, useClock := stamp }.insert handle session)

/-- Stamps the session under `handle` as used, and returns it. The use clock moves on even if there
is no such session. -/
def touch (handle : UInt32) : EStateM Cause SessionTable Session := fun table =>
  let stamp := table.useClock + 1
  let table := { table with useClock := stamp }
  match table.get? handle with
  | some session =>
    let session := { session with lastUsed := stamp }
    .ok session (table.insert handle session)
  | none => .error .handleNotFound table

/-- Removes the session under `handle`, and returns it. -/
def flush (handle : UInt32) : EStateM Cause SessionTable Session := fun table =>
  match table.get? handle with
  | some session => .ok session (table.erase handle)
  | none => .error .handleNotFound table

end SessionTable

end TrustedPlatform
