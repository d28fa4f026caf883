import TrustedPlatform.Algorithm
import TrustedPlatform.SessionKind
import TrustedPlatform.PcrSelection
import TrustedPlatform.Sized

/-!
# Sessions

A session gathers a policy: its digest, and restrictions on what it may authorize. These are
written in one way only, by committing the whole change that one assertion makes.
-/

namespace TrustedPlatform

/-- The PCRs that a session's first PCR assertion looked at, and when. -/
structure PcrSnapshot where
  selection : PcrSelections
  updateCounter : UInt32
  deriving DecidableEq, Repr

/-- What a session starts with. -/
structure SessionParameters where
  kind : SessionKind
  hashAlg : AlgId
  boundEntity : Option Name
  nonceCaller : Bytes
  nonceTpm : Bytes
  /-- The clock reading at the start. -/
  startTime : UInt64
  deriving DecidableEq, Repr

/-- What one assertion changes, all at once. -/
structure PolicyChange where
  digest : Bytes
  commandCode : Option UInt32
  pcrSnapshot : Option PcrSnapshot
  authValueNeeded : Option Bool
  passwordNeeded : Option Bool
  cpHash : Option Bytes
  deriving DecidableEq, Repr

/-- A change of the digest only. -/
def PolicyChange.ofDigest (digest : Bytes) : PolicyChange :=
  ⟨digest, none, none, none, none, none⟩

/-- The part of a session that assertions write. -/
structure PolicyState where
  digest : Bytes
  /-- The only command the session may authorize. -/
  commandCode : Option UInt32
  pcrSnapshot : Option PcrSnapshot
  authValueNeeded : Bool
  passwordNeeded : Bool
  /-- The only command parameters the session may authorize, by their hash. -/
  cpHash : Option Bytes
  deriving DecidableEq, Repr

namespace PolicyState

/-- The state before the first assertion: a zero digest and no restriction. -/
def initial (digestSize : Nat) : PolicyState :=
  ⟨Bytes.zeros digestSize, none, none, false, false, none⟩

/-- The state after a change. A command code, snapshot or cpHash that is set stays as it is; the
flags are those of the last change that has them. -/
def after (state : PolicyState) (change : PolicyChange) : PolicyState where
  digest := change.digest
  commandCode := state.commandCode.or change.commandCode
  pcrSnapshot := state.pcrSnapshot.or change.pcrSnapshot
  authValueNeeded := change.authValueNeeded.getD state.authValueNeeded
  passwordNeeded := change.passwordNeeded.getD state.passwordNeeded
  cpHash := state.cpHash.or change.cpHash

end PolicyState

/-- An authorization session. -/
structure Session where
  handle : UInt32
  kind : SessionKind
  hashAlg : AlgId
  boundEntity : Option Name
  nonceCaller : Bytes
  nonceTpm : Bytes
  attributes : SessionAttributes
  startTime : UInt64
  policy : PolicyState
  /-- The use clock of the table when the session was last used: like the clock a number without an
  end, for which 64 bits do as well (`Engine.useClock_reached_le`). -/
  lastUsed : Nat
  deriving DecidableEq, Repr

namespace Session

/-- A session that nothing was done with yet. -/
def start (handle : UInt32) (parameters : SessionParameters) (stamp : Nat) : Session where
  handle := handle
  kind := parameters.kind
  hashAlg := parameters.hashAlg
  boundEntity := parameters.boundEntity
  nonceCaller := parameters.nonceCaller
  nonceTpm := parameters.nonceTpm
  attributes := .empty
  startTime := parameters.startTime
  policy := .initial parameters.hashAlg.digestSize
  lastUsed := stamp

/-- Whether assertions can be made on the session. -/
def isPolicy (session : Session) : Bool := session.kind.isPolicy

/-- Whether the session only computes a digest. -/
def isTrial (session : Session) : Bool := session.kind = .trial

/-- The session after a change of its policy; a breach if the new digest has the wrong length. -/
def commit (session : Session) (change : PolicyChange) : Except Stop Session :=
  if change.digest.length = session.hashAlg.digestSize then
    .ok { session with policy := session.policy.after change }
  else .error (.breach .digestLength)

end Session

end TrustedPlatform
