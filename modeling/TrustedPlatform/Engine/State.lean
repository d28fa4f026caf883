import TrustedPlatform.Environment
import TrustedPlatform.SessionTable

/-!
# What commands change

A command changes the session table and makes draws from the source of random octets. It runs as
an `Action`: it may stop early, and the state then is the one it had reached, not the one it
started from.
-/

namespace TrustedPlatform.Engine

/-- What commands change. -/
structure State where
  sessions : SessionTable
  /-- The number of draws made so far. -/
  draws : Nat
  deriving DecidableEq, Repr

/-- A computation that changes the state and may stop early. -/
abbrev Action := EStateM Stop State

namespace Action

/-- Stops with a fault. -/
def reject {α : Type} (fault : Fault) : Action α := throw (.fault fault)

/-- The result, or its stop. -/
def ofExcept {α : Type} : Except Stop α → Action α
  | .ok value => return value
  | .error stop => throw stop

/-- The result, or its fault. -/
def ofFault {α : Type} : Except Fault α → Action α
  | .ok value => return value
  | .error fault => reject fault

/-- A computation on the session table. -/
def onSessions {α : Type} (step : EStateM Stop SessionTable α) : Action α := fun state =>
  match step state.sessions with
  | .ok value sessions => .ok value { state with sessions := sessions }
  | .error stop sessions => .error stop { state with sessions := sessions }

/-- A computation on the session table whose failure is attributed by `site`. -/
def onSessionsAt {α : Type} (site : Cause → Fault) (step : EStateM Cause SessionTable α) :
    Action α := fun state =>
  match step state.sessions with
  | .ok value sessions => .ok value { state with sessions := sessions }
  | .error cause sessions => .error (.fault (site cause)) { state with sessions := sessions }

/-- Draws `size` random octets. -/
def draw (crypto : Crypto) (size : Nat) : Action Bytes := fun state =>
  .ok (crypto.random state.draws size) { state with draws := state.draws + 1 }

/-- The session under `handle`, if it is live. -/
def session? (handle : UInt32) : Action (Option Session) := fun state =>
  .ok (state.sessions.get? handle) state

end Action

end TrustedPlatform.Engine
