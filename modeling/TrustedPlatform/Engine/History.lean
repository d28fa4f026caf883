import TrustedPlatform.Engine.Basic

/-!
# Histories

What can happen to an engine, one event at a time, and where a list of events leads.
-/

namespace TrustedPlatform.Engine

/-- Something that happens to an engine. -/
inductive Event
  /-- A request envelope arrives. -/
  | command (request : Bytes)
  | loadKey (key : PublicKey) (hierarchy : UInt32)
  | unloadKey (handle : UInt32)
  | extendPcr (index : Nat) (data : Bytes)
  | setClock (millis : UInt64)
  | advanceClock (millis : UInt64)
  | resetClock
  | setHierarchyEnabled (hierarchy : UInt32) (enabled : Bool)
  deriving DecidableEq

/-- The engine after an event; one that fails leaves it as failing leaves it. -/
def after (engine : Engine) : Event → Engine
  | .command request =>
    match executeCommand request engine with
    | .ok _ engine => engine
    | .error _ engine => engine
  | .loadKey key hierarchy => (engine.loadKey key hierarchy).2
  | .unloadKey handle => (engine.unloadKey handle).2
  | .extendPcr index data =>
    match engine.extendPcr index data with
    | .ok engine => engine
    | .error _ => engine
  | .setClock millis => engine.withClock (·.set millis)
  | .advanceClock millis => engine.withClock (·.advance millis)
  | .resetClock => engine.withClock Clock.reset
  | .setHierarchyEnabled hierarchy enabled => engine.setHierarchyEnabled hierarchy enabled

/-- The engine after a list of events. -/
def afterAll (engine : Engine) (events : List Event) : Engine :=
  events.foldl after engine

end TrustedPlatform.Engine
