import TrustedPlatform.Bytes

/-!
# Configuration of an engine
-/

namespace TrustedPlatform

/-- Which hierarchies accept tickets at first. -/
structure HierarchyConfig where
  owner : Bool
  endorsement : Bool
  platform : Bool
  deriving DecidableEq, Repr

/-- Every hierarchy accepts tickets. -/
def HierarchyConfig.standard : HierarchyConfig := ⟨true, true, true⟩

/-- The configuration of an engine. -/
structure Config where
  /-- Sessions the table has room for. -/
  maxSessions : Nat
  /-- Octets of the longest response. -/
  maxResponseSize : Nat
  /-- Whether a full table makes room by dropping the session used least recently. -/
  evictWhenFull : Bool
  hierarchies : HierarchyConfig
  /-- The seed of the hierarchies' proof values; they are drawn at random if it is empty. -/
  proofSeed : Bytes
  /-- Command codes that are reported as not implemented. -/
  disabledCommands : List UInt32
  deriving DecidableEq, Repr

/-- The configuration where nothing is said. -/
def Config.standard : Config where
  maxSessions := 64
  maxResponseSize := 4096
  evictWhenFull := false
  hierarchies := .standard
  proofSeed := []
  disabledCommands := []

end TrustedPlatform
