import TrustedPlatform.Config
import TrustedPlatform.Json.Value

/-!
# The text form of a configuration

A configuration is written as a JSON record; fields that are missing have their standard values.
The proof seed is written as hexadecimal digits.
-/

namespace TrustedPlatform

/-- Why a configuration cannot be used. -/
inductive ConfigError
  /-- The file is not text. -/
  | notText
  /-- The text is not a configuration. -/
  | malformed
  deriving DecidableEq, Repr

/-- The wording of the error. -/
def ConfigError.message : ConfigError → String
  | notText => "stream did not contain valid UTF-8"
  | malformed => "failed to parse TPM config"

/-- The record of the hierarchies. -/
def HierarchyConfig.ofJson? (value : Json.Value) : Option HierarchyConfig := do
  let flag := Json.Value.fieldOr true Json.Value.bool?
  match ← value.record? ["owner", "endorsement", "platform"] with
  | [owner, endorsement, platform] =>
    return ⟨← flag owner, ← flag endorsement, ← flag platform⟩
  | _ => none

namespace Config

open Json.Value (fieldOr)

/-- Octets written as hexadecimal digits. -/
def seed? (value : Json.Value) : Option Bytes := do
  Hex.decode? (← value.string?).toList

/-- A list of command codes. -/
def codes? (value : Json.Value) : Option (List UInt32) := do
  return (← value.array? (Json.Value.natBelow? UInt32.size)).map UInt32.ofNat

/-- The record of the whole configuration. -/
def ofJson? (value : Json.Value) : Option Config := do
  let standard := Config.standard
  let size? := Json.Value.natBelow? UInt64.size
  match ← value.record? ["max_sessions", "max_response_size", "evict_when_full", "hierarchies",
      "proof_seed", "disabled_commands"] with
  | [maxSessions, maxResponseSize, evictWhenFull, hierarchies, proofSeed, disabledCommands] =>
    return {
      maxSessions := ← fieldOr standard.maxSessions size? maxSessions
      maxResponseSize := ← fieldOr standard.maxResponseSize size? maxResponseSize
      evictWhenFull := ← fieldOr standard.evictWhenFull Json.Value.bool? evictWhenFull
      hierarchies := ← fieldOr standard.hierarchies HierarchyConfig.ofJson? hierarchies
      proofSeed := ← fieldOr standard.proofSeed seed? proofSeed
      disabledCommands := ← fieldOr standard.disabledCommands codes? disabledCommands }
  | _ => none

/-- The configuration a file's octets spell. -/
def ofBytes (contents : Bytes) : Except ConfigError Config :=
  match String.fromUTF8? ⟨contents.toArray⟩ with
  | none => .error .notText
  | some text =>
    match (do ofJson? (← Json.Value.ofString? text) : Option Config) with
    | some config => .ok config
    | none => .error .malformed

end Config

end TrustedPlatform
