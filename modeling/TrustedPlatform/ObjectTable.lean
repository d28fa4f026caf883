import TrustedPlatform.Crypto
import TrustedPlatform.Handle
import TrustedPlatform.Sized

/-!
# Loaded objects

The permanent hierarchies are always there; keys are loaded into a hierarchy under a transient
handle. A key's name is the identifier of SHA-256 and that hash of its public area.
-/

namespace TrustedPlatform

/-- What a handle refers to. -/
structure Entity where
  handle : UInt32
  name : Name
  /-- The hierarchy the entity belongs to, the null hierarchy if to none. -/
  hierarchy : UInt32
  /-- The key, if the entity is one. -/
  publicKey : Option PublicKey
  deriving DecidableEq, Repr

/-- The name of a key. -/
def PublicKey.name (key : PublicKey) : Name :=
  ⟨be16 AlgId.sha256.code ++ HashId.sha256.digest key.area⟩

/-- The keys that are loaded, and the index of the next one. -/
structure ObjectTable where
  entries : List (UInt32 × Entity)
  nextIndex : UInt32
  deriving DecidableEq, Repr

namespace ObjectTable

/-- No keys. -/
def empty : ObjectTable := ⟨[], 0⟩

/-- Whether `handle` is that of a hierarchy. -/
def isHierarchy (handle : UInt32) : Bool :=
  handle = Handle.owner ∨ handle = Handle.endorsement ∨ handle = Handle.platform
    ∨ handle = Handle.null

/-- A hierarchy as an entity, named by its own handle. -/
def hierarchyEntity (handle : UInt32) : Entity := ⟨handle, ⟨be32 handle⟩, handle, none⟩

/-- What `handle` refers to. -/
def resolve (table : ObjectTable) (handle : UInt32) : Option Entity :=
  if isHierarchy handle then some (hierarchyEntity handle) else table.entries.lookup handle

/-- Loads a key into a hierarchy, under the next transient handle. -/
def load (table : ObjectTable) (key : PublicKey) (hierarchy : UInt32) : Entity × ObjectTable :=
  let handle := HandleKind.transient.handle table.nextIndex
  let entity : Entity := ⟨handle, key.name, hierarchy, some key⟩
  (entity, ⟨(handle, entity) :: table.entries.filter (·.1 ≠ handle), table.nextIndex + 1⟩)

/-- Removes the key under `handle`, and returns it. -/
def unload (table : ObjectTable) (handle : UInt32) : Option Entity × ObjectTable :=
  (table.entries.lookup handle, { table with entries := table.entries.filter (·.1 ≠ handle) })

end ObjectTable

end TrustedPlatform
