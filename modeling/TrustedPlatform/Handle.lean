/-!
# Handles

The most significant octet of a handle says what kind of thing it names. The hierarchies and the
password authorization have fixed handles.
-/

namespace TrustedPlatform

/-- What a handle names, by its most significant octet. -/
inductive HandleKind
  | pcr
  | nvIndex
  | hmacSession
  | policySession
  | permanent
  | transient
  | persistent
  deriving DecidableEq, Repr

namespace HandleKind

/-- Every kind. -/
def all : List HandleKind :=
  [pcr, nvIndex, hmacSession, policySession, permanent, transient, persistent]

/-- The most significant octet of the handles of this kind. -/
def octet : HandleKind → UInt8
  | pcr => 0x00
  | nvIndex => 0x01
  | hmacSession => 0x02
  | policySession => 0x03
  | permanent => 0x40
  | transient => 0x80
  | persistent => 0x81

/-- The name of a kind. -/
def name : HandleKind → String
  | pcr => "Pcr"
  | nvIndex => "NvIndex"
  | hmacSession => "HmacSession"
  | policySession => "PolicySession"
  | permanent => "Permanent"
  | transient => "Transient"
  | persistent => "Persistent"

/-- The kind of thing `handle` names. -/
def of? (handle : UInt32) : Option HandleKind :=
  all.find? (·.octet = (handle >>> 24).toUInt8)

/-- The lowest handle of this kind. -/
def base (kind : HandleKind) : UInt32 :=
  kind.octet.toUInt32 <<< 24

/-- The handle of this kind whose low 24 bits are those of `index`. -/
def handle (kind : HandleKind) (index : UInt32) : UInt32 :=
  kind.base ||| (index &&& 0x00FFFFFF)

end HandleKind

namespace Handle

/-- The owner hierarchy. -/
def owner : UInt32 := 0x40000001

/-- The null hierarchy, and the handle that names nothing. -/
def null : UInt32 := 0x40000007

/-- Authorization by password. -/
def password : UInt32 := 0x40000009

/-- The endorsement hierarchy. -/
def endorsement : UInt32 := 0x4000000B

/-- The platform hierarchy. -/
def platform : UInt32 := 0x4000000C

end Handle

end TrustedPlatform
