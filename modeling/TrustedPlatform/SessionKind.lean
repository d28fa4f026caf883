import TrustedPlatform.Wire

/-!
# Session kinds and attributes

A session authorizes by HMAC, or gathers a policy, or only computes what a policy's digest would
be (a trial). Each use of a session carries a set of attribute bits.
-/

namespace TrustedPlatform

/-- What a session is for. -/
inductive SessionKind
  | hmac
  | policy
  | trial
  deriving DecidableEq, Repr

namespace SessionKind

/-- Every kind. -/
def all : List SessionKind := [hmac, policy, trial]

/-- The number of a kind. -/
def code : SessionKind → UInt8
  | hmac => 0x00
  | policy => 0x01
  | trial => 0x03

/-- The name of a kind. -/
def name : SessionKind → String
  | hmac => "Hmac"
  | policy => "Policy"
  | trial => "Trial"

/-- The kind a number stands for. -/
def ofCode? (code : UInt8) : Option SessionKind :=
  all.find? (·.code = code)

/-- Whether sessions of this kind have a policy digest that assertions extend. -/
def isPolicy : SessionKind → Bool
  | hmac => false
  | policy | trial => true

theorem ofCode?_code (kind : SessionKind) : ofCode? kind.code = some kind := by
  cases kind <;> decide

theorem code_of_ofCode? {c : UInt8} {kind : SessionKind} (h : ofCode? c = some kind) :
    kind.code = c := by
  simpa using List.find?_some h

instance : Wire SessionKind where
  write kind := [kind.code]
  read := do
    match ofCode? (← Reader.octet) with
    | some kind => return kind
    | none => throw .value

end SessionKind

/-- The attribute bits of one use of a session. -/
structure SessionAttributes where
  bits : UInt8
  deriving DecidableEq, Repr

namespace SessionAttributes

/-- The session outlives the command. -/
def continueSession : UInt8 := 0x01

/-- The session's audit covers only commands it is used in. -/
def auditExclusive : UInt8 := 0x02

/-- The session's audit digest starts anew. -/
def auditReset : UInt8 := 0x04

/-- The first command parameter is encrypted. -/
def decrypt : UInt8 := 0x20

/-- The first response parameter is to be encrypted. -/
def encrypt : UInt8 := 0x40

/-- The session audits the command. -/
def audit : UInt8 := 0x80

/-- No attribute. -/
def empty : SessionAttributes := ⟨0⟩

/-- The attributes, and the session outlives the command. -/
def withContinue (attributes : SessionAttributes) : SessionAttributes :=
  ⟨attributes.bits ||| continueSession⟩

/-- Whether the session outlives the command. -/
def continues (attributes : SessionAttributes) : Bool :=
  attributes.bits &&& continueSession ≠ 0

instance : Wire SessionAttributes where
  write attributes := [attributes.bits]
  read := do return ⟨← Reader.octet⟩

end SessionAttributes

end TrustedPlatform
