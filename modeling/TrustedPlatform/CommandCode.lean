/-!
# Command codes

The commands a policy can speak about. All but `policySecret`, whose code only serves as a marker
in policy digests, are commands of the engine.
-/

namespace TrustedPlatform

/-- A command code the engine knows. -/
inductive CommandCode
  | policySigned
  | policySecret
  | flushContext
  | policyAuthorize
  | policyAuthValue
  | policyCommandCode
  | policyTicket
  | startAuthSession
  | verifySignature
  | policyPcr
  | policyGetDigest
  | policyPassword
  deriving DecidableEq, Repr

namespace CommandCode

/-- Every command code. -/
def all : List CommandCode :=
  [policySigned, policySecret, flushContext, policyAuthorize, policyAuthValue, policyCommandCode,
    policyTicket, startAuthSession, verifySignature, policyPcr, policyGetDigest, policyPassword]

/-- The number of a command. -/
def code : CommandCode → UInt32
  | policySigned => 0x160
  | policySecret => 0x151
  | flushContext => 0x165
  | policyAuthorize => 0x16A
  | policyAuthValue => 0x16B
  | policyCommandCode => 0x16C
  | policyTicket => 0x172
  | startAuthSession => 0x176
  | verifySignature => 0x177
  | policyPcr => 0x17F
  | policyGetDigest => 0x189
  | policyPassword => 0x18C

/-- The command a number stands for. -/
def ofCode? (code : UInt32) : Option CommandCode :=
  all.find? (·.code = code)

/-- The name of a command. -/
def name : CommandCode → String
  | policySigned => "PolicySigned"
  | policySecret => "PolicySecret"
  | flushContext => "FlushContext"
  | policyAuthorize => "PolicyAuthorize"
  | policyAuthValue => "PolicyAuthValue"
  | policyCommandCode => "PolicyCommandCode"
  | policyTicket => "PolicyTicket"
  | startAuthSession => "StartAuthSession"
  | verifySignature => "VerifySignature"
  | policyPcr => "PolicyPcr"
  | policyGetDigest => "PolicyGetDigest"
  | policyPassword => "PolicyPassword"

theorem ofCode?_code (c : CommandCode) : ofCode? c.code = some c := by
  cases c <;> decide

theorem code_of_ofCode? {n : UInt32} {c : CommandCode} (h : ofCode? n = some c) : c.code = n := by
  simpa using List.find?_some h

end CommandCode

end TrustedPlatform
