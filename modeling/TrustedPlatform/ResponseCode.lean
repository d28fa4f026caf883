/-!
# Response codes

The numbers a response envelope reports. A code whose bit 7 is set has *format one*: it may carry
the position of the handle, parameter or authorization at fault, which `withHandle`,
`withParameter` and `withSession` write into it.
-/

namespace TrustedPlatform.ResponseCode

/-- The command was carried out. -/
def success : UInt32 := 0x000

/-- The envelope's tag is none a request may have. -/
def badTag : UInt32 := 0x01E

/-! ## Codes of format zero -/

/-- The engine failed internally. -/
def failure : UInt32 := 0x101

/-- A PCR changed since the session first looked. -/
def pcrChanged : UInt32 := 0x128

/-- The size field differs from the envelope's length. -/
def commandSize : UInt32 := 0x142

/-- The command is not implemented. -/
def commandCode : UInt32 := 0x143

/-- The authorization area is malformed. -/
def authSize : UInt32 := 0x144

/-- The command parameters conflict with those the session is bound to. -/
def cpHash : UInt32 := 0x151

/-! ## Codes of format one -/

/-- A value is out of range. -/
def value : UInt32 := 0x084

/-- The hierarchy is disabled. -/
def hierarchy : UInt32 := 0x085

/-- The handle names nothing. -/
def handle : UInt32 := 0x08B

/-- The nonce is not the session's. -/
def nonce : UInt32 := 0x08F

/-- A structure has the wrong size. -/
def size : UInt32 := 0x095

/-- The signature does not verify. -/
def signature : UInt32 := 0x09B

/-- A policy check failed. -/
def policyFail : UInt32 := 0x09D

/-- The ticket does not verify. -/
def ticket : UInt32 := 0x0A0

/-- The ticket or authorization has expired. -/
def expired : UInt32 := 0x0A3

/-- The policy names a command that is not implemented. -/
def policyCommandCode : UInt32 := 0x0A4

/-! ## Warnings -/

/-- No room for another session. -/
def sessionMemory : UInt32 := 0x903

/-- No room for the response. -/
def memory : UInt32 := 0x904

/-! ## Positions -/

/-- Whether the code may carry a position. -/
def isFormatOne (rc : UInt32) : Bool :=
  rc &&& 0x080 != 0

/-- The code, pointing at handle `index`. -/
def withHandle (rc : UInt32) (index : UInt8) : UInt32 :=
  rc ||| ((index.toUInt32 &&& 0x7) <<< 8)

/-- The code, pointing at parameter `index`. -/
def withParameter (rc : UInt32) (index : UInt8) : UInt32 :=
  rc ||| (0x040 : UInt32) ||| ((index.toUInt32 &&& 0xF) <<< 8)

/-- The code, pointing at authorization `index`. -/
def withSession (rc : UInt32) (index : UInt8) : UInt32 :=
  rc ||| (0x800 : UInt32) ||| ((index.toUInt32 &&& 0x7) <<< 8)

end TrustedPlatform.ResponseCode
