import TrustedPlatform.CommandSet
import TrustedPlatform.ObjectTable
import TrustedPlatform.PcrBanks
import TrustedPlatform.TicketAuthority

/-!
# The environment of a command

What a command may consult but never changes.
-/

namespace TrustedPlatform

/-- What a command may consult. -/
structure Environment where
  crypto : Crypto
  commands : CommandSet
  tickets : TicketAuthority
  objects : ObjectTable
  pcrs : PcrBanks
  clock : Clock

end TrustedPlatform
