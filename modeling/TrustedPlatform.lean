import TrustedPlatform.Engine.History
import TrustedPlatform.Main
import TrustedPlatform.Proofs.Policy.Trial
import TrustedPlatform.Proofs.Wire.Layouts
import TrustedPlatform.Proofs.Envelope.Request
import TrustedPlatform.Proofs.Policy.Evaluate
import TrustedPlatform.Proofs.Engine.Action
import TrustedPlatform.Proofs.Engine.Atomicity
import TrustedPlatform.Proofs.Policy.Binding
import TrustedPlatform.Proofs.SessionTable
import TrustedPlatform.Proofs.Engine.Perform
import TrustedPlatform.Proofs.Engine.Process
import TrustedPlatform.Proofs.Engine.PolicyHistory
import TrustedPlatform.Proofs.Engine.SignedAuthorization
import TrustedPlatform.Proofs.Engine.VerifiedTicket
import TrustedPlatform.Proofs.Engine.LiveSessions
import TrustedPlatform.Proofs.Engine.Approval
import TrustedPlatform.Proofs.SessionTable.FreeHandle
import TrustedPlatform.Proofs.Engine.Promises
import TrustedPlatform.Proofs.Engine.Unanswered
import TrustedPlatform.Proofs.Engine.Exchange
import TrustedPlatform.Proofs.Engine.DirectCall
import TrustedPlatform.Proofs.Engine.Independence
import TrustedPlatform.Proofs.Engine.SessionUse
import TrustedPlatform.Proofs.SessionTable.Allotment
import TrustedPlatform.Proofs.Engine.HandleAllotment
import TrustedPlatform.Proofs.Wire.Confined
import TrustedPlatform.Proofs.Engine.Returns
import TrustedPlatform.Proofs.Engine.TicketLifetime
import TrustedPlatform.Proofs.Engine.StartedSession
import TrustedPlatform.Proofs.Engine.ResponseLimit
import TrustedPlatform.Proofs.Engine.Frame
import TrustedPlatform.Proofs.Engine.PcrState
import TrustedPlatform.Proofs.Engine.LoadedKeys
import TrustedPlatform.Proofs.TicketAuthority.Relabelled
import TrustedPlatform.Proofs.Wire.Truncated
import TrustedPlatform.Proofs.Wire.Types
import TrustedPlatform.Proofs.PcrSelection
