import DongloraClient.Foundation.Transition
import DongloraClient.Foundation.Isolation
import DongloraClient.Foundation.Program
import DongloraClient.Foundation.Threads
import DongloraClient.Foundation.Handover
import DongloraClient.Foundation.Sections
import DongloraClient.Foundation.BitPolynomial
import DongloraClient.Session
import DongloraClient.Tags
import DongloraClient.Dongle
import DongloraClient.Device
import DongloraClient.Shared
import DongloraClient.Failover
import DongloraClient.Proofs.DongleLogic
import DongloraClient.Proofs.DongleRecovery
import DongloraClient.Proofs.DongleConfig
import DongloraClient.Proofs.DongleReconnect
import DongloraClient.Proofs.DongleReceive
import DongloraClient.Proofs.SessionSteps
import DongloraClient.Proofs.SessionTable
import DongloraClient.Proofs.Dispatch
import DongloraClient.Proofs.SessionTags
import DongloraClient.Proofs.TagAllocation
import DongloraClient.Proofs.SessionShutdown
import DongloraClient.Proofs.SessionReplies
import DongloraClient.Proofs.SessionAnswers
import DongloraClient.Proofs.SessionSettlement
import DongloraClient.Foundation.Feedback
import DongloraClient.Proofs.CrcDetection
import DongloraClient.Proofs.CrcRemainder
import DongloraClient.Proofs.FrameStream
import DongloraClient.Proofs.FrameSegments
import DongloraClient.Proofs.FrameLimits
import DongloraClient.Proofs.PayloadCodecs
import DongloraClient.Proofs.InfoCodec
import DongloraClient.Proofs.EventPipeline
import DongloraClient.Proofs.SessionDeath
import DongloraClient.Proofs.SessionQueue
import DongloraClient.Proofs.SessionIsolation
import DongloraClient.Proofs.BringUp
import DongloraClient.Proofs.PreparedConfig
import DongloraClient.Proofs.StickyMux
import DongloraClient.Proofs.MuxCalls
import DongloraClient.Proofs.SharedDiscipline
import DongloraClient.Proofs.SharedPrograms
import DongloraClient.Proofs.SharedReconnect
import DongloraClient.Proofs.SharedClose
import DongloraClient.Proofs.SharedQueue
import DongloraClient.Proofs.SessionAttempts
import DongloraClient.Proofs.DongleFailover
import DongloraClient.Proofs.RxIteration
import DongloraClient.Keepalive
import DongloraClient.Proofs.KeepaliveLoop
import DongloraClient.Proofs.KeepaliveMargin
import DongloraClient.Link
import DongloraClient.Proofs.LinkAgreement
import DongloraClient.Line
import DongloraClient.Proofs.WireOrder
import DongloraClient.Proofs.ReplyPipeline
import DongloraClient.Mailbox
import DongloraClient.Proofs.MailboxRefinement
import DongloraClient.Foundation.Locking
import DongloraClient.TopLevel
import DongloraClient.Proofs.DefaultDongle
import DongloraClient.Foundation.Budget
import DongloraClient.Proofs.SharedProgress
import DongloraClient.Proofs.SharedStop
import DongloraClient.Proofs.CommandStream
import DongloraClient.Discovery
import DongloraClient.Proofs.FindPort
import DongloraClient.Proofs.RecoveryRequests
import DongloraClient.Foundation.Journal
import DongloraClient.Proofs.Transmissions
import DongloraClient.Proofs.ReconnectPacing
import DongloraClient.Draining
import DongloraClient.Proofs.ErrorReports
import DongloraClient.Foundation.Fairness
import DongloraClient.Proofs.SessionLiveness
