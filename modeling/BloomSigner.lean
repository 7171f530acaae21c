import BloomSigner.Lib.Table
import BloomSigner.Lib.Run
import BloomSigner.Lib.Except
import BloomSigner.Lib.Text
import BloomSigner.Lib.Lists
import BloomSigner.Api.Error
import BloomSigner.Registry.Paths
import BloomSigner.Registry.EventLog
import BloomSigner.Registry.Descriptors
import BloomSigner.Registry.SharedNumber
import BloomSigner.Audit.Tamper
import BloomSigner.Audit.CachedHead
import BloomSigner.Custody.AllOrNothing
import BloomSigner.Custody.Wraps
import BloomSigner.Backend.Interleaving
import BloomSigner.Backend.PathGrammar
import BloomSigner.Engine.Budget
import BloomSigner.Engine.Permanence
import BloomSigner.Engine.Windows
import BloomSigner.Engine.Lifecycle
import BloomSigner.Engine.Retry
import BloomSigner.Engine.ExportBinding
import BloomSigner.Engine.PolicySwaps
import BloomSigner.Engine.Isolation
import BloomSigner.Engine.NoWidening
import BloomSigner.Engine.ApprovalStatus
import BloomSigner.Engine.Retirement
import BloomSigner.Engine.FailedAllocation
import BloomSigner.Engine.RestoreAll
import BloomSigner.Ceremony.Replay
import BloomSigner.Ceremony.RevocationRetry
import BloomSigner.Ceremony.EmergencyRevocation
import BloomSigner.Ceremony.LiveSessions
import BloomSigner.Signing.Budget
import BloomSigner.Ceremony.Exposure
import BloomSigner.Rpc.JournalExchange
import BloomSigner.Registry.EventTamper
import BloomSigner.Custody.Aad
import BloomSigner.Startup.PlannedRotation
import BloomSigner.Backend.AwsEnrollment
import BloomSigner.Ceremony.Cose
import BloomSigner.Legacy.Durability
import BloomSigner.Admin.Rebinding
import BloomSigner.Ceremony.Additions
import BloomSigner.Admin.Endpoint
import BloomSigner.Rpc.Clock
import BloomSigner.Rpc.Generations
