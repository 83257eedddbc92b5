import Sentinel.Lib.Stream
import Sentinel.Lib.Recorded
import Sentinel.Lib.FixedWindow
import Sentinel.Shared.Http
import Sentinel.Worker.Api
import Sentinel.Worker.KnownSelectors
import Sentinel.Worker.FailedWrites
import Sentinel.Worker.InMemoryRepository
import Sentinel.Worker.Isolation
import Sentinel.Worker.ActiveRows
import Sentinel.Worker.DuplicateRows
import Sentinel.Worker.CacheCoherence
import Sentinel.Worker.CacheText
import Sentinel.Recovery.Gate
import Sentinel.Recovery.Guards
import Sentinel.Recovery.ModelOutput
import Sentinel.Recovery.ModelReply
import Sentinel.Recovery.QueueConsumer
import Sentinel.Gateway.ProcessScrapeRequest
import Sentinel.Gateway.Windows
import Sentinel.Gateway.Lockout
import Sentinel.System.Port
import Sentinel.System.Wiring
import Sentinel.System.Outcome
import Sentinel.System.Verdict
import Sentinel.System.BadProposals
import Sentinel.System.Healing
import Sentinel.System.Site
import Sentinel.System.LiveTest
import Sentinel.System.PartialSave
import Sentinel.System.Orphans
import Sentinel.System.Success
import Sentinel.System.Finality
import Sentinel.System.WholeRows
import Sentinel.System.Poison
import Sentinel.System.SharedRule
import Sentinel.System.JobRepositories
import Sentinel.System.SingleReader
import Sentinel.System.Answers
import Sentinel.System.Drain
import Sentinel.System.SelfHealing
import Sentinel.System.WireText
