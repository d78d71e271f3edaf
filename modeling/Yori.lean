import Yori.Scheduler.Write
import Yori.Runtime.ExitSignals
import Yori.Runtime.Quiescence
import Yori.Runtime.Launches
import Yori.Runtime.Escalation
import Yori.Recovery.Resume
import Yori.Runtime.LeaseWatch
import Yori.Store.SqliteReadBack
import Yori.Follow.Losses
import Yori.Follow.FinishedReplay
import Yori.Runtime.RefusedSubmission
import Yori.Cli.Verbatim
import Yori.Queue.Canonical
import Yori.Runtime.ServiceSources
import Yori.Runtime.Requests
import Yori.Runtime.Registrations
import Yori.Ipc.GpuSpec
import Yori.NvmlProvider
import Yori.Follow.Registry
import Yori.Runtime.GpuTicks
import Yori.Follow.FlushPass
import Yori.Ipc.Legal
import Yori.Launch.Merge
import Yori.Launch.Resolve
import Yori.Store.StringList
import Yori.Launch.SizeTotals
import Yori.LogdirCheck
