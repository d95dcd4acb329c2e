import Valp.KernelClients
import Valp.KernelReconcile
import Valp.KernelRetry
import Valp.ReceiptChain
import Valp.QueueRuns
import Valp.ContinuationRetry
import Valp.ControlClaims
import Valp.WaitEvidence
import Valp.LanggraphCancel
import Valp.HerdrPhases
import Valp.SessionAudit
import Valp.KernelControl
import Valp.TaskGates
import Valp.Catalog
