import HtexInterchange.Python
import HtexInterchange.Text
import HtexInterchange.SortedList
import HtexInterchange.State
import HtexInterchange.Intake
import HtexInterchange.Command
import HtexInterchange.ManagerMessage
import HtexInterchange.Expire
import HtexInterchange.Dispatch
import HtexInterchange.Loop
import HtexInterchange.Records
import HtexInterchange.Interesting
import HtexInterchange.Hold
import HtexInterchange.Conservation
import HtexInterchange.Batches
import HtexInterchange.Shutdown
import HtexInterchange.Assigned
import HtexInterchange.Lifecycle
import HtexInterchange.Progress
import HtexInterchange.Blocks
import HtexInterchange.Unregistered
import HtexInterchange.Requests
import HtexInterchange.PriorityOrder
import HtexInterchange.Heartbeat
import HtexInterchange.Probe
