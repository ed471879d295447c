import MoeUV.Foundation.Execution
import MoeUV.Foundation.Loop
import MoeUV.Foundation.Memory
import MoeUV.EndPoint.Text
import MoeUV.Foundation.Positional
import MoeUV.EndPoint.Numeral
import MoeUV.EndPoint.ParseIpv4
import MoeUV.EndPoint.Ipv4Grammar
import MoeUV.EndPoint.ParseIpv6
import MoeUV.EndPoint.Ipv6Bounds
import MoeUV.EndPoint.Ipv6Grammar
import MoeUV.EndPoint.Ipv6Quad
import MoeUV.EndPoint.Ipv6Accepted
import MoeUV.EndPoint.EmbeddedNul
import MoeUV.EndPoint.Ipv6Checked
import MoeUV.EndPoint.Operations
import MoeUV.EndPoint.Record
import MoeUV.EndPoint.Validation
import MoeUV.EndPoint.Disjoint
import MoeUV.EndPoint.Equality
import MoeUV.EndPoint.Meaning
import MoeUV.Foundation.Trace
import MoeUV.Dns.Resolve
import MoeUV.Dns.Completion
import MoeUV.EndPoint.Format
import MoeUV.EndPoint.RoundTrip
import MoeUV.Foundation.Runs
import MoeUV.EndPoint.Canonical
import MoeUV.EndPoint.Reparse
import MoeUV.EndPoint.ToString
import MoeUV.Handle.AsyncHandle
import MoeUV.Handle.Ownership
import MoeUV.Handle.Lifecycle
import MoeUV.Handle.Steps
import MoeUV.Handle.Safety
import MoeUV.Loop.Creation
import MoeUV.Loop.RunLoop
import MoeUV.Loop.Teardown
import MoeUV.Loop.Grace
import MoeUV.Loop.Clock
import MoeUV.Work.Handoff
import MoeUV.Foundation.Fifo
import MoeUV.Stream.Write
import MoeUV.Stream.Integrity
import MoeUV.Handle.Unclosed
import MoeUV.Request.NoCopy
import MoeUV.Request.Reporting
import MoeUV.Request.Lengths
import MoeUV.Process.SubProcess
import MoeUV.Process.Supervision
import MoeUV.Completion.Sockets
import MoeUV.Completion.Segments
import MoeUV.Completion.Service
import MoeUV.Completion.Throwing
import MoeUV.Completion.Closing
import MoeUV.Completion.Blocks
import MoeUV.Udp.Receive
import MoeUV.Environment.Strings
import MoeUV.Foundation.Refinement
import MoeUV.Transparency.Classes
import MoeUV.Transparency.History
import MoeUV.Transparency.Moves
import MoeUV.Foundation.BinaryHeap
import MoeUV.Foundation.Counting
import MoeUV.Loop.HandleFlags
import MoeUV.Timers.Firing
import MoeUV.Foundation.Rings
import MoeUV.Loop.Queue
import MoeUV.Loop.Watchers
import MoeUV.Loop.WatcherLists
import MoeUV.Loop.WatcherRuns
import MoeUV.Timers.NodeHeap
import MoeUV.Timers.NodeHeapLayout
import MoeUV.Timers.NodeHeapOperations
import MoeUV.Timers.NodeHeapRuns
import MoeUV.Timers.Timer
import MoeUV.Timers.Schedule
import MoeUV.Timers.Punctual
import MoeUV.Timers.ActiveTimers
import MoeUV.Foundation.Chunks
import MoeUV.Foundation.Ranked
import MoeUV.Loop.Async
import MoeUV.Loop.AsyncRuns
import MoeUV.Signal.Delivery
import MoeUV.Signal.DeliveryRuns
import MoeUV.Stream.RequestBook
import MoeUV.Stream.RequestRuns
import MoeUV.Stream.Attempts
import MoeUV.Work.WorkerEffort
