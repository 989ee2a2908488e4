import TaskPool.Storage.Page.SlottedPage
import TaskPool.Storage.Page.Layout
import TaskPool.Storage.Page.Compaction
import TaskPool.Library.MaxTree
import TaskPool.Storage.Fsm.Search
import TaskPool.Storage.Heap.HeapFile
import TaskPool.Storage.Heap.Insert
import TaskPool.Storage.Heap.Scan
import TaskPool.Library.TransitionSystem
import TaskPool.Storage.BufferPool.ClockReplacer
import TaskPool.Library.BlockFile
import TaskPool.Storage.BufferPool.Disk
import TaskPool.Storage.BufferPool.Manager
import TaskPool.Storage.BufferPool.Ownership
import TaskPool.Storage.BufferPool.Effect
import TaskPool.Storage.BufferPool.Consistency
import TaskPool.Storage.BufferPool.Interleaving
import TaskPool.Storage.BufferPool.Pinning
import TaskPool.Storage.BufferPool.Allocation
import TaskPool.Storage.BufferPool.Sequential
import TaskPool.Storage.BufferPool.Truth
import TaskPool.Library.WriteBackCache
import TaskPool.Storage.BufferPool.Representation
import TaskPool.Storage.BufferPool.Fidelity
import TaskPool.Storage.BufferPool.Transparency
import TaskPool.Storage.Fsm.Reports
import TaskPool.Storage.BufferPool.Metrics
import TaskPool.Storage.BufferPool.Loads
import TaskPool.Storage.BufferPool.LoadLeaks
import TaskPool.Storage.BufferPool.PinUse
import TaskPool.Storage.BufferPool.Partition
import TaskPool.Storage.BufferPool.Wakeup
import TaskPool.Storage.BufferPool.Reservation
import TaskPool.Storage.BufferPool.PinCount
import TaskPool.Storage.BufferPool.ClientWrites
import TaskPool.Foundations.RowVsCol
import TaskPool.Foundations.RunWithLimit
import TaskPool.Library.CircularOrder
import TaskPool.Storage.BufferPool.SecondChance
import TaskPool.Storage.Fsm.Leftmost
import TaskPool.Storage.Page.FuzzTarget
import TaskPool.Storage.BufferPool.FailedCalls
import TaskPool.Storage.BufferPool.Checkpoint
import TaskPool.Storage.BufferPool.Restart
import TaskPool.Storage.Heap.Synchronized
import TaskPool.Foundations.Endianness
import TaskPool.Library.Iterator
import TaskPool.Storage.BufferPool.PageStore
import TaskPool.Storage.Fsm.Descent
import TaskPool.Storage.Heap.PageIds
import TaskPool.Storage.Heap.Reclaim
import TaskPool.Storage.Heap.Visibility
import TaskPool.Storage.Page.Repacking
import TaskPool.Storage.Page.Unallocated
import TaskPool.Storage.BufferPool.Evictions
import TaskPool.Library.Packing
import TaskPool.Library.Potential
import TaskPool.Storage.BufferPool.Fairness
import TaskPool.Storage.BufferPool.FrameLedger
import TaskPool.Storage.BufferPool.Progress
import TaskPool.Storage.BufferPool.SharedView
import TaskPool.Storage.Fsm.ReportTable
import TaskPool.Storage.Heap.FirstFit
import TaskPool.Foundations.PanickingTasks
import TaskPool.Library.Stride
import TaskPool.NvmeHarness.Offsets
import TaskPool.NvmeHarness.RunBenchmark
import TaskPool.Storage.BufferPool.Durability
import TaskPool.Storage.Page.FuzzDecoder
import TaskPool.Foundations.ColumnSum
import TaskPool.Storage.BufferPool.DiskAccesses
import TaskPool.Storage.BufferPool.Termination
