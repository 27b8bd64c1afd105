import FastJob.Transition
import FastJob.Storage
import FastJob.Election
import FastJob.SchedPool
import FastJob.Dispatch
import FastJob.Report
import FastJob.Scheduler
import FastJob.WorkerCluster
import FastJob.SchedPoolLaws
import FastJob.FuturePool
import FastJob.FileLog
import FastJob.Overflow
import FastJob.Time
import FastJob.JsonString
import FastJob.Formatter
import FastJob.LogDrain
import FastJob.LogRotation
import FastJob.StatusChecker
import FastJob.MaxHeap
import FastJob.SchedHeap
import FastJob.TextFormat
import FastJob.YatpPool
import FastJob.WorkerRegistry
