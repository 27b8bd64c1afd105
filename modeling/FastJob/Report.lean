import FastJob.Dispatch

/-!
# Status reports: `WorkerManager::update_status`

A worker reports an instance's status. `update_status` reads the job and the
instance, drops an expired report (its time not above the instance's
`instance_id`) and one from another worker than `task_tracker_address`, and
writes the reported status. A frequent job takes the report as it is; for the
others a `Failed` report is retried (back to `WaitingDispatch`, due ten seconds
later) while `running_times <= instance_retry_num`, and a `Success` or a last
`Failed` records the result and the finish time.

`instance_info.running_times.unwrap() += 1` adds one to the value `unwrap`
returns, not to the column, so the stored count of runs never moves. A report
that finishes its instance builds an `InstanceCompletedEvent`, but the future of
`Sender::send` is dropped without `.await`, so the event never reaches the
channel.

The operations on an instance's storage (a dispatch, a redispatch of the status
checker, a report) run one after another, each to its end, in `runOps`.
-/
namespace Report

open Storage Dispatch
open Election (WorkerManagerError)

/-- `ReportInstanceStatusRequest`, with the fields `update_status` reads. -/
structure ReportInstanceStatusRequest where
  instanceId : Nat
  reportTime : Nat
  sourceAddress : String
  instanceStatus : Nat
  result : String
  deriving DecidableEq, Repr

/-- What `update_status` does with the instance it read. -/
inductive Decision where
  /-- An expired report, or one from another worker: nothing is written. -/
  | drop
  | write (record : InstanceInfo)
  /-- The `?` on a `try_from`. -/
  | fail (e : WorkerManagerError)
  | panic
  deriving DecidableEq, Repr

/-- The branch of `update_status` for a job that is not frequent, from the test
on the stored status on; `info` already has the report's time. -/
def finishReport (jobInfo : JobInfo) (info : InstanceInfo) (status : InstanceStatus)
    (req : ReportInstanceStatusRequest) (now : Int) : Decision :=
  match info.status with
  | none => .panic
  | some stored =>
    -- `running_times.unwrap() += 1` changes a copy: the column keeps its value
    if stored = InstanceStatus.waitingWorkerReceive.code ∧ info.runningTimes.isNone then .panic
    else
      let info := { info with status := some req.instanceStatus }
      match status with
      | .success => .write { info with result := some req.result, finishedTime := some now }
      | .failed =>
        match info.runningTimes, jobInfo.instanceRetryNum with
        | some runningTimes, some retryNum =>
          if runningTimes ≤ retryNum then
            .write { info with expectedTriggerTime := some (now + 10000),
                               status := some InstanceStatus.waitingDispatch.code }
          else .write { info with result := some req.result, finishedTime := some now }
        | _, _ => .panic
      | _ => .write info

/-- The checks of `update_status` on the report and the instance it read. The
frequent branch's assignment of the result text to `running_times` has no
number to write, so the column keeps its value. -/
def applyReport (jobInfo : JobInfo) (info : InstanceInfo) (req : ReportInstanceStatusRequest)
    (now : Int) : Decision :=
  match info.instanceId with
  | none => .panic
  | some instanceId =>
    -- an expired report: its time is compared with `instance_id`
    if req.reportTime ≤ instanceId then .drop
    else match info.taskTrackerAddress with
      | none => .panic
      | some address =>
        if req.sourceAddress ≠ address then .drop
        else match InstanceStatus.tryFrom req.instanceStatus with
          | none => .fail (.tryFromPrimitive req.instanceStatus)
          | some status =>
            let info := { info with lastReportTime := some req.reportTime }
            match jobInfo.timeExpressionType with
            | none => .panic
            | some number =>
              match JobTimeExpressionType.tryFrom number with
              | none => .fail (.tryFromPrimitive number)
              | some type =>
                if type.isFrequent then
                  .write { info with status := some req.instanceStatus, result := some req.result }
                else finishReport jobInfo info status req now

theorem finishReport_retry {jobInfo : JobInfo} {info : InstanceInfo} {req : ReportInstanceStatusRequest}
    {now : Int} {stored runningTimes retryNum : Nat} (hstored : info.status = some stored)
    (hrt : info.runningTimes = some runningTimes) (hr : jobInfo.instanceRetryNum = some retryNum)
    (hle : runningTimes ≤ retryNum) :
    finishReport jobInfo info .failed req now =
      .write { info with status := some InstanceStatus.waitingDispatch.code,
                         expectedTriggerTime := some (now + 10000) } := by
  simp [finishReport, hstored, hrt, hr, hle]

theorem applyReport_pass {jobInfo : JobInfo} {info : InstanceInfo}
    {req : ReportInstanceStatusRequest} {now : Int} {instanceId number : Nat}
    {status : InstanceStatus} {type : JobTimeExpressionType}
    (hid : info.instanceId = some instanceId) (hlate : instanceId < req.reportTime)
    (haddr : info.taskTrackerAddress = some req.sourceAddress)
    (hstatus : InstanceStatus.tryFrom req.instanceStatus = some status)
    (htype : jobInfo.timeExpressionType = some number)
    (hdecode : JobTimeExpressionType.tryFrom number = some type) (hfreq : type.isFrequent = false) :
    applyReport jobInfo info req now =
      finishReport jobInfo { info with lastReportTime := some req.reportTime } status req now := by
  simp [applyReport, hid, Nat.not_le.mpr hlate, haddr, hstatus, htype, hdecode, hfreq]

theorem finishReport_lastReportTime {jobInfo : JobInfo} {info : InstanceInfo}
    {status : InstanceStatus} {req : ReportInstanceStatusRequest} {now : Int}
    {record : InstanceInfo} (h : finishReport jobInfo info status req now = .write record) :
    record.lastReportTime = info.lastReportTime := by
  unfold finishReport at h
  split at h
  · cases h
  split at h
  · cases h
  -- every written record is `info` with other columns set
  dsimp only at h
  split at h
  · cases h
    rfl
  · split at h
    · split at h <;> (cases h; rfl)
    · cases h
  · cases h
    rfl

/-- Inversion of `applyReport` at a write: past both guards, `info` takes the
report's time, and is written with the report's status on a frequent job or
handed to `finishReport` otherwise. -/
theorem applyReport_write {jobInfo : JobInfo} {info : InstanceInfo}
    {req : ReportInstanceStatusRequest} {now : Int} {record : InstanceInfo}
    (h : applyReport jobInfo info req now = .write record) :
    ∃ status, record = { info with lastReportTime := some (req.reportTime : Int),
                                   status := some req.instanceStatus, result := some req.result } ∨
      finishReport jobInfo { info with lastReportTime := some (req.reportTime : Int) } status req now =
        .write record := by
  unfold applyReport at h
  split at h
  · cases h
  split at h
  · cases h
  split at h
  · cases h
  split at h
  · cases h
  split at h
  · cases h
  · next status _ =>
    split at h
    · cases h
    split at h
    · cases h
    split at h
    · cases h
      exact ⟨status, .inl rfl⟩
    · exact ⟨status, .inr h⟩

/-- `update_status`: `none` is a panic. The result of `update` is dropped. -/
def updateStatus (req : ReportInstanceStatusRequest) (now : Int) (db : Db) :
    Option (Except WorkerManagerError Unit) × Db :=
  let r := db.findJobInfoByInstanceId req.instanceId
  match r.1 with
  | .error e => (some (.error (.workerStorageError e)), r.2)
  | .ok none => (some (.ok ()), r.2)
  | .ok (some jobInfo) =>
    let r' := r.2.findInstanceById req.instanceId
    match r'.1 with
    | .error e => (some (.error (.workerStorageError e)), r'.2)
    | .ok none => (some (.ok ()), r'.2)
    | .ok (some info) =>
      match applyReport jobInfo info req now with
      | .drop => (some (.ok ()), r'.2)
      | .fail e => (some (.error e), r'.2)
      | .panic => (none, r'.2)
      | .write record => (some (.ok ()), (r'.2.updateInstance record).2)

/-- `CompletedInstance`, the payload of `Event::InstanceCompletedEvent`, without its
`wf_instance_id`. -/
structure CompletedInstance where
  instanceId : Nat
  status : Nat
  result : String
  deriving DecidableEq, Repr

/-- The `finished` of `update_status`: a report on a job that is not frequent finishes
its instance when it is a `Success`, or a `Failed` with the retries spent. -/
def reportFinished (jobInfo : JobInfo) (info : InstanceInfo) (req : ReportInstanceStatusRequest) :
    Bool :=
  (jobInfo.timeExpressionType.bind JobTimeExpressionType.tryFrom).any (!·.isFrequent) &&
    match InstanceStatus.tryFrom req.instanceStatus with
    | some .success => true
    | some .failed =>
      match info.runningTimes, jobInfo.instanceRetryNum with
      | some runningTimes, some retryNum => !(runningTimes ≤ retryNum)
      | _, _ => false
    | _ => false

/-- The events `update_status` hands to `Sender::send`: after the write, the
`InstanceCompletedEvent` of a report that finished its instance. -/
def updateStatusSends (req : ReportInstanceStatusRequest) (now : Int) (db : Db) :
    List CompletedInstance :=
  let r := db.findJobInfoByInstanceId req.instanceId
  match r.1 with
  | .ok (some jobInfo) =>
    match (r.2.findInstanceById req.instanceId).1 with
    | .ok (some info) =>
      match applyReport jobInfo info req now with
      | .write _ =>
        if reportFinished jobInfo info req then
          [⟨req.instanceId, req.instanceStatus, req.result⟩]
        else []
      | _ => []
    | _ => []
  | _ => []

/-- What a tokio channel receives of the values handed to `Sender::send`, each with
whether its future is awaited: a future sends only when it is awaited. -/
def delivered {α : Type} (sends : List (α × Bool)) : List α :=
  sends.filterMap fun (value, awaited) => if awaited then some value else none

theorem delivered_unawaited {α : Type} (values : List α) :
    delivered (values.map fun value => (value, false)) = [] := by
  simp [delivered, List.filterMap_map]

/-- The operations on an instance's storage. -/
inductive Op where
  | dispatch (job : JobInfo) (instanceId : Nat)
  /-- The status checker's `redispatch`. -/
  | redispatch (inst : InstanceInfo)
  | report (req : ReportInstanceStatusRequest)

/-- An operation run to its end at clock `now`: the database after it and the
schedule requests it sent. A dispatch takes at most three steps, a redispatch
one more. -/
def Op.run : Op → Int → Db → Db × Nat
  | .dispatch job instanceId, now, db =>
    let r := Call.finish 3 ⟨job, instanceId, .start⟩ now db
    (r.2.1, r.2.2)
  | .redispatch inst, now, db =>
    let r := Call.finish 4 ⟨{}, 0, .redispatch inst⟩ now db
    (r.2.1, r.2.2)
  | .report req, now, db => ((updateStatus req now db).2, 0)

/-- Operations one after another: the database at the end and the requests sent. -/
def runOps : List (Op × Int) → Db → Db × Nat
  | [], db => (db, 0)
  | (op, now) :: ops, db =>
    let r := op.run now db
    let rest := runOps ops r.1
    (rest.1, r.2 + rest.2)

/-- The events an operation puts on the event channel: `update_status` does not await
its `send`, and a dispatch or a redispatch sends none. -/
def Op.events : Op → Int → Db → List CompletedInstance
  | .report req, now, db => delivered ((updateStatusSends req now db).map fun e => (e, false))
  | _, _, _ => []

def runEvents : List (Op × Int) → Db → List CompletedInstance
  | [], _ => []
  | (op, now) :: ops, db => op.events now db ++ runEvents ops (op.run now db).1

theorem runEvents_eq_nil (ops : List (Op × Int)) (db : Db) : runEvents ops db = [] := by
  induction ops generalizing db with
  | nil => rfl
  | cons o ops ih =>
    obtain ⟨op, now⟩ := o
    have hop : op.events now db = [] := by
      cases op with
      | report req => exact delivered_unawaited _
      | dispatch => rfl
      | redispatch => rfl
    rw [runEvents, hop, ih, List.append_nil]

theorem runOps_cons (op : Op) (now : Int) (ops : List (Op × Int)) (db : Db) :
    runOps ((op, now) :: ops) db =
      ((runOps ops (op.run now db).1).1, (op.run now db).2 + (runOps ops (op.run now db).1).2) :=
  rfl

theorem runOps_append (xs ys : List (Op × Int)) (db : Db) :
    runOps (xs ++ ys) db =
      ((runOps ys (runOps xs db).1).1, (runOps xs db).2 + (runOps ys (runOps xs db).1).2) := by
  induction xs generalizing db with
  | nil => simp [runOps]
  | cons o xs ih =>
    obtain ⟨op, now⟩ := o
    simp only [List.cons_append, runOps_cons, ih]
    refine Prod.ext rfl ?_
    simp only
    omega

/-! ### Finished instances -/

/-- A stored status in `InstanceInfo::finish_status`. -/
def finishedStatus (status : Option Nat) : Bool := status.any (· ∈ finishStatus)

/-- Every row of instance `iid` has a finish status. -/
def Finished (iid : Nat) (rows : List InstanceInfo) : Prop :=
  ∀ r ∈ rows, r.instanceId = some iid → finishedStatus r.status = true

instance (iid : Nat) (rows : List InstanceInfo) : Decidable (Finished iid rows) :=
  inferInstanceAs (Decidable (∀ r ∈ rows, r.instanceId = some iid → finishedStatus r.status = true))

/-- A finished row stops a `dispatch` at its read. -/
theorem Finished.settled {iid : Nat} {rows : List InstanceInfo} (h : Finished iid rows) :
    Settled iid rows := by
  intro r hr hid
  have hfin := h r hr hid
  cases hs : r.status with
  | none => rfl
  | some status =>
    rw [hs] at hfin
    -- every finish status decodes to a status other than `WaitingDispatch`
    simp only [finishedStatus, finishStatus, InstanceStatus.code, Option.any_some,
      List.mem_cons, List.mem_nil_iff, or_false, decide_eq_true_eq] at hfin
    rcases hfin with rfl | rfl | rfl | rfl <;> rfl

theorem Finished.save {iid : Nat} {db : Db} {record : InstanceInfo}
    (h : Finished iid db.instanceInfo) (hs : record.status = some InstanceStatus.failed.code) :
    Finished iid (db.saveInstance record).2.instanceInfo := by
  rw [Db.saveInstance_instanceInfo]
  split
  · exact h
  cases hins : insertRow InstanceInfo.id (fun i k => { i with id := some k }) (fun _ => none)
    db.instanceInfo record with
  | error e => exact h
  | ok rows' =>
    intro r hr hid
    rcases mem_of_insertRow hins hr with hr | rfl | ⟨k, rfl⟩
    · exact h r hr hid
    · rw [hs]
      rfl
    · show finishedStatus record.status = true
      rw [hs]
      rfl

theorem pending_step_finished {iid : Nat} {c : Call} {db : Db} (h : Finished iid db.instanceInfo)
    (hc : Pending iid c) (now : Int) : Finished iid (c.step now db).2.1.instanceInfo := by
  rcases hc with ⟨hpc, -⟩ | ⟨inst, hpc, -⟩
  · simp only [Call.step, hpc]
    rw [readStep_rows]
    exact h
  · simp only [Call.step, hpc]
    rcases redispatchStep_rows c inst now db with hrows | ⟨record, hrec, hrows⟩
    · rw [hrows]
      exact h
    · rw [hrows]
      exact Finished.save h (giveUp_status hrec)

/-- A call of a finished instance, run alone, leaves it finished: it reads a
finished row and returns, after at most a redispatch that saves a `Failed` record. -/
theorem finish_keeps_finished {iid k : Nat} {c : Call} {now : Int} {db : Db}
    (h : Finished iid db.instanceInfo) (hc : Pending iid c ∨ c.pc.finished = true) :
    Finished iid (Call.finish k c now db).2.1.instanceInfo := by
  induction k generalizing c db with
  | zero => exact h
  | succ k ih =>
    rcases hc with hpend | hfin
    · rw [finish_succ_of_step (show c.step now db =
        ((c.step now db).1, (c.step now db).2.1, (c.step now db).2.2) from rfl)]
      exact ih (pending_step_finished h hpend now) (step_pending h.settled hpend now)
    · rw [finish_of_finished hfin]
      exact h

/-- An operation of the engine on instance `iid`: a dispatch or a redispatch of it. -/
def Op.EngineFor (iid : Nat) : Op → Prop
  | .dispatch _ instanceId => instanceId = iid
  | .redispatch inst => inst.instanceId = some iid
  | .report _ => False

/-- Dispatches and the status checker's redispatches of an instance, run one
after another, never take a row of it out of a finish status. -/
theorem engine_keeps_finished {iid : Nat} (ops : List (Op × Int))
    (hops : ∀ o ∈ ops, o.1.EngineFor iid) {db : Db} (h : Finished iid db.instanceInfo) :
    Finished iid (runOps ops db).1.instanceInfo := by
  induction ops generalizing db with
  | nil => exact h
  | cons o ops ih =>
    obtain ⟨op, now⟩ := o
    have hop := hops (op, now) (List.mem_cons_self ..)
    have hone : Finished iid (op.run now db).1.instanceInfo := by
      cases op with
      | dispatch job instanceId => exact finish_keeps_finished h (.inl (.inl ⟨rfl, hop⟩))
      | redispatch inst => exact finish_keeps_finished h (.inl (.inr ⟨inst, rfl, hop⟩))
      | report req => exact hop.elim
    rw [runOps_cons]
    exact ih (fun o ho => hops o (List.mem_cons_of_mem _ ho)) hone

/-- Finished instances stay finished under the engine, and no completion is announced.
Dispatches and status-checker redispatches of an instance, run one after another in
any order and number and with any storage failures, keep every row of it in a finish
status once all of them are. Over any operations, reports included, the event channel
receives no `InstanceCompletedEvent`, so at most one for the instance: `update_status`
builds one for each report that finishes an instance and never awaits its `send`. -/
theorem engine_keeps_finished_no_event {iid : Nat} (ops : List (Op × Int)) (db : Db) :
    ((∀ o ∈ ops, o.1.EngineFor iid) → Finished iid db.instanceInfo →
      Finished iid (runOps ops db).1.instanceInfo) ∧
    ((runEvents ops db).filter (·.instanceId == iid)).length ≤ 1 ∧ runEvents ops db = [] := by
  have hnone := runEvents_eq_nil ops db
  refine ⟨fun hops h => engine_keeps_finished ops hops h, ?_, hnone⟩
  rw [hnone]
  simp

def cronJob : JobInfo :=
  { id := some 1, status := some JobStatus.running.code,
    timeExpressionType := some JobTimeExpressionType.cron.code, instanceRetryNum := some 0 }

/-- An instance of `cronJob` that succeeded on the worker at `"w"`. -/
def succeededRow : InstanceInfo :=
  { id := some 1, jobId := some 1, instanceId := some 7,
    status := some InstanceStatus.success.code, taskTrackerAddress := some "w",
    runningTimes := some 1 }

def succeededDb : Db := { jobInfo := [cronJob], instanceInfo := [succeededRow] }

/-- A late `Running` report of the same worker. -/
def lateReport : ReportInstanceStatusRequest := ⟨7, 8, "w", InstanceStatus.running.code, ""⟩

/-- `update_status` has no test for a finished instance: a report that passes
its two guards turns a `Success` back into `Running`. -/
theorem report_reopens_finished :
    Finished 7 succeededDb.instanceInfo ∧
    (updateStatus lateReport 0 succeededDb).2.instanceInfo.map (·.status) =
      [some InstanceStatus.running.code] := by
  decide

/-- The delay timer's dispatch and the checker's redispatch of the succeeded instance. -/
def engineOps : List (Op × Int) :=
  [(.dispatch cronJob 7, 0), (.redispatch succeededRow, 0)]

theorem engine_keeps_finished_no_event_on_succeededDb :
    (∀ o ∈ engineOps, o.1.EngineFor 7) ∧ Finished 7 succeededDb.instanceInfo ∧
      Finished 7 (runOps engineOps succeededDb).1.instanceInfo ∧
      runEvents (engineOps ++ [(.report lateReport, 0)]) succeededDb = [] :=
  have hops : ∀ o ∈ engineOps, o.1.EngineFor 7 := by
    intro o ho
    simp only [engineOps, List.mem_cons, List.not_mem_nil, or_false] at ho
    rcases ho with rfl | rfl <;> rfl
  have h : Finished 7 succeededDb.instanceInfo := by decide
  ⟨hops, h, (engine_keeps_finished_no_event engineOps succeededDb).1 hops h,
    (@engine_keeps_finished_no_event 7 (engineOps ++ [(.report lateReport, 0)]) succeededDb).2.2⟩

/- A `Success` report of the succeeded instance builds its completion event, which
never reaches the channel. -/
example : updateStatusSends ⟨7, 8, "w", InstanceStatus.success.code, "done"⟩ 0 succeededDb =
    [⟨7, InstanceStatus.success.code, "done"⟩] := by
  decide

/-! ### Retries -/

/-- A job that is not frequent and has no cap, whose instances are retried
while `running_times <= r`. -/
structure RetryJob (job : JobInfo) (r : Nat) : Prop where
  id : job.id.isSome = true
  cron : job.timeExpressionType = some JobTimeExpressionType.cron.code
  uncapped : job.maxInstanceNum = none
  retryNum : job.instanceRetryNum = some r

/-- A row of instance `iid` of `job` in `status`, tracked by the worker at `""`
(the address `update_instance_trigger_success` writes), with run count `rt`. -/
structure RetryRow (job : JobInfo) (iid rt status : Nat) (row : InstanceInfo) : Prop where
  id : row.id.isSome = true
  instanceId : row.instanceId = some iid
  jobId : row.jobId = job.id
  status : row.status = some status
  address : row.taskTrackerAddress = some ""
  runningTimes : row.runningTimes = some rt

/-- The storage of the retry loop: `job`, one row of its instance, no fault. -/
def RetryLoop (job : JobInfo) (iid rt status : Nat) (db : Db) : Prop :=
  db.faults = [] ∧ db.jobInfo = [job] ∧
    ∃ row, db.instanceInfo = [row] ∧ RetryRow job iid rt status row

/-- The worker at `""` reports the instance `Failed`, later than its `instance_id`. -/
def failedReport (iid : Nat) : ReportInstanceStatusRequest :=
  ⟨iid, iid + 1, "", InstanceStatus.failed.code, ""⟩

@[simp] theorem failedReport_instanceId (iid : Nat) : (failedReport iid).instanceId = iid := rfl

/-- One round of the loop at `now`: the `Failed` report, then the dispatch of
the instance it put back. -/
def retryRound (job : JobInfo) (iid : Nat) (now : Int) : List (Op × Int) :=
  [(.report (failedReport iid), now), (.dispatch job iid, now)]

section RetryLoop

variable {job : JobInfo} {iid rt r : Nat} {db : Db} {row : InstanceInfo}

theorem findInstanceById_loop (hf : db.faults = []) (hrows : db.instanceInfo = [row])
    (hid : row.instanceId = some iid) : db.findInstanceById iid = (.ok (some row), db) := by
  rw [Db.findInstanceById, Db.query_of_noFaults hf, hrows]
  simp [fetchOne, hid]

theorem updateInstance_loop (hf : db.faults = []) (hrows : db.instanceInfo = [row])
    (hid : row.id.isSome = true) (record : InstanceInfo) (hrec : record.id = row.id) :
    (db.updateInstance record).2 = { db with instanceInfo := [InstanceInfo.merge row record] } := by
  rw [Db.updateInstance_of_noFaults hf, hrows]
  simp [updateRow, hrec, hid]

theorem report_round (hjob : RetryJob job r) (hrt : rt ≤ r)
    (h : RetryLoop job iid rt InstanceStatus.waitingWorkerReceive.code db) (now : Int) :
    ((Op.report (failedReport iid)).run now db).2 = 0 ∧
    RetryLoop job iid rt InstanceStatus.waitingDispatch.code
      ((Op.report (failedReport iid)).run now db).1 := by
  obtain ⟨hf, hj, row, hrows, hrow⟩ := h
  have hjoin : db.findJobInfoByInstanceId iid = (.ok (some job), db) := by
    rw [Db.findJobInfoByInstanceId, Db.query_of_noFaults hf, hrows, hj]
    simp [fetchOne, hrow.instanceId, hrow.jobId, hjob.id]
  -- the report is later than `instance_id`, from the tracking worker, and within the retries
  let reported := { row with lastReportTime := some (iid + 1 : Nat) }
  have happly : applyReport job row (failedReport iid) now =
      finishReport job reported .failed (failedReport iid) now :=
    applyReport_pass hrow.instanceId (Nat.lt_succ_self iid) hrow.address rfl hjob.cron rfl rfl
  have hretry : finishReport job reported .failed (failedReport iid) now =
      .write { reported with status := some InstanceStatus.waitingDispatch.code,
                             expectedTriggerTime := some (now + 10000) } :=
    finishReport_retry hrow.status hrow.runningTimes hjob.retryNum hrt
  rw [hretry] at happly
  refine ⟨rfl, ?_⟩
  simp only [Op.run, updateStatus, failedReport_instanceId, hjoin,
    findInstanceById_loop hf hrows hrow.instanceId, happly]
  rw [updateInstance_loop hf hrows hrow.id]
  · refine ⟨hf, hj, _, rfl, ?_⟩
    constructor <;> simp [InstanceInfo.merge, reported, hrow.id, hrow.instanceId, hrow.jobId,
      hrow.address, hrow.runningTimes]
  · rfl

theorem dispatch_round (hjob : RetryJob job r)
    (h : RetryLoop job iid rt InstanceStatus.waitingDispatch.code db) (now : Int) :
    ((Op.dispatch job iid).run now db).2 = 1 ∧
    RetryLoop job iid rt InstanceStatus.waitingWorkerReceive.code
      ((Op.dispatch job iid).run now db).1 := by
  obtain ⟨hf, hj, row, hrows, hrow⟩ := h
  have hread : readAnswer job (.ok (some row)) = .trigger row := by
    simp [readAnswer, hrow.status, proceeds, InstanceStatus.code, InstanceStatus.tryFrom,
      hjob.uncapped]
  have hstep₁ : (⟨job, iid, .start⟩ : Call).step now db = (⟨job, iid, .trigger row⟩, db, false) := by
    simp [Call.step, readStep, Option.isSome_iff_ne_none.mp hjob.id,
      findInstanceById_loop hf hrows hrow.instanceId, hread]
  have hstep₂ : (⟨job, iid, .trigger row⟩ : Call).step now db =
      (⟨job, iid, .done (.ok ())⟩,
        { db with instanceInfo := [InstanceInfo.merge row (triggerSuccess row "" now)] }, true) := by
    simp only [Call.step]
    rw [updateInstance_loop hf hrows hrow.id (triggerSuccess row "" now) rfl]
  simp only [Op.run, finish_succ_of_step hstep₁, finish_succ_of_step hstep₂,
    finish_of_finished (show (⟨job, iid, .done (.ok ())⟩ : Call).pc.finished = true from rfl)]
  refine ⟨rfl, hf, hj, _, rfl, ?_⟩
  constructor <;> simp [InstanceInfo.merge, triggerSuccess, hrow.id, hrow.instanceId, hrow.jobId,
    hrow.runningTimes]

end RetryLoop

/-- Retries never end. For a job that is not frequent, with
`instance_retry_num = r`, and an instance whose stored run count is `rt ≤ r`,
every round of a `Failed` report and a dispatch puts the instance back to
`WaitingDispatch` and sends it to the worker again, with the run count
unchanged: any number of rounds sends it that many times and leaves it
`WaitingWorkerReceive`, never `Failed`. -/
theorem retry_never_ends {job : JobInfo} {iid rt r : Nat} {db : Db} (hjob : RetryJob job r)
    (hrt : rt ≤ r) (h : RetryLoop job iid rt InstanceStatus.waitingWorkerReceive.code db)
    (nows : List Int) :
    (runOps (nows.flatMap (retryRound job iid)) db).2 = nows.length ∧
    RetryLoop job iid rt InstanceStatus.waitingWorkerReceive.code
      (runOps (nows.flatMap (retryRound job iid)) db).1 := by
  induction nows generalizing db with
  | nil => exact ⟨rfl, h⟩
  | cons now nows ih =>
    obtain ⟨hsent₁, h₁⟩ := report_round hjob hrt h now
    obtain ⟨hsent₂, h₂⟩ := dispatch_round hjob h₁ now
    obtain ⟨hsent, hloop⟩ := ih h₂
    rw [List.flatMap_cons, runOps_append]
    simp only [retryRound, runOps_cons, runOps, hsent₁, hsent₂, List.length_cons]
    exact ⟨by omega, hloop⟩

/-- The instance of `cronJob`, sent to the worker at `""` and not yet run. -/
def sentRow : InstanceInfo :=
  { id := some 1, jobId := some 1, instanceId := some 7,
    status := some InstanceStatus.waitingWorkerReceive.code, taskTrackerAddress := some "",
    runningTimes := some 0 }

def sentDb : Db := { jobInfo := [cronJob], instanceInfo := [sentRow] }

theorem cronJob_retryJob : RetryJob cronJob 0 := ⟨rfl, rfl, rfl, rfl⟩

theorem sentDb_retryLoop : RetryLoop cronJob 7 0 InstanceStatus.waitingWorkerReceive.code sentDb :=
  ⟨rfl, rfl, sentRow, rfl, ⟨rfl, rfl, rfl, rfl, rfl, rfl⟩⟩

/-- Two rounds with no retry allowed: two `Failed` reports retried, two sends. -/
theorem retry_never_ends_on_sentDb :
    RetryJob cronJob 0 ∧ 0 ≤ 0 ∧
    RetryLoop cronJob 7 0 InstanceStatus.waitingWorkerReceive.code sentDb ∧
    ((runOps ([0, 1].flatMap (retryRound cronJob 7)) sentDb).2 = [0, 1].length ∧
      RetryLoop cronJob 7 0 InstanceStatus.waitingWorkerReceive.code
        (runOps ([0, 1].flatMap (retryRound cronJob 7)) sentDb).1) :=
  ⟨cronJob_retryJob, Nat.le_refl 0, sentDb_retryLoop,
    retry_never_ends cronJob_retryJob (Nat.le_refl 0) sentDb_retryLoop [0, 1]⟩

/-! ### The expiry guard -/

/-- The expiry guard reads `instance_id`, never `last_report_time`. Whatever
time the stored instance holds, `update_status` decides the same on every
report, and every record it writes carries the report's own time: a report
older than the last one applied, but later than the instance id, is applied
and moves `last_report_time` back. -/
theorem report_guard_ignores_last_report :
    (∀ (jobInfo : JobInfo) (info : InstanceInfo) (req : ReportInstanceStatusRequest) (now : Int)
      (t : Option Int),
      applyReport jobInfo { info with lastReportTime := t } req now =
        applyReport jobInfo info req now) ∧
    (∀ (jobInfo : JobInfo) (info : InstanceInfo) (req : ReportInstanceStatusRequest) (now : Int)
      (record : InstanceInfo), applyReport jobInfo info req now = .write record →
      record.lastReportTime = some (req.reportTime : Int)) := by
  refine ⟨fun _ _ _ _ _ => rfl, ?_⟩
  intro jobInfo info req now record h
  obtain ⟨status, rfl | hfinish⟩ := applyReport_write h
  · rfl
  · exact finishReport_lastReportTime hfinish

/-- A running instance of the frequent job 1, last reported at 100 by worker `"w"`. -/
def reportedRow : InstanceInfo :=
  { id := some 1, jobId := some 1, instanceId := some 7,
    status := some InstanceStatus.running.code, taskTrackerAddress := some "w",
    lastReportTime := some 100, runningTimes := some 0 }

/-- The same worker's report from time 50, arriving after the one from 100. -/
def staleReport : ReportInstanceStatusRequest := ⟨7, 50, "w", InstanceStatus.running.code, ""⟩

def fixRateJob : JobInfo :=
  { cronJob with timeExpressionType := some JobTimeExpressionType.fixRate.code }

/-- The stale report is applied, and the instance's last report time goes back
from 100 to 50. -/
theorem report_guard_ignores_last_report_on_staleReport :
    reportedRow.lastReportTime = some 100 ∧
      ∃ record, applyReport fixRateJob reportedRow staleReport 0 = .write record ∧
        record.lastReportTime = some 50 := by
  refine ⟨rfl, _, rfl, ?_⟩
  exact report_guard_ignores_last_report.2 fixRateJob reportedRow staleReport 0 _ rfl

example :
    (updateStatus staleReport 0 { jobInfo := [fixRateJob], instanceInfo := [reportedRow] }).2.instanceInfo.map
      (·.lastReportTime) = [some 50] := by
  decide

end Report
