import Mathlib

/-!
# Rows and enumerations of the storage component

The tables of `other/fastjob.sql` as the `model` structs of the storage crate
read them: every column an `Option`, since any column may hold `NULL`. Integer
columns are `Nat` (`u64`, `u32`, `usize`) or `Int` (`i64`), text columns
`String`. The status enumerations keep their `#[repr]` discriminants, and
`tryFrom` is `TryFromPrimitive`: `none` for a number no variant has.

Every field has the default `none`, so a row is written with only the columns
it fills, as rbatis leaves the others `NULL`.
-/
namespace Storage

/-- `InstanceStatus` (`instance_info.status`). -/
inductive InstanceStatus where
  | waitingDispatch
  | waitingWorkerReceive
  | running
  | failed
  | success
  | canceled
  | stopped
  deriving DecidableEq, Repr

namespace InstanceStatus

/-- `IntoPrimitive`: the `u32` discriminant. -/
def code : InstanceStatus → Nat
  | waitingDispatch => 1
  | waitingWorkerReceive => 2
  | running => 3
  | failed => 4
  | success => 5
  | canceled => 9
  | stopped => 10

/-- `TryFromPrimitive`. -/
def tryFrom : Nat → Option InstanceStatus
  | 1 => some waitingDispatch
  | 2 => some waitingWorkerReceive
  | 3 => some running
  | 4 => some failed
  | 5 => some success
  | 9 => some canceled
  | 10 => some stopped
  | _ => none

@[simp] theorem tryFrom_code (s : InstanceStatus) : tryFrom s.code = some s := by
  cases s <;> rfl

theorem code_of_tryFrom {n : Nat} {s : InstanceStatus} (h : tryFrom n = some s) :
    s.code = n := by
  unfold tryFrom at h
  split at h <;> cases h <;> rfl

@[simp] theorem code_inj {s t : InstanceStatus} : s.code = t.code ↔ s = t := by
  constructor
  · intro h
    have ht := tryFrom_code t
    rw [← h, tryFrom_code] at ht
    exact Option.some.inj ht
  · rintro rfl
    rfl

end InstanceStatus

/-- `InstanceType` (`#[repr(u32)]`). -/
inductive InstanceType where
  | normal
  | workFlow
  deriving DecidableEq, Repr

def InstanceType.code : InstanceType → Nat
  | normal => 1
  | workFlow => 2

/-- `JobType`, the processor type (`#[repr(usize)]`). -/
inductive JobType where
  | java
  | shell
  deriving DecidableEq, Repr

def JobType.tryFrom : Nat → Option JobType
  | 1 => some java
  | 2 => some shell
  | _ => none

/-- `JobTimeExpressionType` (`#[repr(usize)]`). -/
inductive JobTimeExpressionType where
  | api
  | cron
  | fixRate
  | fixDelay
  | workflow
  deriving DecidableEq, Repr

namespace JobTimeExpressionType

def code : JobTimeExpressionType → Nat
  | api => 1
  | cron => 2
  | fixRate => 3
  | fixDelay => 4
  | workflow => 5

def tryFrom : Nat → Option JobTimeExpressionType
  | 1 => some api
  | 2 => some cron
  | 3 => some fixRate
  | 4 => some fixDelay
  | 5 => some workflow
  | _ => none

/-- `is_frequent`: second-level jobs, run at a fixed rate or with a fixed delay. -/
def isFrequent (t : JobTimeExpressionType) : Bool :=
  t == fixRate || t == fixDelay

end JobTimeExpressionType

/-- `JobStatus` (`#[repr(usize)]`). -/
inductive JobStatus where
  | running
  | stop
  | disabled
  | deleted
  deriving DecidableEq, Repr

def JobStatus.code : JobStatus → Nat
  | running => 1
  | stop => 2
  | disabled => 3
  | deleted => 10

/-- A row of `instance_info`. -/
structure InstanceInfo where
  id : Option Nat := none
  jobId : Option Nat := none
  appId : Option Nat := none
  instanceId : Option Nat := none
  jobParams : Option String := none
  instanceParams : Option String := none
  instanceType : Option Nat := none
  wfInstanceId : Option Nat := none
  status : Option Nat := none
  result : Option String := none
  expectedTriggerTime : Option Int := none
  actualTriggerTime : Option Int := none
  finishedTime : Option Int := none
  lastReportTime : Option Int := none
  taskTrackerAddress : Option String := none
  runningTimes : Option Nat := none
  gmtCreate : Option Int := none
  gmtModified : Option Int := none
  deriving DecidableEq, Repr

/-- A row of `job_info`, with the columns the modelled functions read. -/
structure JobInfo where
  id : Option Nat := none
  appId : Option Nat := none
  concurrency : Option Nat := none
  designatedWorkers : Option String := none
  instanceRetryNum : Option Nat := none
  jobParams : Option String := none
  maxInstanceNum : Option Nat := none
  maxWorkerCount : Option Nat := none
  minCpuCores : Option ℚ := none
  minDiskSpace : Option ℚ := none
  minMemorySpace : Option ℚ := none
  nextTriggerTime : Option Int := none
  processorType : Option Nat := none
  status : Option Nat := none
  timeExpression : Option String := none
  timeExpressionType : Option Nat := none
  deriving DecidableEq, Repr

/-- A row of `app_info`. -/
structure AppInfo where
  id : Option Nat := none
  appName : Option String := none
  password : Option String := none
  currentServer : Option String := none
  gmtCreate : Option Int := none
  gmtModified : Option Int := none
  deriving DecidableEq, Repr

/-- A row of `lock`. -/
structure Lock where
  id : Option Nat := none
  lockName : Option String := none
  maxLockTime : Option Nat := none
  ownerIp : Option String := none
  gmtCreate : Option Int := none
  gmtModified : Option Int := none
  deriving DecidableEq, Repr

/-- `Lock::new`. -/
def Lock.new (lockName : String) (maxLockTime : Nat) (ownerIp : String) : Lock :=
  { lockName := some lockName, maxLockTime := some maxLockTime, ownerIp := some ownerIp }

/-- `InstanceInfo::create`. The row is only built here, not saved: its `id` is
the `AUTO_INCREMENT` key, still `none`, and every instance gets `instance_id` 1. -/
def InstanceInfo.create (jobId appId : Option Nat) (jobParams instanceParams : Option String)
    (wfInstanceId : Option Nat) (expectedTriggerTime : Option Int) : InstanceInfo :=
  let instanceId := 1
  let instanceType :=
    if wfInstanceId.isNone then some InstanceType.normal.code else some InstanceType.workFlow.code
  { id := none, jobId, appId, instanceId := some instanceId, jobParams, instanceParams,
    instanceType, wfInstanceId, status := some InstanceStatus.waitingDispatch.code,
    result := none, expectedTriggerTime, actualTriggerTime := none, finishedTime := none,
    lastReportTime := some (-1), taskTrackerAddress := none, runningTimes := some 0,
    gmtCreate := none, gmtModified := none }

/-- `InstanceInfo::generalized_running_status`. -/
def generalizedRunningStatus : List Nat :=
  [InstanceStatus.waitingDispatch.code, InstanceStatus.waitingWorkerReceive.code,
    InstanceStatus.running.code]

/-- `InstanceInfo::finish_status`. -/
def finishStatus : List Nat :=
  [InstanceStatus.failed.code, InstanceStatus.success.code, InstanceStatus.canceled.code,
    InstanceStatus.stopped.code]

/-- Errors of a storage call: the rbatis errors `StorageError` wraps. -/
inductive StorageError where
  /-- The database refused or lost the statement. -/
  | database
  /-- An `INSERT` met an existing primary key or unique key value. -/
  | duplicateKey
  /-- A fetch into one struct found several rows (`rows_affected > 1`). -/
  | tooManyRows
  deriving DecidableEq, Repr

/-- `INSERT` into a table with primary key `key` and unique key `unique`
(`NULL` never collides): refused on a collision; a `NULL` id takes the
`AUTO_INCREMENT` value, one past the largest key. -/
def insertRow {α : Type} (key : α → Option Nat) (setKey : α → Nat → α)
    (unique : α → Option String) (rows : List α) (row : α) : Except StorageError (List α) :=
  if ((key row).isSome && rows.any (fun r => key r == key row)) ||
      ((unique row).isSome && rows.any (fun r => unique r == unique row)) then
    .error .duplicateKey
  else
    match key row with
    | some _ => .ok (rows ++ [row])
    | none => .ok (rows ++ [setKey row (rows.foldr (fun r m => max ((key r).getD 0) m) 0 + 1)])

/-- `UPDATE ... WHERE id = ?` (rbatis `update_by_id`): the row with the record's
id takes the record's non-`NULL` columns, as `merge` says; a `NULL` id matches
no row. -/
def updateRow {α : Type} (key : α → Option Nat) (merge : α → α → α) (rows : List α)
    (record : α) : List α :=
  rows.map fun r => if (key record).isSome && key r == key record then merge r record else r

/-- A fetch decoded into one `Option<T>`: several rows are an error. -/
def fetchOne {α : Type} : List α → Except StorageError (Option α)
  | [] => .ok none
  | [r] => .ok (some r)
  | _ => .error .tooManyRows

section Rows

variable {α : Type} {key : α → Option Nat} {merge : α → α → α} {rows : List α} {record : α}

theorem mem_updateRow {r : α} (h : r ∈ updateRow key merge rows record) :
    ∃ r' ∈ rows, r = r' ∨ key r' = key record ∧ r = merge r' record := by
  unfold updateRow at h
  obtain ⟨r', hr', rfl⟩ := List.mem_map.mp h
  refine ⟨r', hr', ?_⟩
  split
  · rename_i hmatch
    simp only [Bool.and_eq_true, beq_iff_eq] at hmatch
    exact .inr ⟨hmatch.2, rfl⟩
  · exact .inl rfl

theorem countP_updateRow_le_of_not (p : α → Bool) (hp : ∀ r, p (merge r record) = false) :
    (updateRow key merge rows record).countP p ≤ rows.countP p := by
  induction rows with
  | nil => simp [updateRow]
  | cons r rs ih =>
    simp only [updateRow, List.map_cons, List.countP_cons] at ih ⊢
    split
    · simp only [hp, Bool.false_eq_true, if_false, Nat.add_zero]
      omega
    · omega

theorem countP_updateRow_le (p : α → Bool) (hnd : (rows.map key).Nodup) :
    (updateRow key merge rows record).countP p ≤ rows.countP p + 1 := by
  induction rows with
  | nil => simp [updateRow]
  | cons r rs ih =>
    rw [List.map_cons, List.nodup_cons] at hnd
    simp only [updateRow, List.map_cons, List.countP_cons] at ih ⊢
    split
    · rename_i hmatch
      simp only [Bool.and_eq_true, beq_iff_eq] at hmatch
      -- no later row has the record's key, so the rest is untouched
      have hrest : rs.map (fun r => if (key record).isSome && key r == key record
          then merge r record else r) = rs := by
        refine List.map_congr_left (fun r' hr' => ?_) |>.trans (List.map_id rs)
        have hne : key r' ≠ key record := by
          rw [← hmatch.2]
          exact fun he => hnd.1 (he ▸ List.mem_map_of_mem hr')
        simp [hne]
      rw [hrest]
      split <;> omega
    · have := ih hnd.2
      split <;> omega

theorem mem_of_insertRow {setKey : α → Nat → α} {unique : α → Option String}
    {rows' : List α} {row r : α} (h : insertRow key setKey unique rows row = .ok rows')
    (hr : r ∈ rows') : r ∈ rows ∨ r = row ∨ ∃ k, r = setKey row k := by
  unfold insertRow at h
  split at h
  · cases h
  split at h <;> cases h <;> simp only [List.mem_append, List.mem_singleton] at hr
  · exact hr.elim .inl (fun he => .inr (.inl he))
  · exact hr.elim .inl (fun he => .inr (.inr ⟨_, he⟩))

theorem mem_of_fetchOne {l : List α} {a : α} (h : fetchOne l = .ok (some a)) : a ∈ l := by
  match l, h with
  | [r], h =>
    cases h
    exact List.mem_singleton_self _

theorem map_key_updateRow (hkeep : ∀ r, key (merge r record) = key r) :
    (updateRow key merge rows record).map key = rows.map key := by
  unfold updateRow
  rw [List.map_map]
  refine List.map_congr_left fun r _ => ?_
  simp only [Function.comp_apply]
  split
  · exact hkeep r
  · rfl

end Rows

/-- The columns an `UPDATE` of `record` writes: all but `id`, `NULL` skipped. -/
def InstanceInfo.merge (row record : InstanceInfo) : InstanceInfo :=
  { id := row.id, jobId := record.jobId <|> row.jobId, appId := record.appId <|> row.appId,
    instanceId := record.instanceId <|> row.instanceId,
    jobParams := record.jobParams <|> row.jobParams,
    instanceParams := record.instanceParams <|> row.instanceParams,
    instanceType := record.instanceType <|> row.instanceType,
    wfInstanceId := record.wfInstanceId <|> row.wfInstanceId,
    status := record.status <|> row.status, result := record.result <|> row.result,
    expectedTriggerTime := record.expectedTriggerTime <|> row.expectedTriggerTime,
    actualTriggerTime := record.actualTriggerTime <|> row.actualTriggerTime,
    finishedTime := record.finishedTime <|> row.finishedTime,
    lastReportTime := record.lastReportTime <|> row.lastReportTime,
    taskTrackerAddress := record.taskTrackerAddress <|> row.taskTrackerAddress,
    runningTimes := record.runningTimes <|> row.runningTimes,
    gmtCreate := record.gmtCreate <|> row.gmtCreate,
    gmtModified := record.gmtModified <|> row.gmtModified }

def JobInfo.merge (row record : JobInfo) : JobInfo :=
  { id := row.id, appId := record.appId <|> row.appId,
    concurrency := record.concurrency <|> row.concurrency,
    designatedWorkers := record.designatedWorkers <|> row.designatedWorkers,
    instanceRetryNum := record.instanceRetryNum <|> row.instanceRetryNum,
    jobParams := record.jobParams <|> row.jobParams,
    maxInstanceNum := record.maxInstanceNum <|> row.maxInstanceNum,
    maxWorkerCount := record.maxWorkerCount <|> row.maxWorkerCount,
    minCpuCores := record.minCpuCores <|> row.minCpuCores,
    minDiskSpace := record.minDiskSpace <|> row.minDiskSpace,
    minMemorySpace := record.minMemorySpace <|> row.minMemorySpace,
    nextTriggerTime := record.nextTriggerTime <|> row.nextTriggerTime,
    processorType := record.processorType <|> row.processorType,
    status := record.status <|> row.status,
    timeExpression := record.timeExpression <|> row.timeExpression,
    timeExpressionType := record.timeExpressionType <|> row.timeExpressionType }

/-- The row is an instance of job `jobId` with one of the listed statuses. -/
def InstanceInfo.hasStatus (jobId : Nat) (status : List Nat) (i : InstanceInfo) : Bool :=
  i.jobId == some jobId && i.status.any (· ∈ status)

/-- The filter of `find_cron_jobs`: a running CRON job of one of the apps, due
by `timeThreshold` (a `NULL` column meets no condition). -/
def JobInfo.cronDue (ids : List Nat) (timeThreshold : Int) (j : JobInfo) : Bool :=
  j.appId.any (· ∈ ids) && j.status == some JobStatus.running.code &&
    j.timeExpressionType == some JobTimeExpressionType.cron.code &&
    j.nextTriggerTime.any (· ≤ timeThreshold)

/-- The filter of `find_frequent_jobs`: a running FixRate or FixDelay job of one
of the apps. -/
def JobInfo.frequentOf (ids : List Nat) (j : JobInfo) : Bool :=
  j.appId.any (· ∈ ids) && j.status == some JobStatus.running.code &&
    j.timeExpressionType.any
      (· ∈ [JobTimeExpressionType.fixRate.code, JobTimeExpressionType.fixDelay.code])

/-- The database: the tables the modelled code touches, and the fault schedule
of the storage calls to come (`true` at its head makes the next call fail). -/
structure Db where
  appInfo : List AppInfo := []
  lock : List Lock := []
  jobInfo : List JobInfo := []
  instanceInfo : List InstanceInfo := []
  faults : List Bool := []
  deriving DecidableEq, Repr

namespace Db

/-- One storage call: a database error when the fault schedule says so,
otherwise `op` on the tables. -/
def call {α : Type} (db : Db) (op : Db → Except StorageError α × Db) :
    Except StorageError α × Db :=
  match db.faults with
  | true :: fs => (.error .database, { db with faults := fs })
  | false :: fs => op { db with faults := fs }
  | [] => op db

/-- The database after one call: the head of the fault schedule is used up. -/
def afterCall (db : Db) : Db := { db with faults := db.faults.tail }

@[simp] theorem afterCall_appInfo (db : Db) : db.afterCall.appInfo = db.appInfo := rfl
@[simp] theorem afterCall_lock (db : Db) : db.afterCall.lock = db.lock := rfl
@[simp] theorem afterCall_jobInfo (db : Db) : db.afterCall.jobInfo = db.jobInfo := rfl
@[simp] theorem afterCall_instanceInfo (db : Db) :
    db.afterCall.instanceInfo = db.instanceInfo := rfl

/-- A call fails exactly when the fault schedule says so, and otherwise runs
`op` on the database with that entry used up. -/
theorem call_eq {α : Type} (db : Db) (op : Db → Except StorageError α × Db) :
    db.call op = if db.faults.head? = some true then (.error .database, db.afterCall)
      else op db.afterCall := by
  rcases db with ⟨a, l, j, i, faults⟩
  unfold call afterCall
  rcases faults with _ | ⟨_ | _, fs⟩ <;> rfl

/-- A read: the tables stay as they are. -/
def query {α : Type} (db : Db) (q : Db → Except StorageError α) : Except StorageError α × Db :=
  db.call fun db => (q db, db)

theorem query_snd {α : Type} (db : Db) (q : Db → Except StorageError α) :
    (db.query q).2 = db.afterCall := by
  unfold query
  rw [call_eq]
  split <;> rfl

theorem query_eq {α : Type} (db : Db) (q : Db → Except StorageError α) :
    db.query q = (if db.faults.head? = some true then .error .database else q db.afterCall,
      db.afterCall) := by
  unfold query
  rw [call_eq]
  split <;> rfl

theorem query_fst {α : Type} {db : Db} {q : Db → Except StorageError α} {a : α}
    (h : (db.query q).1 = .ok a) : q db.afterCall = .ok a := by
  unfold query at h
  rw [call_eq] at h
  split at h
  · cases h
  · exact h

/-- `fetch` of `app_info` by `id`. -/
def fetchAppInfo (db : Db) (id : Nat) : Except StorageError (Option AppInfo) × Db :=
  db.query fun db => fetchOne (db.appInfo.filter (·.id == some id))

/-- `save` of a `Lock`: `lock_name` is the unique key `lockNameUK`. -/
def saveLock (db : Db) (l : Lock) : Except StorageError Unit × Db :=
  db.call fun db =>
    match insertRow Lock.id (fun l k => { l with id := some k }) Lock.lockName db.lock l with
    | .ok rows => (.ok (), { db with lock := rows })
    | .error e => (.error e, db)

/-- `save` of an `AppInfo`: `app_name` is the unique key `appNameUK`. -/
def saveAppInfo (db : Db) (a : AppInfo) : Except StorageError Unit × Db :=
  db.call fun db =>
    match insertRow AppInfo.id (fun a k => { a with id := some k }) AppInfo.appName db.appInfo a with
    | .ok rows => (.ok (), { db with appInfo := rows })
    | .error e => (.error e, db)

/-- `save` of an `InstanceInfo`. -/
def saveInstance (db : Db) (i : InstanceInfo) : Except StorageError Unit × Db :=
  db.call fun db =>
    match insertRow InstanceInfo.id (fun i k => { i with id := some k }) (fun _ => none)
      db.instanceInfo i with
    | .ok rows => (.ok (), { db with instanceInfo := rows })
    | .error e => (.error e, db)

/-- `update` of one `InstanceInfo`. -/
def updateInstance (db : Db) (i : InstanceInfo) : Except StorageError Unit × Db :=
  db.call fun db =>
    (.ok (), { db with instanceInfo := updateRow InstanceInfo.id InstanceInfo.merge db.instanceInfo i })

/-- `update` of one `JobInfo`. -/
def updateJob (db : Db) (j : JobInfo) : Except StorageError Unit × Db :=
  db.call fun db => (.ok (), { db with jobInfo := updateRow JobInfo.id JobInfo.merge db.jobInfo j })

/-- `find_instance_by_id`: the row with that `instance_id`. -/
def findInstanceById (db : Db) (instanceId : Nat) : Except StorageError (Option InstanceInfo) × Db :=
  db.query fun db => fetchOne (db.instanceInfo.filter (·.instanceId == some instanceId))

/-- `find_job_info_by_instance_id`: the job joined to the instance rows with
that `instance_id` on `ii.job_id = ji.id`. -/
def findJobInfoByInstanceId (db : Db) (instanceId : Nat) : Except StorageError (Option JobInfo) × Db :=
  db.query fun db =>
    fetchOne ((db.instanceInfo.filter (·.instanceId == some instanceId)).flatMap fun i =>
      db.jobInfo.filter fun j => j.id.isSome && j.id == i.jobId)

/-- `count_instance_by_status`: instances of job `id` whose status is listed. -/
def countInstanceByStatus (db : Db) (id : Nat) (status : List Nat) : Except StorageError Nat × Db :=
  db.query fun db => .ok (db.instanceInfo.countP (InstanceInfo.hasStatus id status))

theorem afterCall_of_noFaults {db : Db} (h : db.faults = []) : db.afterCall = db := by
  rcases db with ⟨a, l, j, i, faults⟩
  simp only at h
  subst h
  rfl

theorem query_of_noFaults {α : Type} {db : Db} (h : db.faults = []) (q : Db → Except StorageError α) :
    db.query q = (q db, db) := by
  rw [query_eq, afterCall_of_noFaults h, h]
  rfl

theorem updateInstance_of_noFaults {db : Db} (h : db.faults = []) (i : InstanceInfo) :
    db.updateInstance i =
      (.ok (), { db with instanceInfo := updateRow InstanceInfo.id InstanceInfo.merge db.instanceInfo i }) := by
  unfold updateInstance
  rw [call_eq, afterCall_of_noFaults h, h]
  rfl

/-- An `update` of an instance: nothing on a fault, the rows updated by id otherwise. -/
theorem updateInstance_instanceInfo (db : Db) (i : InstanceInfo) :
    (db.updateInstance i).2.instanceInfo = if db.faults.head? = some true then db.instanceInfo
      else updateRow InstanceInfo.id InstanceInfo.merge db.instanceInfo i := by
  unfold updateInstance
  rw [call_eq]
  split <;> rfl

/-- A `save` of an instance: nothing on a fault or a key collision, the row
inserted otherwise. -/
theorem saveInstance_instanceInfo (db : Db) (i : InstanceInfo) :
    (db.saveInstance i).2.instanceInfo = if db.faults.head? = some true then db.instanceInfo
      else ((insertRow InstanceInfo.id (fun i k => { i with id := some k }) (fun _ => none)
        db.instanceInfo i).toOption.getD db.instanceInfo) := by
  unfold saveInstance
  rw [call_eq]
  split
  · rfl
  · rw [afterCall_instanceInfo]
    split <;> rename_i h <;> simp [h, Except.toOption]

@[simp] theorem findInstanceById_snd (db : Db) (instanceId : Nat) :
    (db.findInstanceById instanceId).2 = db.afterCall := query_snd _ _

@[simp] theorem findJobInfoByInstanceId_snd (db : Db) (instanceId : Nat) :
    (db.findJobInfoByInstanceId instanceId).2 = db.afterCall := query_snd _ _

@[simp] theorem countInstanceByStatus_snd (db : Db) (id : Nat) (status : List Nat) :
    (db.countInstanceByStatus id status).2 = db.afterCall := query_snd _ _

/-- The row `find_instance_by_id` returns has that `instance_id`. -/
theorem findInstanceById_some {db : Db} {instanceId : Nat} {info : InstanceInfo}
    (h : (db.findInstanceById instanceId).1 = .ok (some info)) :
    info ∈ db.instanceInfo ∧ info.instanceId = some instanceId := by
  have hmem := mem_of_fetchOne (query_fst h)
  simp only [afterCall_instanceInfo, List.mem_filter, beq_iff_eq] at hmem
  exact hmem

@[simp] theorem fetchAppInfo_appInfo (db : Db) (id : Nat) :
    (db.fetchAppInfo id).2.appInfo = db.appInfo := by
  simp [fetchAppInfo, query_snd]

/-- A successful fetch of `app_info` found exactly one row with that id. -/
theorem fetchAppInfo_some {db : Db} {id : Nat} {app : AppInfo}
    (h : (db.fetchAppInfo id).1 = .ok (some app)) :
    db.appInfo.filter (·.id == some id) = [app] := by
  have hq := query_fst h
  simp only [afterCall_appInfo] at hq
  generalize db.appInfo.filter (·.id == some id) = rows at hq
  rcases rows with _ | ⟨r, _ | ⟨r', rows⟩⟩ <;> simp_all [fetchOne]

@[simp] theorem saveLock_appInfo (db : Db) (l : Lock) : (db.saveLock l).2.appInfo = db.appInfo := by
  unfold saveLock
  rw [call_eq]
  split
  · rfl
  · split <;> rfl

/-- `find_cron_jobs` (`app_id in ids`, running, CRON, due). -/
def findCronJobs (db : Db) (ids : List Nat) (timeThreshold : Int) :
    Except StorageError (List JobInfo) × Db :=
  db.query fun db => .ok (db.jobInfo.filter (JobInfo.cronDue ids timeThreshold))

/-- `find_frequent_jobs` (`app_id in ids`, running, FixRate or FixDelay). -/
def findFrequentJobs (db : Db) (ids : List Nat) : Except StorageError (List JobInfo) × Db :=
  db.query fun db => .ok (db.jobInfo.filter (JobInfo.frequentOf ids))

/-- `find_frequent_instance_by_job_id`: `select distinct job_id from instance_info
where job_id in ids and status in generalized_running_status`. -/
def findFrequentInstanceByJobId (db : Db) (ids : List Nat) : Except StorageError (List Nat) × Db :=
  db.query fun db => .ok (db.instanceInfo.filterMap fun i =>
    i.jobId.filter fun j => j ∈ ids && i.status.any (· ∈ generalizedRunningStatus)).eraseDups

/-- `save_batch` of instances: one `INSERT` of all the rows, refused as a whole. -/
def saveBatchInstance (db : Db) (is : List InstanceInfo) : Except StorageError Unit × Db :=
  db.call fun db =>
    match is.foldlM (insertRow InstanceInfo.id (fun i k => { i with id := some k }) (fun _ => none))
      db.instanceInfo with
    | .ok rows => (.ok (), { db with instanceInfo := rows })
    | .error e => (.error e, db)

@[simp] theorem findCronJobs_snd (db : Db) (ids : List Nat) (timeThreshold : Int) :
    (db.findCronJobs ids timeThreshold).2 = db.afterCall := query_snd _ _

@[simp] theorem findFrequentJobs_snd (db : Db) (ids : List Nat) :
    (db.findFrequentJobs ids).2 = db.afterCall := query_snd _ _

@[simp] theorem findFrequentInstanceByJobId_snd (db : Db) (ids : List Nat) :
    (db.findFrequentInstanceByJobId ids).2 = db.afterCall := query_snd _ _

@[simp] theorem saveBatchInstance_nil_instanceInfo (db : Db) :
    (db.saveBatchInstance []).2.instanceInfo = db.instanceInfo := by
  unfold saveBatchInstance
  rw [call_eq]
  split <;> rfl

@[simp] theorem saveBatchInstance_jobInfo (db : Db) (is : List InstanceInfo) :
    (db.saveBatchInstance is).2.jobInfo = db.jobInfo := by
  unfold saveBatchInstance
  rw [call_eq]
  split
  · rfl
  · split <;> rfl

@[simp] theorem saveInstance_jobInfo (db : Db) (i : InstanceInfo) :
    (db.saveInstance i).2.jobInfo = db.jobInfo := by
  unfold saveInstance
  rw [call_eq]
  split
  · rfl
  · split <;> rfl

theorem saveInstance_of_noFaults {db : Db} (h : db.faults = []) (i : InstanceInfo) :
    db.saveInstance i =
      match insertRow InstanceInfo.id (fun i k => { i with id := some k }) (fun _ => none)
        db.instanceInfo i with
      | .ok rows => (.ok (), { db with instanceInfo := rows })
      | .error e => (.error e, db) := by
  unfold saveInstance
  rw [call_eq, afterCall_of_noFaults h, h]
  rfl

end Db

end Storage
