import FastJob.Election

/-!
# Dispatching an instance: `Dispatch::dispatch` and `Dispatch::redispatch`

`dispatch` reads the instance by `instance_id`, returns on a canceled or
already dispatched one, counts the job's live instances against
`max_instance_num`, and either marks the instance `Failed` or sends it and
marks it `WaitingWorkerReceive`. `redispatch`, called by the status checker,
first reads the job, gives the instance up when its retries are spent, and
otherwise calls `dispatch` with that job.

Each storage call is one atomic step. Calls run concurrently (the delay-timer
event loop and the status checker), so a call is a process with a `Pc`, and the
system interleaves the steps of any number of calls over one database.
Choosing a worker, building the request and sending it are stubs that return
`Ok`; the send happens in the `trigger` step, and the step's label says whether
a request was sent.
-/
namespace Dispatch

open Storage Transition
open Election (WorkerManagerError)

def usizeNot (x : Nat) : Nat := 2 ^ 64 - 1 - x % 2 ^ 64

/-- `x.wrapping_add(1)` on a `usize`. -/
def wrappingAddOne (x : Nat) : Nat := (x + 1) % 2 ^ 64

/-- Where a `dispatch` or `redispatch` call is. -/
inductive Pc where
  /-- `redispatch(instance)`, before `find_job_info_by_instance_id`. -/
  | redispatch (inst : InstanceInfo)
  /-- `dispatch(task)`, before `find_instance_by_id(task.1)`. -/
  | start
  /-- Past the status match, before `count_instance_by_status` against the cap `n`. -/
  | count (info : InstanceInfo) (n : Nat)
  /-- The cap is reached: before `update_instance_trigger_failed`. -/
  | markFailed (info : InstanceInfo) (n : Nat)
  /-- Before `send` and `update_instance_trigger_success`. -/
  | trigger (info : InstanceInfo)
  | done (r : Except WorkerManagerError Unit)
  | panic
  deriving DecidableEq, Repr

def Pc.info : Pc → Option InstanceInfo
  | .count info _ | .markFailed info _ | .trigger info => some info
  | _ => none

def Pc.finished : Pc → Bool
  | .done _ | .panic => true
  | _ => false

/-- A call: `task = (job, instance_id)` of `dispatch` and where it is. -/
structure Call where
  job : JobInfo
  instanceId : Nat
  pc : Pc
  deriving DecidableEq, Repr

/-- Whether `dispatch` goes on past the status match: `Canceled` and every other
decodable status but `WaitingDispatch` return `Ok` at once, and a number that
`InstanceStatus::try_from` rejects is only logged. -/
def proceeds (status : Nat) : Bool :=
  match InstanceStatus.tryFrom status with
  | some .waitingDispatch => true
  | some _ => false
  | none => true

/-- `update_instance_trigger_failed`: the instance as it was read, `Failed` at `now`. -/
def triggerFailed (info : InstanceInfo) (n : Nat) (now : Int) : InstanceInfo :=
  { info with result := some ("Too many instances, exceed max instance num: " ++ toString n),
              actualTriggerTime := some now, finishedTime := some now,
              status := some InstanceStatus.failed.code }

/-- `update_instance_trigger_success`: the instance as it was read, sent to
`workerAddress` at `now`. -/
def triggerSuccess (info : InstanceInfo) (workerAddress : String) (now : Int) : InstanceInfo :=
  { info with actualTriggerTime := some now, taskTrackerAddress := some workerAddress,
              status := some InstanceStatus.waitingWorkerReceive.code }

/-- The record that `redispatch` saves when it gives the instance up;
`running_times.unwrap()` panics on `NULL`. -/
def giveUp (inst : InstanceInfo) (now : Int) : Option InstanceInfo :=
  inst.runningTimes.map fun rt =>
    { inst with status := some InstanceStatus.failed.code, finishedTime := some now,
                result := some "worker report timeout, maybe Worker down",
                runningTimes := some (wrappingAddOne rt) }

/-- The outcome of `redispatch`'s test. -/
inductive Verdict where
  | giveUp
  | retry
  | panic
  /-- `JobTimeExpressionType::try_from` rejected the number. -/
  | invalid (number : Nat)
  deriving DecidableEq, Repr

/-- `redispatch`'s test, its `||` evaluated left to right with its `unwrap`s and
`?`. `!job.status.unwrap()` is the bitwise not of a `usize`, which equals
`JobStatus::Running` only for `2^64 - 2`. -/
def verdict (job : JobInfo) (inst : InstanceInfo) : Verdict :=
  match job.status with
  | none => .panic
  | some status =>
    if usizeNot status = JobStatus.running.code then .giveUp
    else match job.timeExpressionType with
      | none => .panic
      | some number =>
        match JobTimeExpressionType.tryFrom number with
        | none => .invalid number
        | some type =>
          if type.isFrequent then .giveUp
          else match inst.runningTimes, job.instanceRetryNum with
            | some runningTimes, some retryNum => if retryNum ≤ runningTimes then .giveUp else .retry
            | _, _ => .panic

/-- The statuses `dispatch` counts against the cap. -/
def liveStatus : List Nat :=
  [InstanceStatus.waitingWorkerReceive.code, InstanceStatus.running.code]

/-- What `dispatch` does with the answer of `find_instance_by_id`. -/
def readAnswer (job : JobInfo) : Except StorageError (Option InstanceInfo) → Pc
  | .error e => .done (.error (.workerStorageError e))
  | .ok none => .done (.ok ())
  | .ok (some info) =>
    match info.status with
    | none => .panic
    | some status =>
      if !proceeds status then .done (.ok ())
      else match job.maxInstanceNum with
        | some n => if 0 < n then .count info n else .trigger info
        | none => .trigger info

/-- The first step of `dispatch`: `find_instance_by_id(task.1)` and the checks on
the row read. The `debug!` line unwraps the job's id before anything is read,
so the later test for a deleted job (`task.0.id.is_none()`) is never reached. -/
def readStep (job : JobInfo) (instanceId : Nat) (db : Db) : Pc × Db :=
  if job.id.isNone then (.panic, db)
  else
    let r := db.findInstanceById instanceId
    (readAnswer job r.1, r.2)

/-- What `dispatch` does with the count of live instances: the cap test. -/
def countAnswer (info : InstanceInfo) (n : Nat) : Except StorageError Nat → Pc
  | .error e => .done (.error (.workerStorageError e))
  | .ok running => if n ≤ running then .markFailed info n else .trigger info

/-- `count_instance_by_status(instance_info.job_id.unwrap(), ..)` and the cap test. -/
def countStep (info : InstanceInfo) (n : Nat) (db : Db) : Pc × Db :=
  match info.jobId with
  | none => (.panic, db)
  | some jobId =>
    let r := db.countInstanceByStatus jobId liveStatus
    (countAnswer info n r.1, r.2)

/-- What `redispatch` does with the job it read: the call as it goes on, and the
record it saves when it gives the instance up. -/
def redispatchAnswer (c : Call) (inst : InstanceInfo) (instanceId : Nat) (now : Int) :
    Except StorageError (Option JobInfo) → Call × Option InstanceInfo
  | .error e => ({ c with pc := .done (.error (.workerStorageError e)) }, none)
  | .ok none => ({ c with pc := .done (.ok ()) }, none)
  | .ok (some job) =>
    match verdict job inst with
    | .panic => ({ c with pc := .panic }, none)
    | .invalid number => ({ c with pc := .done (.error (.tryFromPrimitive number)) }, none)
    | .retry => ({ job := job, instanceId := instanceId, pc := .start }, none)
    | .giveUp =>
      match giveUp inst now with
      | none => ({ c with pc := .panic }, none)
      | some record => ({ c with pc := .done (.ok ()) }, some record)

/-- The first step of `redispatch`: `find_job_info_by_instance_id` and the test;
on a retry the call goes on as `dispatch((job, instance_id))`. The result of
`save` is dropped. -/
def redispatchStep (c : Call) (inst : InstanceInfo) (now : Int) (db : Db) : Call × Db :=
  match inst.instanceId with
  | none => ({ c with pc := .panic }, db)
  | some instanceId =>
    let r := db.findJobInfoByInstanceId instanceId
    let a := redispatchAnswer c inst instanceId now r.1
    match a.2 with
    | none => (a.1, r.2)
    | some record => (a.1, (r.2.saveInstance record).2)

/-- One atomic step of a call at clock `now`; the flag says whether it sent a
schedule request. The results of both `update_instance_trigger_*` calls are
dropped. -/
def Call.step (c : Call) (now : Int) (db : Db) : Call × Db × Bool :=
  match c.pc with
  | .redispatch inst =>
    let r := redispatchStep c inst now db
    (r.1, r.2, false)
  | .start =>
    let r := readStep c.job c.instanceId db
    ({ c with pc := r.1 }, r.2, false)
  | .count info n =>
    let r := countStep info n db
    ({ c with pc := r.1 }, r.2, false)
  | .markFailed info n =>
    ({ c with pc := .done (.ok ()) }, (db.updateInstance (triggerFailed info n now)).2, false)
  | .trigger info =>
    ({ c with pc := .done (.ok ()) }, (db.updateInstance (triggerSuccess info "" now)).2, true)
  | .done _ | .panic => (c, db, false)

/-- A call run to its end with no other call in between, all at clock `now`;
the count is the number of requests it sent. -/
def Call.finish : Nat → Call → Int → Db → Call × Db × Nat
  | 0, c, _, db => (c, db, 0)
  | fuel + 1, c, now, db =>
    let r := c.step now db
    let rest := Call.finish fuel r.1 now r.2.1
    (rest.1, rest.2.1, rest.2.2 + if r.2.2 then 1 else 0)

/-! ### What a step does -/

/-- What `readAnswer` can answer: the call ends, or it holds the row it read,
which passed the status match, and goes on to the count or to the send. -/
theorem readAnswer_cases (job : JobInfo) (r : Except StorageError (Option InstanceInfo)) :
    (readAnswer job r).finished = true ∨
    ∃ info status, r = .ok (some info) ∧ info.status = some status ∧ proceeds status = true ∧
      ((∃ n, 0 < n ∧ job.maxInstanceNum = some n ∧ readAnswer job r = .count info n) ∨
        ((∀ n, job.maxInstanceNum = some n → n = 0) ∧ readAnswer job r = .trigger info)) := by
  cases r with
  | error e => exact .inl rfl
  | ok row =>
    cases row with
    | none => exact .inl rfl
    | some info =>
      cases hs : info.status with
      | none => exact .inl (by simp [readAnswer, hs, Pc.finished])
      | some status =>
        cases hp : proceeds status
        · exact .inl (by simp [readAnswer, hs, hp, Pc.finished])
        refine .inr ⟨info, status, rfl, hs, hp, ?_⟩
        cases hm : job.maxInstanceNum with
        | none => exact .inr ⟨by simp, by simp [readAnswer, hs, hp, hm]⟩
        | some n =>
          by_cases hn : 0 < n
          · exact .inl ⟨n, hn, rfl, by simp [readAnswer, hs, hp, hm, hn]⟩
          · refine .inr ⟨fun m hm' => ?_, by simp [readAnswer, hs, hp, hm, hn]⟩
            cases hm'
            omega

/-- What `countAnswer` can answer: the call ends on an error, or the count
decides between marking the instance `Failed` and sending it. -/
theorem countAnswer_cases (info : InstanceInfo) (n : Nat) (r : Except StorageError Nat) :
    (countAnswer info n r).finished = true ∨
    ∃ running, r = .ok running ∧
      ((n ≤ running ∧ countAnswer info n r = .markFailed info n) ∨
        (running < n ∧ countAnswer info n r = .trigger info)) := by
  cases r with
  | error e => exact .inl rfl
  | ok running =>
    refine .inr ⟨running, rfl, ?_⟩
    by_cases h : n ≤ running
    · exact .inl ⟨h, by simp [countAnswer, h]⟩
    · exact .inr ⟨by omega, by simp [countAnswer, h]⟩

/-- What `redispatchAnswer` can answer: the call ends, saving at most the
given-up record, or it goes on as `dispatch` of the same instance. -/
theorem redispatchAnswer_cases (c : Call) (inst : InstanceInfo) (instanceId : Nat) (now : Int)
    (r : Except StorageError (Option JobInfo)) :
    ((redispatchAnswer c inst instanceId now r).1.pc.finished = true ∧
      ∀ record, (redispatchAnswer c inst instanceId now r).2 = some record →
        giveUp inst now = some record) ∨
    ∃ job, redispatchAnswer c inst instanceId now r =
      ({ job := job, instanceId := instanceId, pc := .start }, none) := by
  cases r with
  | error e => exact .inl ⟨rfl, by simp [redispatchAnswer]⟩
  | ok row =>
    cases row with
    | none => exact .inl ⟨rfl, by simp [redispatchAnswer]⟩
    | some job =>
      cases hv : verdict job inst with
      | panic => exact .inl ⟨by simp [redispatchAnswer, hv, Pc.finished], by simp [redispatchAnswer, hv]⟩
      | invalid number =>
        exact .inl ⟨by simp [redispatchAnswer, hv, Pc.finished], by simp [redispatchAnswer, hv]⟩
      | retry => exact .inr ⟨job, by simp [redispatchAnswer, hv]⟩
      | giveUp =>
        cases hg : giveUp inst now with
        | none =>
          exact .inl ⟨by simp [redispatchAnswer, hv, hg, Pc.finished],
            by simp [redispatchAnswer, hv, hg]⟩
        | some record =>
          refine .inl ⟨by simp [redispatchAnswer, hv, hg, Pc.finished], fun r hr => ?_⟩
          simp only [redispatchAnswer, hv, hg, Option.some.injEq] at hr
          rw [hr]

theorem giveUp_status {inst record : InstanceInfo} {now : Int}
    (h : giveUp inst now = some record) : record.status = some InstanceStatus.failed.code := by
  unfold giveUp at h
  obtain ⟨rt, -, rfl⟩ := Option.map_eq_some_iff.mp h
  rfl

/-- What a step does to the instance rows: nothing, an `update` with a record
that is `Failed` or `WaitingWorkerReceive`, or the insert of a given-up,
`Failed` record. -/
inductive Write (rows : List InstanceInfo) : List InstanceInfo → Prop where
  | keep : Write rows rows
  | update (record : InstanceInfo)
      (hs : record.status = some InstanceStatus.failed.code ∨
        record.status = some InstanceStatus.waitingWorkerReceive.code) :
      Write rows (updateRow InstanceInfo.id InstanceInfo.merge rows record)
  | insert (record : InstanceInfo) (rows' : List InstanceInfo)
      (hs : record.status = some InstanceStatus.failed.code)
      (h : insertRow InstanceInfo.id (fun i k => { i with id := some k }) (fun _ => none)
        rows record = .ok rows') :
      Write rows rows'

theorem write_updateInstance (db : Db) (record : InstanceInfo)
    (hs : record.status = some InstanceStatus.failed.code ∨
      record.status = some InstanceStatus.waitingWorkerReceive.code) :
    Write db.instanceInfo (db.updateInstance record).2.instanceInfo := by
  rw [Db.updateInstance_instanceInfo]
  split
  · exact .keep
  · exact .update record hs

theorem write_saveInstance (db : Db) (record : InstanceInfo)
    (hs : record.status = some InstanceStatus.failed.code) :
    Write db.instanceInfo (db.saveInstance record).2.instanceInfo := by
  rw [Db.saveInstance_instanceInfo]
  split
  · exact .keep
  cases h : insertRow InstanceInfo.id (fun i k => { i with id := some k }) (fun _ => none)
    db.instanceInfo record with
  | error e => exact .keep
  | ok rows' => exact .insert record rows' hs h

theorem readStep_rows (job : JobInfo) (instanceId : Nat) (db : Db) :
    (readStep job instanceId db).2.instanceInfo = db.instanceInfo := by
  unfold readStep
  split <;> simp

theorem countStep_rows (info : InstanceInfo) (n : Nat) (db : Db) :
    (countStep info n db).2.instanceInfo = db.instanceInfo := by
  unfold countStep
  split <;> simp

/-- `redispatch`'s first step leaves the rows, or saves the given-up record. -/
theorem redispatchStep_rows (c : Call) (inst : InstanceInfo) (now : Int) (db : Db) :
    (redispatchStep c inst now db).2.instanceInfo = db.instanceInfo ∨
    ∃ record, giveUp inst now = some record ∧
      (redispatchStep c inst now db).2.instanceInfo =
        (db.afterCall.saveInstance record).2.instanceInfo := by
  unfold redispatchStep
  split
  · exact .inl rfl
  rename_i instanceId _
  dsimp only
  rcases redispatchAnswer_cases c inst instanceId now (db.findJobInfoByInstanceId instanceId).1
    with ⟨-, hrec⟩ | ⟨job, hjob⟩
  · split
    · left
      rw [Db.findJobInfoByInstanceId_snd]
      rfl
    · rename_i record hsave
      right
      rw [Db.findJobInfoByInstanceId_snd]
      exact ⟨record, hrec record hsave, rfl⟩
  · left
    rw [hjob, Db.findJobInfoByInstanceId_snd]
    rfl

theorem redispatchStep_write (c : Call) (inst : InstanceInfo) (now : Int) (db : Db) :
    Write db.instanceInfo (redispatchStep c inst now db).2.instanceInfo := by
  rcases redispatchStep_rows c inst now db with h | ⟨record, hrec, h⟩
  · rw [h]
    exact .keep
  · rw [h]
    exact write_saveInstance db.afterCall record (giveUp_status hrec)

theorem step_write (c : Call) (now : Int) (db : Db) :
    Write db.instanceInfo (c.step now db).2.1.instanceInfo := by
  unfold Call.step
  split
  · exact redispatchStep_write _ _ _ _
  · dsimp only
    rw [readStep_rows]
    exact .keep
  · dsimp only
    rw [countStep_rows]
    exact .keep
  · exact write_updateInstance _ _ (.inl rfl)
  · exact write_updateInstance _ _ (.inr rfl)
  · exact .keep
  · exact .keep

theorem step_of_finished {c : Call} (h : c.pc.finished = true) (now : Int) (db : Db) :
    c.step now db = (c, db, false) := by
  unfold Call.step
  split <;> simp_all [Pc.finished]

theorem step_sent {c : Call} {now : Int} {db : Db} (h : (c.step now db).2.2 = true) :
    ∃ info, c.pc = .trigger info ∧ (c.step now db).1.pc = .done (.ok ()) := by
  unfold Call.step at h ⊢
  split at h <;> simp_all

/-! ### What a call can read and send -/

/-- The row a call holds passed the status match of `dispatch`. -/
def ReadOk (c : Call) : Prop :=
  ∀ info, c.pc.info = some info → ∃ status, info.status = some status ∧ proceeds status = true

theorem Pc.info_of_finished {pc : Pc} (h : pc.finished = true) : pc.info = none := by
  cases pc <;> simp_all [Pc.finished, Pc.info]

theorem readAnswer_readOk (job : JobInfo) (r : Except StorageError (Option InstanceInfo))
    (info : InstanceInfo) (hinfo : (readAnswer job r).info = some info) :
    ∃ status, info.status = some status ∧ proceeds status = true := by
  rcases readAnswer_cases job r with hfin | ⟨row, status, -, hs, hp, ⟨n, -, -, hpc⟩ | ⟨-, hpc⟩⟩
  · rw [Pc.info_of_finished hfin] at hinfo
    cases hinfo
  · rw [hpc] at hinfo
    cases hinfo
    exact ⟨status, hs, hp⟩
  · rw [hpc] at hinfo
    cases hinfo
    exact ⟨status, hs, hp⟩

theorem countAnswer_info {info info' : InstanceInfo} {n : Nat} {r : Except StorageError Nat}
    (hinfo : (countAnswer info n r).info = some info') : info' = info := by
  rcases countAnswer_cases info n r with hfin | ⟨running, -, ⟨-, hpc⟩ | ⟨-, hpc⟩⟩
  · rw [Pc.info_of_finished hfin] at hinfo
    cases hinfo
  · rw [hpc] at hinfo
    cases hinfo
    rfl
  · rw [hpc] at hinfo
    cases hinfo
    rfl

/-- `redispatch` holds no row after its first step. -/
theorem redispatchStep_info (c : Call) (inst : InstanceInfo) (now : Int) (db : Db) :
    (redispatchStep c inst now db).1.pc.info = none := by
  unfold redispatchStep
  split
  · rfl
  rename_i instanceId _
  dsimp only
  rcases redispatchAnswer_cases c inst instanceId now (db.findJobInfoByInstanceId instanceId).1
    with ⟨hfin, -⟩ | ⟨job, hjob⟩
  · split <;> exact Pc.info_of_finished hfin
  · rw [hjob]
    rfl

theorem step_readOk {c : Call} (h : ReadOk c) (now : Int) (db : Db) : ReadOk (c.step now db).1 := by
  intro info hinfo
  cases hpc : c.pc with
  | redispatch inst =>
    simp only [Call.step, hpc] at hinfo
    rw [redispatchStep_info] at hinfo
    cases hinfo
  | start =>
    simp only [Call.step, hpc, readStep] at hinfo
    split at hinfo
    · cases hinfo
    · exact readAnswer_readOk _ _ info hinfo
  | count held n =>
    simp only [Call.step, hpc, countStep] at hinfo
    split at hinfo
    · cases hinfo
    · rw [countAnswer_info hinfo]
      exact h held (by rw [hpc]; rfl)
  | markFailed held n => simp [Call.step, hpc, Pc.info] at hinfo
  | trigger held => simp [Call.step, hpc, Pc.info] at hinfo
  | done r => simp [Call.step, hpc, Pc.info] at hinfo
  | panic => simp [Call.step, hpc, Pc.info] at hinfo

/-- A status that stops `dispatch` at its read; a missing one panics it. -/
def settled : Option Nat → Bool
  | some status => !proceeds status
  | none => true

/-- Every row of instance `iid` stops a `dispatch` at its read. -/
def Settled (iid : Nat) (rows : List InstanceInfo) : Prop :=
  ∀ r ∈ rows, r.instanceId = some iid → settled r.status = true

/-- The calls write only statuses that stop a later read. -/
theorem Settled.write {iid : Nat} {rows rows' : List InstanceInfo} (h : Settled iid rows)
    (hw : Write rows rows') : Settled iid rows' := by
  cases hw with
  | keep => exact h
  | update record hs =>
    intro r hr hid
    obtain ⟨old, hold, heq | ⟨-, heq⟩⟩ := mem_updateRow hr
    · subst heq
      exact h r hold hid
    · -- the merged row takes the record's status
      subst heq
      show settled (record.status <|> old.status) = true
      rcases hs with hs | hs <;> rw [hs] <;> rfl
  | insert record rows' hs hins =>
    intro r hr hid
    rcases mem_of_insertRow hins hr with hr | rfl | ⟨k, rfl⟩
    · exact h r hr hid
    · rw [hs]
      rfl
    · show settled record.status = true
      rw [hs]
      rfl

/-- Call `c` is for instance `iid` and has not read it yet. -/
def Pending (iid : Nat) (c : Call) : Prop :=
  (c.pc = .start ∧ c.instanceId = iid) ∨ ∃ inst, c.pc = .redispatch inst ∧ inst.instanceId = some iid

theorem step_pending {iid : Nat} {c : Call} {db : Db} (hset : Settled iid db.instanceInfo)
    (hc : Pending iid c) (now : Int) :
    Pending iid (c.step now db).1 ∨ (c.step now db).1.pc.finished = true := by
  rcases hc with ⟨hpc, hid⟩ | ⟨inst, hpc, hid⟩
  · right
    simp only [Call.step, hpc, readStep]
    split
    · rfl
    rcases readAnswer_cases c.job (db.findInstanceById c.instanceId).1 with
      hfin | ⟨row, status, hrow, hs, hp, -⟩
    · exact hfin
    -- the row read is settled, so the status match returns
    obtain ⟨hmem, hrid⟩ := Db.findInstanceById_some hrow
    have hst := hset row hmem (hid ▸ hrid)
    rw [hs] at hst
    simp [settled, hp] at hst
  · simp only [Call.step, hpc, redispatchStep, hid]
    rcases redispatchAnswer_cases c inst iid now (db.findJobInfoByInstanceId iid).1 with
      ⟨hfin, -⟩ | ⟨job, hjob⟩
    · right
      split <;> exact hfin
    · left
      rw [hjob]
      exact .inl ⟨rfl, rfl⟩

theorem step_unsent {iid : Nat} {c : Call} (hc : Pending iid c ∨ c.pc.finished = true) (now : Int)
    (db : Db) : (c.step now db).2.2 = false := by
  cases hsent : (c.step now db).2.2
  · rfl
  obtain ⟨info, hpc, -⟩ := step_sent hsent
  rcases hc with (⟨hstart, -⟩ | ⟨inst, hred, -⟩) | hfin
  · rw [hpc] at hstart
    cases hstart
  · rw [hpc] at hred
    cases hred
  · simp [hpc, Pc.finished] at hfin

/-! ### The concurrent system -/

variable {ι : Type} [DecidableEq ι]

/-- The database and every call. -/
structure State (ι : Type) where
  db : Db
  calls : ι → Call

/-- Call `p` takes one step at clock `now`. -/
def next (s : State ι) (p : ι) (now : Int) : State ι × Bool :=
  let r := (s.calls p).step now s.db
  ({ db := r.2.1, calls := Function.update s.calls p r.1 }, r.2.2)

def Step (s : State ι) (l : ι × Int × Bool) (t : State ι) : Prop :=
  next s l.1 l.2.1 = (t, l.2.2)

/-- Every call is about to start, as `dispatch` or as `redispatch`. -/
def Init (s : State ι) : Prop :=
  ∀ p, (s.calls p).pc = .start ∨ ∃ inst, (s.calls p).pc = .redispatch inst

/-- A step of call `p` that sent a request. -/
def sentBy (p : ι) (l : ι × Int × Bool) : Bool := decide (l.1 = p) && l.2.2

section System

variable {s t : State ι} {l : ι × Int × Bool}

theorem step_calls (h : Step s l t) (p : ι) :
    t.calls p = if p = l.1 then ((s.calls l.1).step l.2.1 s.db).1 else s.calls p := by
  obtain ⟨h₁, -⟩ := Prod.ext_iff.mp h
  subst h₁
  simp only [next, Function.update_apply]

theorem step_db (h : Step s l t) : t.db = ((s.calls l.1).step l.2.1 s.db).2.1 := by
  obtain ⟨h₁, -⟩ := Prod.ext_iff.mp h
  subst h₁
  rfl

theorem step_label (h : Step s l t) : l.2.2 = ((s.calls l.1).step l.2.1 s.db).2.2 :=
  (Prod.ext_iff.mp h).2.symm

theorem readOk_step (hok : ∀ p, ReadOk (s.calls p)) (h : Step s l t) (p : ι) :
    ReadOk (t.calls p) := by
  rw [step_calls h p]
  split
  · exact step_readOk (hok _) _ _
  · exact hok p

/-- One while call `p` has not ended. -/
def unfinished (p : ι) (s : State ι) : Nat := if (s.calls p).pc.finished then 0 else 1

theorem unfinished_step (h : Step s l t) (p : ι) :
    unfinished p t + (if sentBy p l then 1 else 0) ≤ unfinished p s := by
  by_cases hp : l.1 = p
  · subst hp
    have hcall := step_calls h l.1
    simp only [if_true] at hcall
    cases hsent : l.2.2
    · -- no send: an ended call does not move
      simp only [unfinished, sentBy, hsent, Bool.and_false, Bool.false_eq_true, if_false,
        Nat.add_zero]
      cases hfin : (s.calls l.1).pc.finished
      · simp only [Bool.false_eq_true, if_false]
        split <;> omega
      · rw [hcall, step_of_finished hfin]
        simp [hfin]
    · obtain ⟨info, hpc, hdone⟩ := step_sent (step_label h ▸ hsent)
      simp [unfinished, sentBy, hsent, hcall, hdone, hpc, Pc.finished]
  · have hcall := step_calls h p
    rw [if_neg (Ne.symm hp)] at hcall
    simp [unfinished, sentBy, hp, hcall]

/-- The rows of instance `iid` are settled, and call `p` has not read it yet or
has ended. -/
def Quiet (iid : Nat) (p : ι) (s : State ι) : Prop :=
  Settled iid s.db.instanceInfo ∧ (Pending iid (s.calls p) ∨ (s.calls p).pc.finished = true)

/-- A quiet call stays quiet and sends nothing, whatever the other calls do. -/
theorem quiet_step {iid : Nat} {p : ι} (hq : Quiet iid p s) (h : Step s l t) :
    Quiet iid p t ∧ sentBy p l = false := by
  have hset : Settled iid t.db.instanceInfo := by
    rw [step_db h]
    exact hq.1.write (step_write _ _ _)
  by_cases hp : l.1 = p
  · subst hp
    have hcall := step_calls h l.1
    simp only [if_true] at hcall
    have hsend : l.2.2 = false := by
      rw [step_label h]
      exact step_unsent hq.2 _ _
    refine ⟨⟨hset, ?_⟩, by simp [sentBy, hsend]⟩
    rw [hcall]
    rcases hq.2 with hpend | hfin
    · exact step_pending hq.1 hpend _
    · rw [step_of_finished hfin]
      exact .inr hfin
  · have hcall := step_calls h p
    rw [if_neg (Ne.symm hp)] at hcall
    exact ⟨⟨hset, hcall ▸ hq.2⟩, by simp [sentBy, hp]⟩

end System

/-- Dispatch is exclusive only within a call. Over any interleaving of
`dispatch` and `redispatch` calls, with any storage failures: each call sends at
most once; a call holds a row, and so can mark it `Failed` or send it, only if
the row it read was `WaitingDispatch` or had a status number `try_from`
rejects; and once every row of an instance stops a read (after a successful
write of `WaitingWorkerReceive` or `Failed`), no call of that instance that has
not read yet ever sends. -/
theorem dispatch_exclusive {s₀ s : State ι} {ls : List (ι × Int × Bool)} (h0 : Init s₀)
    (hrun : Run Step s₀ ls s) :
    (∀ p, ls.countP (sentBy p) ≤ 1) ∧
    (∀ p info, (s.calls p).pc.info = some info →
      ∃ status, info.status = some status ∧ proceeds status = true) ∧
    (∀ iid p ls' u, Settled iid s.db.instanceInfo → Pending iid (s.calls p) →
      Run Step s ls' u → ls'.countP (sentBy p) = 0) := by
  refine ⟨fun p => ?_, ?_, fun iid p ls' u hset hp hrest => ?_⟩
  · have hbound := hrun.countP_le (fun _ => True) (fun _ _ _ _ _ => trivial) (unfinished p)
      (sentBy p) (fun _ _ _ _ h => unfinished_step h p) trivial
    have hone : unfinished p s₀ ≤ 1 := by
      unfold unfinished
      split <;> omega
    omega
  · have hok : ∀ p, ReadOk (s₀.calls p) := by
      intro p info hinfo
      rcases h0 p with hpc | ⟨inst, hpc⟩ <;> rw [hpc] at hinfo <;> cases hinfo
    exact hrun.invariant (fun s => ∀ p, ReadOk (s.calls p))
      (fun _ _ _ hs h => readOk_step hs h) hok
  · have hbound := hrest.countP_le (Quiet iid p) (fun _ _ _ hq h => (quiet_step hq h).1)
      (fun _ => 0) (sentBy p) (fun _ _ _ hq h => by simp [(quiet_step hq h).2])
      ⟨hset, .inl hp⟩
    omega

/-- An instance waiting for dispatch, of a job without a cap. -/
def waitingRow : InstanceInfo :=
  { id := some 1, jobId := some 1, instanceId := some 7,
    status := some InstanceStatus.waitingDispatch.code }

/-- A job with an id and no `max_instance_num`. -/
def uncappedJob : JobInfo := { id := some 1 }

/-- The delay timer's event loop, one caller of `dispatch`. -/
def eventLoop : Fin 2 := ⟨0, Nat.zero_lt_two⟩

/-- The status checker, whose `redispatch` calls `dispatch`. -/
def checker : Fin 2 := ⟨1, Nat.one_lt_two⟩

/-- Two `dispatch` calls of that instance, as the event loop and a redispatch
of the status checker make them. -/
def twoCalls : State (Fin 2) :=
  { db := { instanceInfo := [waitingRow] }, calls := fun _ => ⟨uncappedJob, 7, .start⟩ }

/-- Both calls read the instance before either marks it sent. -/
def twoLabels : List (Fin 2 × Int × Bool) :=
  [(eventLoop, 0, false), (checker, 0, false), (eventLoop, 0, true), (checker, 0, true)]

def twoSent : State (Fin 2) :=
  (next (next (next (next twoCalls eventLoop 0).1 checker 0).1 eventLoop 0).1 checker 0).1

theorem twoCalls_run : Run Step twoCalls twoLabels twoSent :=
  .cons rfl (.cons rfl (.cons rfl (.cons rfl (.nil _))))

theorem twoCalls_init : Init twoCalls := fun _ => .inl rfl

theorem dispatch_exclusive_on_twoCalls :
    Init twoCalls ∧
    ((∀ p, twoLabels.countP (sentBy p) ≤ 1) ∧
      (∀ p info, (twoSent.calls p).pc.info = some info →
        ∃ status, info.status = some status ∧ proceeds status = true) ∧
      (∀ iid p ls' u, Settled iid twoSent.db.instanceInfo → Pending iid (twoSent.calls p) →
        Run Step twoSent ls' u → ls'.countP (sentBy p) = 0)) :=
  ⟨twoCalls_init, dispatch_exclusive twoCalls_init twoCalls_run⟩

/- Two overlapping calls of one instance both send it: the read and the update of
`dispatch` are two storage calls with nothing between them. -/
example : Run Step twoCalls twoLabels twoSent ∧ twoLabels.countP (fun l => l.2.2) = 2 :=
  ⟨twoCalls_run, by decide⟩

/-! ### An undecodable status is dispatched -/

theorem readStep_trigger {job : JobInfo} {iid status : Nat} {db : Db} {row : InstanceInfo}
    (hid : job.id.isSome = true) (hcap : job.maxInstanceNum = none) (hf : db.faults = [])
    (hrows : db.instanceInfo.filter (·.instanceId == some iid) = [row])
    (hstatus : row.status = some status) (hproceeds : proceeds status = true) :
    readStep job iid db = (.trigger row, db) := by
  have hnone : job.id.isNone = false := by
    cases h : job.id
    · rw [h] at hid
      cases hid
    · rfl
  simp [readStep, hnone, Db.findInstanceById, Db.query_of_noFaults hf, hrows, fetchOne,
    readAnswer, hstatus, hproceeds, hcap]

/-- `dispatch` dispatches an instance whose status number `try_from` rejects. Run alone
with no storage fault, a call of a job with an id and no cap, for an instance whose
one row has a status number no `InstanceStatus` has, sends the instance once and
writes `WaitingWorkerReceive` over the row, as it does for `WaitingDispatch`: the
`Err` arm of the status match only logs. -/
theorem dispatch_sends_undecodable {job : JobInfo} {iid status : Nat} {db : Db}
    {row : InstanceInfo} (hid : job.id.isSome = true) (hcap : job.maxInstanceNum = none)
    (hf : db.faults = []) (hrows : db.instanceInfo.filter (·.instanceId == some iid) = [row])
    (hstatus : row.status = some status) (hbad : InstanceStatus.tryFrom status = none)
    (now : Int) :
    Call.finish 2 ⟨job, iid, .start⟩ now db =
        (⟨job, iid, .done (.ok ())⟩, (db.updateInstance (triggerSuccess row "" now)).2, 1) ∧
      (triggerSuccess row "" now).status = some InstanceStatus.waitingWorkerReceive.code := by
  have hproceeds : proceeds status = true := by simp [proceeds, hbad]
  refine ⟨?_, rfl⟩
  simp [Call.finish, Call.step, readStep_trigger hid hcap hf hrows hstatus hproceeds]

/-- The waiting row with the status number 99, which no `InstanceStatus` has. -/
def undecodableDb : Db := { instanceInfo := [{ waitingRow with status := some 99 }] }

/-- A call of instance 7, whose status number is 99, sends it. -/
theorem dispatch_sends_undecodable_on_status99 :
    uncappedJob.id.isSome = true ∧ uncappedJob.maxInstanceNum = none ∧ undecodableDb.faults = [] ∧
    undecodableDb.instanceInfo.filter (·.instanceId == some 7) = [{ waitingRow with status := some 99 }] ∧
    InstanceStatus.tryFrom 99 = none ∧
    Call.finish 2 ⟨uncappedJob, 7, .start⟩ 0 undecodableDb =
        (⟨uncappedJob, 7, .done (.ok ())⟩,
          (undecodableDb.updateInstance (triggerSuccess { waitingRow with status := some 99 } "" 0)).2, 1) ∧
      (triggerSuccess { waitingRow with status := some 99 } "" 0).status =
        some InstanceStatus.waitingWorkerReceive.code :=
  ⟨rfl, rfl, rfl, by decide, rfl,
    dispatch_sends_undecodable rfl rfl rfl (by decide) rfl rfl 0⟩

/-! ### A call writes only the rows of its instance -/

/-- The instance rows have distinct ids: `id` is the primary key. -/
def KeysDistinct (rows : List InstanceInfo) : Prop := (rows.map (·.id)).Nodup

/-- Call `c` is about the instance `iid`: it was started for it, and a row it holds is
of that instance and is the one row of `rows` with its id. -/
def About (iid : Option Nat) (c : Call) (rows : List InstanceInfo) : Prop :=
  match c.pc with
  | .redispatch inst => inst.instanceId = iid
  | .start => some c.instanceId = iid
  | .count info _ | .markFailed info _ | .trigger info =>
    info.instanceId = iid ∧ ∀ r ∈ rows, info.id.isSome → r.id = info.id → r.instanceId = iid
  | .done _ | .panic => True

theorem about_of_finished {iid : Option Nat} {c : Call} (rows : List InstanceInfo)
    (h : c.pc.finished = true) : About iid c rows := by
  unfold About
  split <;> simp_all [Pc.finished]

theorem About.held {iid : Option Nat} {c : Call} {rows : List InstanceInfo} {info : InstanceInfo}
    (h : About iid c rows) (hinfo : c.pc.info = some info) :
    info.instanceId = iid ∧ ∀ r ∈ rows, info.id.isSome → r.id = info.id → r.instanceId = iid := by
  unfold About at h
  cases hpc : c.pc <;> rw [hpc] at h hinfo <;> simp only [Pc.info, Option.some.injEq,
    reduceCtorEq] at hinfo <;> subst hinfo <;> exact h

/-- A row read by its `instance_id` from rows with distinct ids is the one row with its id. -/
theorem about_of_read {iid : Option Nat} {rows : List InstanceInfo} {info : InstanceInfo}
    (hkeys : KeysDistinct rows) (hmem : info ∈ rows) (hid : info.instanceId = iid) :
    ∀ r ∈ rows, info.id.isSome → r.id = info.id → r.instanceId = iid := by
  intro r hr _ heq
  rw [List.inj_on_of_nodup_map hkeys hr hmem heq, hid]

theorem filter_updateRow {iid : Option Nat} {rows : List InstanceInfo} {record : InstanceInfo}
    (hrecord : record.instanceId = iid)
    (hrows : ∀ r ∈ rows, record.id.isSome → r.id = record.id → r.instanceId = iid) :
    (updateRow InstanceInfo.id InstanceInfo.merge rows record).filter (·.instanceId != iid) =
      rows.filter (·.instanceId != iid) := by
  induction rows with
  | nil => rfl
  | cons r rows ih =>
    have ih' := ih fun r' hr' => hrows r' (List.mem_cons_of_mem r hr')
    simp only [updateRow] at ih' ⊢
    rw [List.map_cons, List.filter_cons, List.filter_cons, ih']
    by_cases hmatch : (record.id.isSome && r.id == record.id) = true
    · -- the matched row is of instance `iid`, and so is its merge
      have hr : r.instanceId = iid := by
        simp only [Bool.and_eq_true, beq_iff_eq] at hmatch
        exact hrows r List.mem_cons_self hmatch.1 hmatch.2
      have hmerged : (InstanceInfo.merge r record).instanceId = iid := by
        simp only [InstanceInfo.merge, hrecord, hr]
        cases iid <;> rfl
      simp [hmatch, hmerged, hr]
    · simp [hmatch]

theorem map_id_updateRow (rows : List InstanceInfo) (record : InstanceInfo) :
    (updateRow InstanceInfo.id InstanceInfo.merge rows record).map (·.id) = rows.map (·.id) := by
  simp only [updateRow, List.map_map]
  congr 1
  funext r
  simp only [Function.comp_apply]
  split <;> rfl

theorem le_foldr_max (rows : List InstanceInfo) :
    ∀ r ∈ rows, r.id.getD 0 ≤ rows.foldr (fun r m => max (r.id.getD 0) m) 0 := by
  induction rows with
  | nil => simp
  | cons r rows ih =>
    intro r' hr'
    rcases List.mem_cons.mp hr' with rfl | hr'
    · exact le_max_left _ _
    · exact (ih r' hr').trans (le_max_right _ _)

theorem insertRow_frame {iid : Option Nat} {rows rows' : List InstanceInfo} {record : InstanceInfo}
    (hkeys : KeysDistinct rows) (hrecord : record.instanceId = iid)
    (h : insertRow InstanceInfo.id (fun i k => { i with id := some k }) (fun _ => none) rows record =
      .ok rows') :
    KeysDistinct rows' ∧ rows'.filter (·.instanceId != iid) = rows.filter (·.instanceId != iid) := by
  have happend : ∀ row : InstanceInfo, row.instanceId = iid → (∀ r ∈ rows, r.id ≠ row.id) →
      KeysDistinct (rows ++ [row]) ∧
        (rows ++ [row]).filter (·.instanceId != iid) = rows.filter (·.instanceId != iid) := by
    intro row hrow hnew
    refine ⟨?_, by simp [List.filter_append, hrow]⟩
    unfold KeysDistinct
    rw [List.map_append, List.nodup_append]
    simp only [List.map_cons, List.map_nil, List.nodup_cons, List.not_mem_nil, not_false_eq_true,
      List.nodup_nil, and_self, List.mem_singleton, List.mem_map, true_and]
    refine ⟨hkeys, ?_⟩
    rintro _ ⟨r, hr, rfl⟩ _ rfl heq
    exact hnew r hr heq
  unfold insertRow at h
  split at h
  · cases h
  next hfree =>
    split at h
    · next k hk =>
      cases h
      refine happend record hrecord fun r hr heq => hfree ?_
      simp only [hk, Option.isSome_some, Bool.true_and, Bool.or_eq_true, List.any_eq_true,
        beq_iff_eq]
      exact .inl ⟨r, hr, heq.trans hk⟩
    · cases h
      refine happend _ hrecord fun r hr heq => ?_
      have hle := le_foldr_max rows r hr
      rw [heq] at hle
      simp at hle

theorem giveUp_keys {inst record : InstanceInfo} {now : Int} (h : giveUp inst now = some record) :
    record.instanceId = inst.instanceId := by
  unfold giveUp at h
  obtain ⟨rt, -, rfl⟩ := Option.map_eq_some_iff.mp h
  rfl

theorem updateInstance_frame {iid : Option Nat} {db : Db} {info record : InstanceInfo}
    (hf : db.faults = []) (hkeys : KeysDistinct db.instanceInfo) (hinfo : info.instanceId = iid)
    (hrows : ∀ r ∈ db.instanceInfo, info.id.isSome → r.id = info.id → r.instanceId = iid)
    (hrecord : record.instanceId = info.instanceId ∧ record.id = info.id) :
    KeysDistinct (db.updateInstance record).2.instanceInfo ∧ (db.updateInstance record).2.faults = [] ∧
      (db.updateInstance record).2.instanceInfo.filter (·.instanceId != iid) =
        db.instanceInfo.filter (·.instanceId != iid) := by
  rw [Db.updateInstance_of_noFaults hf]
  refine ⟨?_, hf, filter_updateRow (hrecord.1.trans hinfo) (hrecord.2 ▸ hrows)⟩
  unfold KeysDistinct
  rw [map_id_updateRow]
  exact hkeys

/-- One step of a call about `iid`, with no storage fault, keeps it about `iid`, keeps the
ids distinct and the fault schedule empty, and leaves the rows of other instances. -/
theorem step_about {iid : Option Nat} {c : Call} {db : Db} (habout : About iid c db.instanceInfo)
    (hkeys : KeysDistinct db.instanceInfo) (hf : db.faults = []) (now : Int) :
    About iid (c.step now db).1 (c.step now db).2.1.instanceInfo ∧
      KeysDistinct (c.step now db).2.1.instanceInfo ∧ (c.step now db).2.1.faults = [] ∧
      (c.step now db).2.1.instanceInfo.filter (·.instanceId != iid) =
        db.instanceInfo.filter (·.instanceId != iid) := by
  have hafter := Db.afterCall_of_noFaults hf
  cases hpc : c.pc with
  | redispatch inst =>
    have hinst : inst.instanceId = iid := by
      unfold About at habout
      rw [hpc] at habout
      exact habout
    simp only [Call.step, hpc, redispatchStep]
    split
    · exact ⟨about_of_finished _ rfl, hkeys, hf, rfl⟩
    next k hk =>
    rcases redispatchAnswer_cases c inst k now (db.findJobInfoByInstanceId k).1 with
      ⟨hfin, hrec⟩ | ⟨job, hjob⟩
    · split
      · rw [Db.findJobInfoByInstanceId_snd, hafter]
        exact ⟨about_of_finished _ hfin, hkeys, hf, rfl⟩
      · next record hsave =>
        -- the given-up record is saved: an insert of a row of this instance, or nothing
        rw [Db.findJobInfoByInstanceId_snd, hafter, Db.saveInstance_of_noFaults hf]
        have hrecord : record.instanceId = iid := (giveUp_keys (hrec record hsave)).trans hinst
        split
        · next rows' hins =>
          obtain ⟨hkeys', hrows'⟩ := insertRow_frame hkeys hrecord hins
          exact ⟨about_of_finished _ hfin, hkeys', hf, hrows'⟩
        · exact ⟨about_of_finished _ hfin, hkeys, hf, rfl⟩
    · rw [hjob, Db.findJobInfoByInstanceId_snd, hafter]
      exact ⟨show some k = iid by rw [← hk, hinst], hkeys, hf, rfl⟩
  | start =>
    have hstart : some c.instanceId = iid := by
      unfold About at habout
      rw [hpc] at habout
      exact habout
    simp only [Call.step, hpc, readStep]
    split
    · exact ⟨about_of_finished _ rfl, hkeys, hf, rfl⟩
    rw [Db.findInstanceById_snd, hafter]
    refine ⟨?_, hkeys, hf, rfl⟩
    rcases readAnswer_cases c.job (db.findInstanceById c.instanceId).1 with
      hfin | ⟨info, status, hread, -, -, ⟨n, -, -, hnext⟩ | ⟨-, hnext⟩⟩
    · exact about_of_finished _ hfin
    all_goals
      -- the row read is of the call's instance and the one row with its id
      obtain ⟨hmem, hid⟩ := Db.findInstanceById_some hread
      have hid' : info.instanceId = iid := hid.trans hstart
      unfold About
      rw [hnext]
      exact ⟨hid', about_of_read hkeys hmem hid'⟩
  | count info n =>
    have hheld := habout.held (by rw [hpc]; rfl)
    simp only [Call.step, hpc, countStep]
    split
    · exact ⟨about_of_finished _ rfl, hkeys, hf, rfl⟩
    rw [Db.countInstanceByStatus_snd, hafter]
    refine ⟨?_, hkeys, hf, rfl⟩
    rcases countAnswer_cases info n (db.countInstanceByStatus _ liveStatus).1 with
      hfin | ⟨running, -, ⟨-, hnext⟩ | ⟨-, hnext⟩⟩
    · exact about_of_finished _ hfin
    all_goals
      unfold About
      rw [hnext]
      exact hheld
  | markFailed info n =>
    have hheld := habout.held (by rw [hpc]; rfl)
    simp only [Call.step, hpc]
    exact ⟨about_of_finished _ rfl, updateInstance_frame hf hkeys hheld.1 hheld.2 ⟨rfl, rfl⟩⟩
  | trigger info =>
    have hheld := habout.held (by rw [hpc]; rfl)
    simp only [Call.step, hpc]
    exact ⟨about_of_finished _ rfl, updateInstance_frame hf hkeys hheld.1 hheld.2 ⟨rfl, rfl⟩⟩
  | done r =>
    rw [step_of_finished (by rw [hpc]; rfl)]
    exact ⟨habout, hkeys, hf, rfl⟩
  | panic =>
    rw [step_of_finished (by rw [hpc]; rfl)]
    exact ⟨habout, hkeys, hf, rfl⟩

/-- A call about `iid` run to its end with no storage fault leaves the rows of every other
instance, keeps the ids distinct, and fails no storage call. -/
theorem finish_about {iid : Option Nat} (k : Nat) {c : Call} {db : Db}
    (habout : About iid c db.instanceInfo) (hkeys : KeysDistinct db.instanceInfo)
    (hf : db.faults = []) (now : Int) :
    KeysDistinct (Call.finish k c now db).2.1.instanceInfo ∧ (Call.finish k c now db).2.1.faults = [] ∧
      (Call.finish k c now db).2.1.instanceInfo.filter (·.instanceId != iid) =
        db.instanceInfo.filter (·.instanceId != iid) := by
  induction k generalizing c db with
  | zero => exact ⟨hkeys, hf, rfl⟩
  | succ k ih =>
    obtain ⟨habout', hkeys', hf', hrows'⟩ := step_about habout hkeys hf now
    obtain ⟨hkeys'', hf'', hrows''⟩ := ih habout' hkeys' hf'
    exact ⟨hkeys'', hf'', hrows''.trans hrows'⟩

/-! ### The cap on live instances -/

/-- Instances of job `j` that are `WaitingWorkerReceive` or `Running`. -/
def liveCount (j : Nat) (rows : List InstanceInfo) : Nat :=
  rows.countP (InstanceInfo.hasStatus j liveStatus)

/-- `dispatch` calls run one after another, each to its end at its own clock. -/
def dispatchSerially (tasks : List (JobInfo × Nat × Int)) (db : Db) : Db :=
  tasks.foldl (fun db task => (Call.finish 3 ⟨task.1, task.2.1, .start⟩ task.2.2 db).2.1) db

/-- What a `dispatch` call with cap `n`, run alone at `now`, does to the rows
and how many requests it sends: nothing; a row marked `Failed`; or one request
for a row it read, of a job with fewer than `n` live instances. A write may
fail, leaving the rows as they were. -/
inductive Serial (n iid : Nat) (now : Int) (rows : List InstanceInfo) :
    List InstanceInfo → Nat → Prop where
  | quiet : Serial n iid now rows rows 0
  | failed (info : InstanceInfo) (rows' : List InstanceInfo)
      (hw : rows' = rows ∨ rows' = updateRow InstanceInfo.id InstanceInfo.merge rows
        (triggerFailed info n now)) :
      Serial n iid now rows rows' 0
  | sent (info : InstanceInfo) (j : Nat) (hmem : info ∈ rows) (hid : info.instanceId = some iid)
      (hj : info.jobId = some j) (hlive : liveCount j rows < n) (rows' : List InstanceInfo)
      (hw : rows' = rows ∨ rows' = updateRow InstanceInfo.id InstanceInfo.merge rows
        (triggerSuccess info "" now)) :
      Serial n iid now rows rows' 1

theorem finish_of_finished {c : Call} (h : c.pc.finished = true) (k : Nat) (now : Int) (db : Db) :
    Call.finish k c now db = (c, db, 0) := by
  induction k with
  | zero => rfl
  | succ k ih => simp [Call.finish, step_of_finished h, ih]

theorem updateInstance_rows (db : Db) (record : InstanceInfo) :
    (db.updateInstance record).2.instanceInfo = db.instanceInfo ∨
    (db.updateInstance record).2.instanceInfo =
      updateRow InstanceInfo.id InstanceInfo.merge db.instanceInfo record := by
  rw [Db.updateInstance_instanceInfo]
  split
  · exact .inl rfl
  · exact .inr rfl

theorem finish_succ_of_step {c c' : Call} {k : Nat} {now : Int} {db db' : Db} {sent : Bool}
    (h : c.step now db = (c', db', sent)) :
    Call.finish (k + 1) c now db = ((Call.finish k c' now db').1, (Call.finish k c' now db').2.1,
      (Call.finish k c' now db').2.2 + if sent then 1 else 0) := by
  simp only [Call.finish.eq_2, h]

theorem finish_count {c : Call} {info : InstanceInfo} {n iid : Nat} {now : Int} {db : Db}
    (hpc : c.pc = .count info n) (hmem : info ∈ db.instanceInfo)
    (hid : info.instanceId = some iid) :
    Serial n iid now db.instanceInfo (Call.finish 2 c now db).2.1.instanceInfo
      (Call.finish 2 c now db).2.2 := by
  have hstep : c.step now db =
      ({ c with pc := (countStep info n db).1 }, (countStep info n db).2, false) := by
    simp only [Call.step, hpc]
  rw [finish_succ_of_step hstep]
  simp only [Bool.false_eq_true, if_false, Nat.add_zero]
  unfold countStep
  split
  · -- `job_id.unwrap()` panics
    rw [finish_of_finished rfl]
    exact .quiet
  rename_i j hj
  dsimp only
  rcases countAnswer_cases info n (db.countInstanceByStatus j liveStatus).1 with
    hfin | ⟨running, hrun, ⟨-, hans⟩ | ⟨hlt, hans⟩⟩
  · rw [finish_of_finished (show ({ c with pc := countAnswer info n _ } : Call).pc.finished = true
      from hfin)]
    simpa using Serial.quiet
  · rw [hans, finish_succ_of_step rfl, finish_of_finished rfl]
    refine .failed info _ ?_
    simpa using updateInstance_rows db.afterCall (triggerFailed info n now)
  · rw [hans, finish_succ_of_step rfl, finish_of_finished rfl]
    -- the count was taken on the rows the send then writes
    have hcount : liveCount j db.instanceInfo = running := by
      have := Db.query_fst hrun
      simp only [Db.afterCall_instanceInfo, Except.ok.injEq] at this
      exact this
    refine .sent info j hmem hid hj (hcount ▸ hlt) _ ?_
    simpa using updateInstance_rows db.afterCall (triggerSuccess info "" now)

/-- A `dispatch` call with cap `n > 0`, run alone, acts as `Serial` says. -/
theorem finish_start {job : JobInfo} {iid n : Nat} {now : Int} {db : Db}
    (hcap : job.maxInstanceNum = some n) (hn : 0 < n) :
    Serial n iid now db.instanceInfo
      (Call.finish 3 ⟨job, iid, .start⟩ now db).2.1.instanceInfo
      (Call.finish 3 ⟨job, iid, .start⟩ now db).2.2 := by
  rw [finish_succ_of_step rfl]
  simp only [Bool.false_eq_true, if_false, Nat.add_zero]
  unfold readStep
  split
  · -- the `debug!` line panics on a job without an id
    rw [finish_of_finished rfl]
    exact .quiet
  dsimp only
  rcases readAnswer_cases job (db.findInstanceById iid).1 with
    hfin | ⟨info, status, hrow, -, -, ⟨m, -, hm, hpc⟩ | ⟨hzero, -⟩⟩
  · rw [finish_of_finished (show ({ job := job, instanceId := iid, pc := readAnswer job _ } :
      Call).pc.finished = true from hfin)]
    simpa using Serial.quiet
  · obtain ⟨hmem, hid⟩ := Db.findInstanceById_some hrow
    rw [hcap, Option.some.injEq] at hm
    subst hm
    have hser : Serial n iid now db.afterCall.instanceInfo
        (Call.finish 2 ⟨job, iid, readAnswer job (db.findInstanceById iid).1⟩ now
          db.afterCall).2.1.instanceInfo
        (Call.finish 2 ⟨job, iid, readAnswer job (db.findInstanceById iid).1⟩ now
          db.afterCall).2.2 :=
      finish_count hpc hmem hid
    simpa using hser
  · exact absurd (hzero n hcap) (Nat.ne_of_gt hn)

/-- A serial call keeps the job's live count within the cap and the ids distinct. -/
theorem Serial.cap {n iid j : Nat} {now : Int} {rows rows' : List InstanceInfo} {k : Nat}
    (hs : Serial n iid now rows rows' k) (hids : (rows.map InstanceInfo.id).Nodup)
    (hcap : liveCount j rows ≤ n) :
    liveCount j rows' ≤ n ∧ (rows'.map InstanceInfo.id).Nodup := by
  have hkeep : ∀ record, (updateRow InstanceInfo.id InstanceInfo.merge rows record).map
      InstanceInfo.id = rows.map InstanceInfo.id := fun _ => map_key_updateRow fun _ => rfl
  cases hs with
  | quiet => exact ⟨hcap, hids⟩
  | failed info rows' hw =>
    rcases hw with rfl | rfl
    · exact ⟨hcap, hids⟩
    -- a `Failed` row is not live
    refine ⟨Nat.le_trans (countP_updateRow_le_of_not _ fun r => ?_) hcap, (hkeep _).symm ▸ hids⟩
    simp [InstanceInfo.hasStatus, InstanceInfo.merge, triggerFailed, liveStatus,
      InstanceStatus.code]
  | sent info j' hmem hid hj hlive rows' hw =>
    rcases hw with rfl | rfl
    · exact ⟨hcap, hids⟩
    refine ⟨?_, (hkeep _).symm ▸ hids⟩
    by_cases hjj : j' = j
    · -- the sent row may become live: one more, below the cap before
      subst hjj
      unfold liveCount at hlive ⊢
      exact Nat.le_trans (countP_updateRow_le _ hids) (by omega)
    · -- the sent row keeps the job it had, another job
      refine Nat.le_trans (countP_updateRow_le_of_not _ fun r => ?_) hcap
      simp [InstanceInfo.hasStatus, InstanceInfo.merge, triggerSuccess, hj, hjj]

theorem Serial.sent_below {n iid : Nat} {now : Int} {rows rows' : List InstanceInfo} {k : Nat}
    (hs : Serial n iid now rows rows' k) (hpos : 0 < k) :
    ∃ info ∈ rows, info.instanceId = some iid ∧ ∃ j, info.jobId = some j ∧ liveCount j rows < n := by
  cases hs with
  | quiet => omega
  | failed => omega
  | sent info j hmem hid hj hlive => exact ⟨info, hmem, hid, j, hj, hlive⟩

/-- `max_instance_num` is a cap for calls that do not overlap. A `dispatch`
call with cap `n > 0` run alone sends only a row it read, of a job with fewer
than `n` live instances; and calls run one after another never take a job past
`n` live instances when its ids are distinct and it starts within the cap. -/
theorem instance_cap_serial {n : Nat} (hn : 0 < n) :
    (∀ job iid now db, job.maxInstanceNum = some n →
      0 < (Call.finish 3 ⟨job, iid, .start⟩ now db).2.2 →
      ∃ info ∈ db.instanceInfo, info.instanceId = some iid ∧
        ∃ j, info.jobId = some j ∧ liveCount j db.instanceInfo < n) ∧
    (∀ j tasks db, (∀ task ∈ tasks, task.1.maxInstanceNum = some n) →
      (db.instanceInfo.map InstanceInfo.id).Nodup → liveCount j db.instanceInfo ≤ n →
      liveCount j (dispatchSerially tasks db).instanceInfo ≤ n) := by
  refine ⟨fun job iid now db hcap hpos => ?_, fun j tasks => ?_⟩
  · exact (finish_start hcap hn).sent_below hpos
  · -- one call after the other, carrying the cap and the distinct ids
    induction tasks with
    | nil => exact fun db _ _ hcap => hcap
    | cons task tasks ih =>
      intro db htasks hids hcap
      have hser : Serial n task.2.1 task.2.2 db.instanceInfo
          (Call.finish 3 ⟨task.1, task.2.1, .start⟩ task.2.2 db).2.1.instanceInfo
          (Call.finish 3 ⟨task.1, task.2.1, .start⟩ task.2.2 db).2.2 :=
        finish_start (htasks task (List.mem_cons_self ..)) hn
      obtain ⟨hcap', hids'⟩ := hser.cap hids hcap
      exact ih _ (fun t ht => htasks t (List.mem_cons_of_mem _ ht)) hids' hcap'

theorem instance_cap_serial_one :
    0 < 1 ∧
    ((∀ job iid now db, job.maxInstanceNum = some 1 →
      0 < (Call.finish 3 ⟨job, iid, .start⟩ now db).2.2 →
      ∃ info ∈ db.instanceInfo, info.instanceId = some iid ∧
        ∃ j, info.jobId = some j ∧ liveCount j db.instanceInfo < 1) ∧
    (∀ j tasks db, (∀ task ∈ tasks, task.1.maxInstanceNum = some 1) →
      (db.instanceInfo.map InstanceInfo.id).Nodup → liveCount j db.instanceInfo ≤ 1 →
      liveCount j (dispatchSerially tasks db).instanceInfo ≤ 1)) :=
  ⟨Nat.one_pos, instance_cap_serial Nat.one_pos⟩

/-- A job allowed one live instance, and two of its instances waiting for dispatch. -/
def cappedJob : JobInfo := { id := some 1, maxInstanceNum := some 1 }

/-- Two `dispatch` calls, one for each instance. -/
def cappedCalls : State (Fin 2) :=
  { db := { instanceInfo :=
      [{ id := some 1, jobId := some 1, instanceId := some 7,
         status := some InstanceStatus.waitingDispatch.code },
       { id := some 2, jobId := some 1, instanceId := some 8,
         status := some InstanceStatus.waitingDispatch.code }] },
    calls := fun i => ⟨cappedJob, if i = eventLoop then 7 else 8, .start⟩ }

/-- Both calls read and count before either sends. -/
def cappedLabels : List (Fin 2 × Int × Bool) :=
  [(eventLoop, 0, false), (checker, 0, false), (eventLoop, 0, false), (checker, 0, false),
    (eventLoop, 0, true), (checker, 0, true)]

def cappedEnd : State (Fin 2) :=
  (next (next (next (next (next (next cappedCalls eventLoop 0).1 checker 0).1 eventLoop 0).1
    checker 0).1 eventLoop 0).1 checker 0).1

/-- Two overlapping calls each count no live instance and both send: the job
ends with two live instances against a cap of one. -/
theorem instance_cap_overrun :
    Run Step cappedCalls cappedLabels cappedEnd ∧ liveCount 1 cappedEnd.db.instanceInfo = 2 :=
  ⟨.cons rfl (.cons rfl (.cons rfl (.cons rfl (.cons rfl (.cons rfl (.nil _)))))), by decide⟩

end Dispatch
