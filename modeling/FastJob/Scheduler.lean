import FastJob.Storage

/-!
# The job scheduler: `Scheduler::schedule_cron_job` and `schedule_frequent_job`

A pass cuts the app ids into chunks of ten and runs one body per chunk under
`block_on`. The body's `Result` is dropped, so a `?` inside it only ends that
chunk, while a panic ends the pass.

The cron body reads the chunk's due CRON jobs, builds an instance row for each
with `InstanceInfo::create`, maps each job id to the row's `id`, saves the batch
`instances`, and then, job by job, adds a timer task and refreshes the job's
next trigger time. `InstanceInfo::create` leaves `id` at `None` (the
`AUTO_INCREMENT` key of a row not saved yet), so `instance_info.id.unwrap()`
panics on the first job, and the batch it would save is `instances`, which stays
the empty vector. The second loop is modelled as written although no pass
reaches it.

The frequent body reads the chunk's running FixRate and FixDelay jobs, drops
those whose id is among the `job_id`s that `find_frequent_instance_by_job_id`
returns for the chunk, and saves an instance of each job left. The argument
`instance_info.id.unwrap()` of the following `dispatch` call (a future that is
never awaited) then panics on the unsaved row's `None`.

`calculate_next_trigger_time` rests on the cron crate, a parameter `Cron` here:
`Schedule::from_str` and, for a parsed schedule, the first fire time
`upcoming(Local)` yields after a wall-clock time.
-/

namespace Scheduler

open Storage

/-- `SCHEDULE_INTERVAL` in milliseconds. -/
def scheduleInterval : Int := 10000

/-- `SchedError` as the modelled functions raise it. The source converts storage
and cron errors with `?` although it has no variant for them; the model keeps
them as `storage` and `cronParse`. -/
inductive SchedError where
  | storage (source : StorageError)
  | cronParse (expression : String)
  | constructorTaskFailed (taskId : Nat)
  deriving DecidableEq, Repr

/-- What the scheduler uses of the cron crate: `Schedule::from_str`, `none` on a
parse error, and for a parsed schedule the first fire time that
`upcoming(Local).next()` yields after a wall-clock time, `none` when there is none. -/
structure Cron where
  fromStr : String → Option (Int → Option Int)

/-- delay_timer's `Task` as `build_task` makes it: its id, the `Once` frequency,
the parallel limit, and the `(job, instance_id)` its body would send. -/
structure TimerTask where
  taskId : Nat
  frequency : String
  maximunParallelRunableNum : Nat
  job : JobInfo
  instanceId : Nat
  deriving DecidableEq, Repr

/-- `Scheduler`: the tasks added to its `delay_timer`, and its `storage`. The
body of a task sends on `task_sender` without awaiting, so nothing is ever sent
and the channel is left out. -/
structure State where
  delayTimer : List TimerTask := []
  storage : Db := {}
  deriving DecidableEq, Repr

/-! ### Chunks -/

section Chunks

variable {α : Type}

/-- `<[T]>::chunks(size)` for `0 < size`, with `fuel` bounding the pieces. -/
def chunksAux (size : Nat) : Nat → List α → List (List α)
  | 0, _ => []
  | fuel + 1, l => if l.isEmpty then [] else l.take size :: chunksAux size fuel (l.drop size)

/-- `<[T]>::chunks(size)`: pieces of `size` elements, the last one shorter.
Every piece takes at least one element, so the length is fuel enough. -/
def chunks (size : Nat) (l : List α) : List (List α) := chunksAux size l.length l

theorem flatten_chunksAux {size : Nat} (hsize : 0 < size) :
    ∀ {fuel : Nat} {l : List α}, l.length ≤ fuel → (chunksAux size fuel l).flatten = l
  | 0, l, h => by
    rw [List.eq_nil_of_length_eq_zero (Nat.le_zero.mp h)]
    rfl
  | fuel + 1, [], _ => rfl
  | fuel + 1, x :: xs, h => by
    have hrest : ((x :: xs).drop size).length ≤ fuel := by
      simp only [List.length_drop, List.length_cons] at h ⊢
      omega
    rw [chunksAux, if_neg (by simp), List.flatten_cons, flatten_chunksAux hsize hrest,
      List.take_append_drop]

theorem flatten_chunks {size : Nat} (hsize : 0 < size) (l : List α) : (chunks size l).flatten = l :=
  flatten_chunksAux hsize (Nat.le_refl _)

example : chunks 10 (List.range 23) =
    [List.range 10, (List.range 10).map (· + 10), [20, 21, 22]] := by decide

end Chunks

/-- The loop over the chunks of a pass: each chunk's `block_on` result is
dropped, and a panic (`none`) ends the pass. -/
def runChunks (body : List Nat → State → Option (Except SchedError Unit) × State) :
    List (List Nat) → State → Option (Except SchedError Unit) × State
  | [], s => (some (.ok ()), s)
  | chunk :: rest, s =>
    match body chunk s with
    | (none, s) => (none, s)
    | (some _, s) => runChunks body rest s

section RunChunks

variable {body : List Nat → State → Option (Except SchedError Unit) × State}

theorem runChunks_cons_none {chunk : List Nat} {rest : List (List Nat)} {s t : State}
    (h : body chunk s = (none, t)) : runChunks body (chunk :: rest) s = (none, t) := by
  rw [runChunks, h]

theorem runChunks_cons_some {chunk : List Nat} {rest : List (List Nat)} {s t : State}
    {r : Except SchedError Unit} (h : body chunk s = (some r, t)) :
    runChunks body (chunk :: rest) s = runChunks body rest t := by
  rw [runChunks, h]

theorem runChunks_invariant (P : State → Prop) (hbody : ∀ chunk s, P s → P (body chunk s).2) :
    ∀ (cs : List (List Nat)) (s : State), P s → P (runChunks body cs s).2
  | [], _, h => h
  | chunk :: rest, s, h => by
    have hstep := hbody chunk s h
    rcases hb : body chunk s with ⟨_ | r, t⟩ <;> rw [hb] at hstep
    · rw [runChunks_cons_none hb]
      exact hstep
    · rw [runChunks_cons_some hb]
      exact runChunks_invariant P hbody rest t hstep

/-- A pass panics when one of its chunks panics and every chunk before it
either panics or leaves the state as it was. -/
theorem runChunks_panic {s : State}
    (hquiet : ∀ c, (body c s).1 ≠ none → (body c s).2 = s) :
    ∀ {cs : List (List Nat)}, (∃ c ∈ cs, (body c s).1 = none) → (runChunks body cs s).1 = none
  | [], ⟨_, hc, _⟩ => absurd hc List.not_mem_nil
  | chunk :: rest, ⟨c, hc, hpanic⟩ => by
    rcases hb : body chunk s with ⟨_ | r, t⟩
    · rw [runChunks_cons_none hb]
    · -- the chunk goes through without a change, so the panic comes later
      have ht : t = s := by simpa [hb] using hquiet chunk (by simp [hb])
      have hlater : ∃ c ∈ rest, (body c s).1 = none := by
        rcases List.mem_cons.mp hc with rfl | hc
        · rw [hb] at hpanic
          cases hpanic
        · exact ⟨c, hc, hpanic⟩
      rw [runChunks_cons_some hb, ht]
      exact runChunks_panic hquiet hlater

end RunChunks

/-! ### `refresh_job` and `build_task` -/

/-- `calculate_next_trigger_time` at wall-clock time `now`; `none` is the panic
of `unwrap` when the schedule has no upcoming fire time. -/
def calculateNextTriggerTime (cron : Cron) (now : Int) (expression : String) :
    Option (Except SchedError Int) :=
  match cron.fromStr expression with
  | none => some (.error (.cronParse expression))
  | some upcoming => (upcoming now).map .ok

/-- `refresh_job`: the job with the next fire time of its expression after
`now`, or `DISABLED` when it has no expression, written back with `update`. -/
def refreshJob (cron : Cron) (now : Int) (job : JobInfo) (db : Db) :
    Option (Except SchedError Unit) × Db :=
  let write (job : JobInfo) : Option (Except SchedError Unit) × Db :=
    match db.updateJob job with
    | (.error e, db) => (some (.error (.storage e)), db)
    | (.ok (), db) => (some (.ok ()), db)
  match job.timeExpression with
  | some express =>
    match calculateNextTriggerTime cron now express with
    | none => (none, db)
    | some (.error e) => (some (.error e), db)
    | some (.ok nextTriggerTime) => write { job with nextTriggerTime := some nextTriggerTime }
  | none => write { job with status := some JobStatus.disabled.code }

/-- `build_task`: `none` is the panic of one of its `unwrap`s. An unknown
processor type or time expression type gives `Ok(None)`, a frequency the timer
cannot parse `ConstructorTaskFailed`. -/
def buildTask (cron : Cron) (job : JobInfo) (instanceId : Nat) :
    Option (Except SchedError (Option TimerTask)) := do
  let processorType ← job.processorType
  match JobType.tryFrom processorType with
  | none => return .ok none
  | some _ =>
    let timeExpressionType ← job.timeExpressionType
    match JobTimeExpressionType.tryFrom timeExpressionType with
    | none => return .ok none
    | some _ =>
      let taskId ← job.id
      let timeExpression ← job.timeExpression
      match cron.fromStr timeExpression with
      | none => return .error (.constructorTaskFailed taskId)
      | some _ => return .ok (some ⟨taskId, timeExpression, job.concurrency.getD 1, job, instanceId⟩)

/-! ### `schedule_cron_job` -/

/-- The first loop of the cron body: `job_instance_map.insert(job.id.unwrap(),
instance_info.id.unwrap())` for the row `InstanceInfo::create` builds for each
job; `none` is a panic. -/
def jobInstanceMap (jobInfos : List JobInfo) : Option (List (Nat × Nat)) :=
  jobInfos.foldlM (fun map job => do
    let instanceInfo :=
      InstanceInfo.create job.id job.appId job.jobParams none none job.nextTriggerTime
    let k ← job.id
    let v ← instanceInfo.id
    return (k, v) :: map.filter (·.1 != k)) []

/-- `InstanceInfo::create` builds a row without its `AUTO_INCREMENT` id. -/
@[simp] theorem create_id (jobId appId : Option Nat) (jobParams instanceParams : Option String)
    (wfInstanceId : Option Nat) (expectedTriggerTime : Option Int) :
    (InstanceInfo.create jobId appId jobParams instanceParams wfInstanceId expectedTriggerTime).id =
      none := rfl

/-- The rows `InstanceInfo::create` builds have no `id`, so the first loop
panics on any job. -/
theorem jobInstanceMap_eq_none {jobInfos : List JobInfo} (h : jobInfos ≠ []) :
    jobInstanceMap jobInfos = none := by
  obtain ⟨job, jobs, rfl⟩ := List.exists_cons_of_ne_nil h
  cases hid : job.id <;> simp [jobInstanceMap, List.foldlM, hid]

/-- The second loop of the cron body: for each job its instance id from the map
(`return Ok(())` when there is none), its task added to the timer when
`build_task` gives one, and `refresh_job` with `?`. -/
def pushJobs (cron : Cron) (now : Int) (map : List (Nat × Nat)) :
    List JobInfo → State → Option (Except SchedError Unit) × State
  | [], s => (some (.ok ()), s)
  | job :: jobs, s =>
    -- `job.id.unwrap()` for the lookup, then `get_next_trigger_time().unwrap()`
    match job.id, job.nextTriggerTime with
    | none, _ => (none, s)
    | _, none => (none, s)
    | some id, some _ =>
      match map.lookup id with
      | none => (some (.ok ()), s)
      | some instanceId =>
        match buildTask cron job instanceId with
        | none => (none, s)
        | some built =>
          let s := match built with
            | .ok (some task) => { s with delayTimer := s.delayTimer ++ [task] }
            | _ => s
          match refreshJob cron now job s.storage with
          | (some (.ok ()), db) => pushJobs cron now map jobs { s with storage := db }
          | (r, db) => (r, { s with storage := db })

/-- The body of `schedule_cron_job` for one chunk of app ids. -/
def cronChunk (cron : Cron) (now : Int) (chunk : List Nat) (s : State) :
    Option (Except SchedError Unit) × State :=
  match s.storage.findCronJobs chunk (now + scheduleInterval * 2) with
  | (.error e, db) => (some (.error (.storage e)), { s with storage := db })
  | (.ok jobInfos, db) =>
    if jobInfos.isEmpty then (some (.ok ()), { s with storage := db })
    else
      match jobInstanceMap jobInfos with
      | none => (none, { s with storage := db })
      | some map =>
        -- `save_batch(instances.as_slice())` of the empty `instances`; its result is dropped
        pushJobs cron now map jobInfos { s with storage := (db.saveBatchInstance []).2 }

/-- `schedule_cron_job(ids)` at wall-clock time `now`. -/
def scheduleCronJob (cron : Cron) (now : Int) (ids : List Nat) (s : State) :
    Option (Except SchedError Unit) × State :=
  if ids.isEmpty then (some (.ok ()), s) else runChunks (cronChunk cron now) (chunks 10 ids) s

/-! ### `schedule_frequent_job` -/

/-- `job_infos.retain(|job| !job_ids.contains(&job.id.unwrap()))`; `none` is a panic. -/
def retainJobs (jobIds : List Nat) (jobInfos : List JobInfo) : Option (List JobInfo) :=
  jobInfos.filterM fun job => do
    let id ← job.id
    return !jobIds.contains id

/-- The loop of the frequent body: save an instance of each job, due now. -/
def dispatchJobs (now : Int) : List JobInfo → State → Option (Except SchedError Unit) × State
  | [], s => (some (.ok ()), s)
  | job :: jobs, s =>
    let instanceInfo := InstanceInfo.create job.id job.appId job.jobParams none none (some now)
    match s.storage.saveInstance instanceInfo with
    | (.error e, db) => (some (.error (.storage e)), { s with storage := db })
    | (.ok (), db) =>
      -- `dispatch(job.clone(), instance_info.id.unwrap())`: the argument is the
      -- unsaved row's `id`; the future the call builds is dropped unawaited
      match instanceInfo.id with
      | none => (none, { s with storage := db })
      | some _ => dispatchJobs now jobs { s with storage := db }

/-- The body of `schedule_frequent_job` for one chunk of app ids. -/
def frequentChunk (now : Int) (chunk : List Nat) (s : State) :
    Option (Except SchedError Unit) × State :=
  match s.storage.findFrequentJobs chunk with
  | (.error e, db) => (some (.error (.storage e)), { s with storage := db })
  | (.ok jobInfos, db) =>
    if jobInfos.isEmpty then (some (.ok ()), { s with storage := db })
    else
      -- the chunk of app ids is passed where job ids are expected
      match db.findFrequentInstanceByJobId chunk with
      | (.error e, db) => (some (.error (.storage e)), { s with storage := db })
      | (.ok jobIds, db) =>
        match retainJobs jobIds jobInfos with
        | none => (none, { s with storage := db })
        | some [] => (some (.ok ()), { s with storage := db })
        | some jobInfos => dispatchJobs now jobInfos { s with storage := db }

/-- `schedule_frequent_job(ids)` at wall-clock time `now`. -/
def scheduleFrequentJob (now : Int) (ids : List Nat) (s : State) :
    Option (Except SchedError Unit) × State :=
  if ids.isEmpty then (some (.ok ()), s) else runChunks (frequentChunk now) (chunks 10 ids) s

/-- Passes one after another at the wall-clock times `nows`, each on the state
the one before left; a pass that panics keeps what it wrote. -/
def passes (pass : Int → State → Option (Except SchedError Unit) × State) (nows : List Int)
    (s : State) : State :=
  nows.foldl (fun s now => (pass now s).2) s

/-! ### A cron pass writes nothing -/

/-- Neither the instance table nor the job table nor the timer changed from `s` to `t`. -/
def Untouched (s t : State) : Prop :=
  t.storage.instanceInfo = s.storage.instanceInfo ∧ t.storage.jobInfo = s.storage.jobInfo ∧
    t.delayTimer = s.delayTimer

theorem Untouched.refl (s : State) : Untouched s s := ⟨rfl, rfl, rfl⟩

theorem Untouched.trans {s t u : State} (h₁ : Untouched s t) (h₂ : Untouched t u) :
    Untouched s u :=
  ⟨h₂.1.trans h₁.1, h₂.2.1.trans h₁.2.1, h₂.2.2.trans h₁.2.2⟩

theorem untouched_afterCall (s : State) :
    Untouched s { s with storage := s.storage.afterCall } := ⟨rfl, rfl, rfl⟩

theorem findCronJobs_db {db db' : Db} {ids : List Nat} {t : Int}
    {r : Except StorageError (List JobInfo)} (h : db.findCronJobs ids t = (r, db')) :
    db' = db.afterCall := by
  rw [← Db.findCronJobs_snd db ids t, h]

theorem findCronJobs_of_noFaults {db : Db} (hf : db.faults = []) (ids : List Nat) (t : Int) :
    db.findCronJobs ids t = (.ok (db.jobInfo.filter (JobInfo.cronDue ids t)), db) :=
  Db.query_of_noFaults hf _

theorem cronDue_app {job : JobInfo} {ids : List Nat} {t : Int} (h : job.cronDue ids t = true) :
    ∃ a, job.appId = some a ∧ a ∈ ids := by
  cases happ : job.appId <;> simp_all [JobInfo.cronDue]

theorem cronDue_chunk {job : JobInfo} {ids c : List Nat} {t : Int} {a : Nat}
    (happ : job.appId = some a) (hc : a ∈ c) (h : job.cronDue ids t = true) :
    job.cronDue c t = true := by
  simp_all [JobInfo.cronDue]

section CronPass

variable {cron : Cron} {now : Int}

/-- A cron chunk changes no table and no timer: when it finds a job, the first
loop panics before the batch save and before the timer. -/
theorem cronChunk_untouched (chunk : List Nat) (s : State) :
    Untouched s (cronChunk cron now chunk s).2 := by
  unfold cronChunk
  split
  · next heq =>
    rw [findCronJobs_db heq]
    exact untouched_afterCall s
  · next jobInfos _ heq =>
    rw [findCronJobs_db heq]
    split
    · exact untouched_afterCall s
    · next hne =>
      rw [jobInstanceMap_eq_none (by simpa using hne)]
      exact untouched_afterCall s

theorem cronChunk_panics {chunk : List Nat} {s : State} (hf : s.storage.faults = [])
    (hne : s.storage.jobInfo.filter (JobInfo.cronDue chunk (now + scheduleInterval * 2)) ≠ []) :
    (cronChunk cron now chunk s).1 = none := by
  unfold cronChunk
  rw [findCronJobs_of_noFaults hf]
  simp only [List.isEmpty_iff, hne, if_false, jobInstanceMap_eq_none hne]

theorem cronChunk_quiet {chunk : List Nat} {s : State} (hf : s.storage.faults = [])
    (h : (cronChunk cron now chunk s).1 ≠ none) : (cronChunk cron now chunk s).2 = s := by
  by_cases hne : s.storage.jobInfo.filter (JobInfo.cronDue chunk (now + scheduleInterval * 2)) = []
  · unfold cronChunk
    rw [findCronJobs_of_noFaults hf]
    simp [hne]
  · exact absurd (cronChunk_panics hf hne) h

end CronPass

/-- A pass of `schedule_cron_job` writes no instance row, refreshes no job and adds no
task to the timer; with no storage fault, a pass that finds a due CRON job panics. -/
theorem cron_pass_never_schedules (cron : Cron) (now : Int) (ids : List Nat) (s : State) :
    Untouched s (scheduleCronJob cron now ids s).2 ∧
    (s.storage.faults = [] →
      (∃ job ∈ s.storage.jobInfo, job.cronDue ids (now + scheduleInterval * 2) = true) →
      (scheduleCronJob cron now ids s).1 = none) := by
  constructor
  · unfold scheduleCronJob
    split
    · exact Untouched.refl s
    · exact runChunks_invariant (Untouched s) (fun c t h => h.trans (cronChunk_untouched c t))
        _ s (Untouched.refl s)
  · rintro hf ⟨job, hjob, hdue⟩
    obtain ⟨a, happ, ha⟩ := cronDue_app hdue
    -- the chunk that holds the job's app finds it
    have hflat : a ∈ (chunks 10 ids).flatten := by rw [flatten_chunks (by decide)]; exact ha
    obtain ⟨c, hc, hac⟩ := List.mem_flatten.mp hflat
    have hfound : s.storage.jobInfo.filter (JobInfo.cronDue c (now + scheduleInterval * 2)) ≠ [] :=
      List.ne_nil_of_mem (List.mem_filter.mpr ⟨hjob, cronDue_chunk happ hac hdue⟩)
    unfold scheduleCronJob
    rw [if_neg (by simpa using List.ne_nil_of_mem ha)]
    exact runChunks_panic (fun _ h => cronChunk_quiet hf h) ⟨c, hc, cronChunk_panics hf hfound⟩

/-- Write-ahead for the cron pass. Whatever the app ids, the storage and its faults,
every task a pass of `schedule_cron_job` adds to the timer has, once the pass is
over, an instance row of its job that waits for dispatch at the job's next trigger
time and carries the task's instance id. It holds because no pass adds a task: a
pass writes no instance row, refreshes no job and leaves the timer as it was, and
with no storage fault a pass that finds a due CRON job of one of its apps panics. -/
theorem cron_pass_write_ahead (cron : Cron) (now : Int) (ids : List Nat) (s : State) :
    (∃ added, (scheduleCronJob cron now ids s).2.delayTimer = s.delayTimer ++ added ∧
      ∀ task ∈ added, ∃ row ∈ (scheduleCronJob cron now ids s).2.storage.instanceInfo,
        row.jobId = task.job.id ∧ row.status = some InstanceStatus.waitingDispatch.code ∧
        row.expectedTriggerTime = task.job.nextTriggerTime ∧ row.instanceId = some task.instanceId) ∧
    Untouched s (scheduleCronJob cron now ids s).2 ∧
    (s.storage.faults = [] →
      (∃ job ∈ s.storage.jobInfo, job.cronDue ids (now + scheduleInterval * 2) = true) →
      (scheduleCronJob cron now ids s).1 = none) := by
  obtain ⟨huntouched, hpanic⟩ := cron_pass_never_schedules cron now ids s
  refine ⟨⟨[], by rw [huntouched.2.2, List.append_nil], by simp⟩, huntouched, hpanic⟩

/-- Fire times every ten seconds: after `t`, the next multiple of 10000 ms. -/
def tenSeconds (t : Int) : Option Int := some ((t / 10000 + 1) * 10000)

/-- The cron crate with one expression, every ten seconds. -/
def tenSecondCron : Cron := ⟨fun e => if e = "*/10 * * * * *" then some tenSeconds else none⟩

/-- A running CRON job of app 1, every ten seconds, next due at 10000 ms. -/
def dueCronJob : JobInfo :=
  { id := some 1, appId := some 1, processorType := some 1, status := some JobStatus.running.code,
    timeExpression := some "*/10 * * * * *",
    timeExpressionType := some JobTimeExpressionType.cron.code, nextTriggerTime := some 10000 }

/-- The pass for app 1 at time 0 hands nothing to the timer, and panics. -/
theorem cron_pass_write_ahead_on_dueCronJob :
    ({ storage := { jobInfo := [dueCronJob] } } : State).storage.faults = [] ∧
    dueCronJob.cronDue [1] (0 + scheduleInterval * 2) = true ∧
    Untouched { storage := { jobInfo := [dueCronJob] } }
      (scheduleCronJob tenSecondCron 0 [1] { storage := { jobInfo := [dueCronJob] } }).2 ∧
    (scheduleCronJob tenSecondCron 0 [1] { storage := { jobInfo := [dueCronJob] } }).1 = none :=
  have hdue : dueCronJob.cronDue [1] (0 + scheduleInterval * 2) = true := by decide
  ⟨rfl, hdue, (cron_pass_write_ahead tenSecondCron 0 [1] _).2.1,
    (cron_pass_write_ahead tenSecondCron 0 [1] _).2.2 rfl
      ⟨dueCronJob, List.mem_singleton_self _, hdue⟩⟩

/-! ### Passes instantiate no fire time twice -/

theorem passes_untouched {pass : Int → State → Option (Except SchedError Unit) × State}
    (hpass : ∀ now s, Untouched s (pass now s).2) (nows : List Int) (s : State) :
    Untouched s (passes pass nows s) := by
  induction nows generalizing s with
  | nil => exact Untouched.refl s
  | cons now nows ih => exact (hpass now s).trans (ih (pass now s).2)

/-- No cron fire time is instantiated twice. Over any run of `schedule_cron_job`
passes, at any wall-clock times and with any storage faults, the instance rows the
passes add have, for each job, strictly increasing expected trigger times, each a
fire time of the job's expression; and every task they add to the timer is of a
job whose next trigger time the passes moved past the task's. It holds because
the passes add no row and no task. -/
theorem cron_passes_instantiate_once (cron : Cron) (nows : List Int) (ids : List Nat)
    (s : State) :
    ∃ created handed,
      (passes (fun now => scheduleCronJob cron now ids) nows s).storage.instanceInfo =
        s.storage.instanceInfo ++ created ∧
      (passes (fun now => scheduleCronJob cron now ids) nows s).delayTimer = s.delayTimer ++ handed ∧
      (∀ j, (created.filterMap fun row =>
        if row.jobId = some j then row.expectedTriggerTime else none).Pairwise (· < ·)) ∧
      (∀ row ∈ created, ∃ job ∈ s.storage.jobInfo, row.jobId = job.id ∧
        ∃ expression upcoming time t, job.timeExpression = some expression ∧
          cron.fromStr expression = some upcoming ∧ row.expectedTriggerTime = some time ∧
          upcoming t = some time) ∧
      (∀ task ∈ handed, ∃ job ∈ (passes (fun now => scheduleCronJob cron now ids) nows s).storage.jobInfo,
        job.id = task.job.id ∧ ∃ scheduled next, task.job.nextTriggerTime = some scheduled ∧
          job.nextTriggerTime = some next ∧ scheduled < next) ∧
      created = [] ∧ handed = [] := by
  have huntouched := passes_untouched
    (fun now s => (cron_pass_never_schedules cron now ids s).1) nows s
  refine ⟨[], [], by rw [huntouched.1, List.append_nil], by rw [huntouched.2.2, List.append_nil],
    fun j => List.Pairwise.nil, by simp, by simp, rfl, rfl⟩

/-! ### Frequent passes pile up instances -/

/-- The live instances of job `j`: its rows in a generalized running status. -/
def runningCount (j : Nat) (rows : List InstanceInfo) : Nat :=
  rows.countP (InstanceInfo.hasStatus j generalizedRunningStatus)

/-- App `a`'s one frequent job `job`, whose id `j` is not among the app ids
`ids` of the pass, every instance row a row of `job`, and no storage fault. -/
structure FrequentLoop (ids : List Nat) (a j : Nat) (job : JobInfo) (s : State) : Prop where
  faults : s.storage.faults = []
  jobInfo : s.storage.jobInfo = [job]
  id : job.id = some j
  frequent : job.frequentOf [a] = true
  app : a ∈ ids
  notApp : j ∉ ids
  rows : ∀ r ∈ s.storage.instanceInfo, r.jobId = some j

theorem frequentOf_chunk {job : JobInfo} {a : Nat} (h : job.frequentOf [a] = true) (c : List Nat) :
    job.frequentOf c = decide (a ∈ c) := by
  cases happ : job.appId <;> simp_all [JobInfo.frequentOf]

theorem insertRow_of_none {α : Type} {key : α → Option Nat} {setKey : α → Nat → α}
    {unique : α → Option String} {rows : List α} {row : α} (hkey : key row = none)
    (hunique : unique row = none) :
    insertRow key setKey unique rows row =
      .ok (rows ++ [setKey row (rows.foldr (fun r m => max ((key r).getD 0) m) 0 + 1)]) := by
  simp [insertRow, hkey, hunique]

section FrequentLoop

variable {ids : List Nat} {a j : Nat} {job : JobInfo} {s : State}

theorem frequentChunk_other (h : FrequentLoop ids a j job s) (now : Int) {c : List Nat}
    (hc : a ∉ c) :
    frequentChunk now c s = (some (.ok ()), s) := by
  unfold frequentChunk
  rw [Db.findFrequentJobs, Db.query_of_noFaults h.faults, h.jobInfo]
  simp [frequentOf_chunk h.frequent, hc]

theorem frequentChunk_app (h : FrequentLoop ids a j job s) (now : Int) {c : List Nat}
    (hc : a ∈ c) (hjc : j ∉ c) :
    (frequentChunk now c s).1 = none ∧ FrequentLoop ids a j job (frequentChunk now c s).2 ∧
    runningCount j (frequentChunk now c s).2.storage.instanceInfo =
      runningCount j s.storage.instanceInfo + 1 := by
  -- no row has a `job_id` among the chunk's app ids
  have hids : (s.storage.instanceInfo.filterMap fun i =>
      i.jobId.filter fun j => j ∈ c && i.status.any (· ∈ generalizedRunningStatus)) = [] := by
    rw [List.filterMap_eq_nil_iff]
    intro r hr
    simp [h.rows r hr, hjc]
  have hretain : retainJobs [] [job] = some [job] := by
    simp [retainJobs, List.filterM, List.filterAuxM, h.id]
  have hsave := Db.saveInstance_of_noFaults h.faults
    (InstanceInfo.create job.id job.appId job.jobParams none none (some now))
  rw [insertRow_of_none rfl rfl] at hsave
  unfold frequentChunk
  rw [Db.findFrequentJobs, Db.query_of_noFaults h.faults, h.jobInfo]
  simp only [List.filter_cons, frequentOf_chunk h.frequent, hc, decide_true, if_true,
    List.filter_nil, List.isEmpty_cons, Bool.false_eq_true, if_false]
  rw [Db.findFrequentInstanceByJobId, Db.query_of_noFaults h.faults, hids]
  simp only [List.eraseDups_nil, hretain, dispatchJobs, hsave, create_id]
  refine ⟨trivial, ⟨h.faults, h.jobInfo, h.id, h.frequent, h.app, h.notApp, ?_⟩, ?_⟩
  · intro r hr
    rcases List.mem_append.mp hr with hr | hr
    · exact h.rows r hr
    · simp only [List.mem_singleton] at hr
      subst hr
      simp [InstanceInfo.create, h.id]
  · simp [runningCount, List.countP_append, InstanceInfo.create, InstanceInfo.hasStatus,
      generalizedRunningStatus, h.id]

/-- Over the chunks of a pass: the chunks before the app's change nothing, and
the app's chunk saves one instance and panics. -/
theorem runChunks_frequent (h : FrequentLoop ids a j job s) (now : Int) :
    ∀ {cs : List (List Nat)}, a ∈ cs.flatten → (∀ c ∈ cs, j ∉ c) →
      (runChunks (frequentChunk now) cs s).1 = none ∧
      FrequentLoop ids a j job (runChunks (frequentChunk now) cs s).2 ∧
      runningCount j (runChunks (frequentChunk now) cs s).2.storage.instanceInfo =
        runningCount j s.storage.instanceInfo + 1
  | [], ha, _ => absurd ha List.not_mem_nil
  | c :: rest, ha, hj => by
    by_cases hc : a ∈ c
    · obtain ⟨hpanic, hloop, hcount⟩ := frequentChunk_app h now hc (hj c List.mem_cons_self)
      rcases hb : frequentChunk now c s with ⟨_ | r, t⟩ <;> rw [hb] at hpanic hloop hcount
      · rw [runChunks_cons_none hb]
        exact ⟨rfl, hloop, hcount⟩
      · cases hpanic
    · have hrest : a ∈ rest.flatten := by
        simpa [List.flatten_cons, hc] using ha
      rw [runChunks_cons_some (frequentChunk_other h now hc)]
      exact runChunks_frequent h now hrest (fun c hc => hj c (List.mem_cons_of_mem _ hc))

theorem frequent_pass (h : FrequentLoop ids a j job s) (now : Int) :
    (scheduleFrequentJob now ids s).1 = none ∧
    FrequentLoop ids a j job (scheduleFrequentJob now ids s).2 ∧
    runningCount j (scheduleFrequentJob now ids s).2.storage.instanceInfo =
      runningCount j s.storage.instanceInfo + 1 := by
  have hflat : a ∈ (chunks 10 ids).flatten := by rw [flatten_chunks (by decide)]; exact h.app
  have hj : ∀ c ∈ chunks 10 ids, j ∉ c := fun c hc hjc =>
    h.notApp (by rw [← flatten_chunks (show 0 < 10 by decide) ids]; exact List.mem_flatten.mpr ⟨c, hc, hjc⟩)
  unfold scheduleFrequentJob
  rw [if_neg (by simpa using List.ne_nil_of_mem h.app)]
  exact runChunks_frequent h now hflat hj

end FrequentLoop

def frequentJob : JobInfo :=
  { id := some 2, appId := some 1, status := some JobStatus.running.code,
    timeExpressionType := some JobTimeExpressionType.fixRate.code }

theorem frequentLoop_frequentJob :
    FrequentLoop [1] 1 2 frequentJob { storage := { jobInfo := [frequentJob] } } :=
  ⟨rfl, rfl, rfl, by decide, by decide, by decide, fun _ hr => absurd hr List.not_mem_nil⟩

end Scheduler
