import FastJob.WorkerCluster
import FastJob.StatusChecker
import FastJob.Election

/-!
# The workers map of `WorkerManager` (`worker_manager.rs`)

`WorkerManager.workers` holds a `WorkerClusterHolder` for each app id. Three
functions of the manager touch it:

* `handle_worker_heartbeat` hands the heartbeat to the holder of its app, which
  `entry(app_id).or_insert(WorkerClusterHolder::new(app_name))` creates when the
  app has none;
* `sched`, the schedule pass, reads the ids of the apps this server holds and,
  when it finds some, `clean_useless_worker` keeps only their holders;
* `handle_query_executor_cluster` reads the request's job and, when it belongs to
  the request's app, looks the app up in `self.workers.take()`: `RefCell::take`
  leaves an empty map in the manager.

`find_job_info_by_id()` and `find_all_app_id_by_current_server()` are called
without their argument; they are read as given the request's job id and the
manager's address. The `DashMap` is a function of the app id, as nothing reads
its iteration order. Each call reads the database as it then is, changed by
other passes and servers in between, so a call carries that database.

Against the map stands a log per app: the heartbeats of the app since its holder
was last dropped. A schedule pass drops the apps it does not find held here, and
an executor-cluster query that passes its permission check drops every app.
-/
namespace WorkerRegistry

open Storage WorkerCluster Transition
open StatusChecker (findAllAppIdByCurrentServer)
open Election (WorkerManagerError)

/-- `GrpcReturn`. -/
structure GrpcReturn where
  code : Nat
  msg : String
  deriving DecidableEq, Repr

/-- `GrpcReturn::success()`, with the code `SUCCESS`. -/
def GrpcReturn.success : Option GrpcReturn := some ⟨200, ""⟩

/-- `GrpcReturn::empty()`. -/
def GrpcReturn.empty : Option GrpcReturn := none

/-- `WorkerManager.workers`: the holder of each app id. -/
abbrev Workers := Nat → Option WorkerClusterHolder

/-- `RefCell::new(DashMap::default())`, which is also what `RefCell::take` leaves. -/
def Workers.empty : Workers := fun _ => none

/-- `handle_worker_heartbeat`, for a request of the app `appId`. -/
def handleWorkerHeartbeat (workers : Workers) (appId : Nat) (req : HeartBeatRequest) :
    Option GrpcReturn × Workers :=
  let holder := (workers appId).getD WorkerClusterHolder.new
  (GrpcReturn.success, Function.update workers appId (some (holder.updateWorkerStatus req)))

/-- `clean_useless_worker`: `retain` the holders of the listed apps. -/
def cleanUselessWorker (workers : Workers) (appIds : List Nat) : Workers :=
  fun k => if k ∈ appIds then workers k else none

/-- `sched` up to `clean_useless_worker`: the `?` of the app-id query returns
its error, no ids leave the map, and ids keep only their holders. The schedule
passes that follow (`FastJob.Scheduler`) do not touch the map. -/
def schedWorkers (db : Db) (address : String) (workers : Workers) :
    Except WorkerManagerError Unit × Db × Workers :=
  match findAllAppIdByCurrentServer db address with
  | (.error e, db) => (.error (.workerStorageError e), db, workers)
  | (.ok none, db) => (.ok (), db, workers)
  | (.ok (some ids), db) => (.ok (), db, cleanUselessWorker workers ids)

/-- `find_job_info_by_id`: `fetch` of `job_info` by `id`. -/
def findJobInfoById (db : Db) (id : Nat) : Except StorageError (Option JobInfo) × Db :=
  db.query fun db => fetchOne (db.jobInfo.filter (·.id == some id))

/-- The errors `handle_query_executor_cluster` returns. -/
inductive QueryError where
  | workerStorageError (source : StorageError)
  | permissionDenied
  deriving DecidableEq, Repr

/-- `handle_query_executor_cluster`; `none` is the panic of `job_info.app_id.unwrap()`. -/
def handleQueryExecutorCluster (db : Db) (workers : Workers) (jobId appId : Nat) :
    Option (Except QueryError (Option GrpcReturn) × Db × Workers) :=
  match findJobInfoById db jobId with
  | (.error e, db) => some (.error (.workerStorageError e), db, workers)
  | (.ok none, db) => some (.ok GrpcReturn.empty, db, workers)
  | (.ok (some jobInfo), db) =>
    jobInfo.appId.map fun jobApp =>
      if jobApp ≠ appId then (.error .permissionDenied, db, workers)
      -- the holder is looked up in what `self.workers.take()` returns
      else (.ok GrpcReturn.empty, db, Workers.empty)

/-! ### Runs of the map -/

/-- The calls that touch the map, each with the database it reads. -/
inductive Event where
  | heartbeat (appId : Nat) (req : HeartBeatRequest)
  | sched (db : Db)
  | queryExecutorCluster (db : Db) (jobId appId : Nat)

/-- One call on the map of the manager at `address`; `none` is a panic. -/
def next (address : String) (workers : Workers) : Event → Option Workers
  | .heartbeat appId req => some (handleWorkerHeartbeat workers appId req).2
  | .sched db => some (schedWorkers db address workers).2.2
  | .queryExecutorCluster db jobId appId =>
    (handleQueryExecutorCluster db workers jobId appId).map (·.2.2)

def Step (address : String) (workers : Workers) (e : Event) (workers' : Workers) : Prop :=
  next address workers e = some workers'

/-- For each app, the heartbeats since its holder was last dropped; `none` while
it has no holder. -/
abbrev Log := Nat → Option (List HeartBeatRequest)

/-- Whether a call drops the holder of the app `a`: a schedule pass that finds
apps held here, `a` not among them, and an executor-cluster query past its
permission check, which drops every app. -/
def Event.drops (address : String) (a : Nat) : Event → Bool
  | .heartbeat _ _ => false
  | .sched db =>
    match (findAllAppIdByCurrentServer db address).1 with
    | .ok (some ids) => !ids.contains a
    | _ => false
  | .queryExecutorCluster db jobId appId =>
    match (findJobInfoById db jobId).1 with
    | .ok (some jobInfo) => jobInfo.appId == some appId
    | _ => false

/-- What a call does to the log. -/
def Event.record (address : String) (log : Log) : Event → Log
  | .heartbeat appId req => Function.update log appId (some ((log appId).getD [] ++ [req]))
  | e => fun a => if e.drops address a then none else log a

/-- The log after `events`, from an empty map. -/
def since (address : String) (events : List Event) : Log :=
  events.foldl (Event.record address) fun _ => none

/-- The map holds, for each app, the holder that its logged heartbeats build from
an empty one. -/
def Abstracts (workers : Workers) (log : Log) : Prop :=
  ∀ a, workers a = (log a).map WorkerClusterHolder.new.receive

theorem receive_append_singleton (h : WorkerClusterHolder) (hbs : List HeartBeatRequest)
    (req : HeartBeatRequest) : h.receive (hbs ++ [req]) = (h.receive hbs).updateWorkerStatus req := by
  simp [WorkerClusterHolder.receive, List.foldl_append]

theorem abstracts_heartbeat {address : String} {workers : Workers} {log : Log}
    (habs : Abstracts workers log)
    (appId : Nat) (req : HeartBeatRequest) :
    Abstracts (handleWorkerHeartbeat workers appId req).2 ((Event.heartbeat appId req).record address log) := by
  intro a
  simp only [handleWorkerHeartbeat, Event.record]
  by_cases ha : a = appId
  · subst ha
    -- an app with no holder starts from an empty one, as the empty log does
    have hholder : (workers a).getD WorkerClusterHolder.new =
        WorkerClusterHolder.new.receive ((log a).getD []) := by
      rw [habs a]
      cases log a <;> rfl
    rw [Function.update_self, Function.update_self, hholder, Option.map_some,
      receive_append_singleton]
  · rw [Function.update_of_ne ha, Function.update_of_ne ha]
    exact habs a

theorem abstracts_sched {address : String} {workers : Workers} {log : Log}
    (habs : Abstracts workers log) (db : Db) :
    Abstracts (schedWorkers db address workers).2.2 ((Event.sched db).record address log) := by
  intro a
  simp only [schedWorkers, Event.record, Event.drops]
  -- the pass and the log read the same answer of the app-id query
  split
  · next e db' hq =>
    simpa [hq] using habs a
  · next db' hq =>
    simpa [hq] using habs a
  · next ids db' hq =>
    by_cases ha : a ∈ ids
    · simpa [hq, cleanUselessWorker, ha] using habs a
    · simp [hq, cleanUselessWorker, ha]

theorem abstracts_query {address : String} {workers workers' : Workers} {log : Log}
    (habs : Abstracts workers log) {db : Db} {jobId appId : Nat}
    (h : (handleQueryExecutorCluster db workers jobId appId).map (·.2.2) = some workers') :
    Abstracts workers' ((Event.queryExecutorCluster db jobId appId).record address log) := by
  intro a
  simp only [handleQueryExecutorCluster, Event.record, Event.drops] at h ⊢
  split at h
  · next e db' hq =>
    cases h
    simpa [hq] using habs a
  · next db' hq =>
    cases h
    simpa [hq] using habs a
  · next jobInfo db' hq =>
    cases happ : jobInfo.appId with
    | none => simp [happ] at h
    | some jobApp =>
      by_cases heq : jobApp = appId
      · -- past the permission check the map is the empty one `take` leaves
        simp only [happ, heq, ne_eq, not_true_eq_false, if_false, Option.map_some,
          Option.some.injEq] at h
        subst h
        simp [hq, happ, heq, Workers.empty]
      · simp only [happ, heq, ne_eq, not_false_eq_true, if_true, Option.map_some,
          Option.some.injEq] at h
        subst h
        simpa [hq, happ, heq] using habs a

theorem abstracts_next {address : String} {workers workers' : Workers} {log : Log}
    (habs : Abstracts workers log) {e : Event} (h : next address workers e = some workers') :
    Abstracts workers' (e.record address log) := by
  cases e with
  | heartbeat appId req =>
    cases h
    exact abstracts_heartbeat habs appId req
  | sched db =>
    cases h
    exact abstracts_sched habs db
  | queryExecutorCluster db jobId appId => exact abstracts_query habs h

/-- Every run from an empty map keeps the map abstracted by the log of its calls. -/
theorem abstracts_run {address : String} {events : List Event} {workers : Workers}
    (hrun : Run (Step address) Workers.empty events workers) :
    Abstracts workers (since address events) :=
  hrun.simulates Abstracts (Event.record address) (fun _ _ _ _ habs h => abstracts_next habs h)
    fun _ => rfl

theorem shows_receive_new (hbs : List HeartBeatRequest) (x : String) :
    Shows x none hbs ((WorkerClusterHolder.new.receive hbs).workers.lookup x) := by
  induction hbs using List.reverseRecOn with
  | nil => exact .inl ⟨rfl, by simp⟩
  | append_singleton hbs req ih =>
    rw [receive_append_singleton]
    exact shows_update ih req

/-- The workers map follows the heartbeats since each app was last dropped. After
any run of heartbeats, schedule passes and executor-cluster queries from an empty
map, an app has a holder exactly when a heartbeat of it came after the last call
that dropped it; the holder is the one those heartbeats build, and the worker of
each address in it shows the latest of them from that address. -/
theorem workers_follow_heartbeats_since_drop {address : String} {events : List Event}
    {workers : Workers} (hrun : Run (Step address) Workers.empty events workers) (a : Nat) :
    workers a = (since address events a).map WorkerClusterHolder.new.receive ∧
      ∀ hbs, since address events a = some hbs →
        ∃ h, workers a = some h ∧ ∀ x, Shows x none hbs (h.workers.lookup x) := by
  have habs := abstracts_run hrun a
  refine ⟨habs, fun hbs hsince => ⟨_, ?_, shows_receive_new hbs⟩⟩
  rw [habs, hsince, Option.map_some]

def heartbeatOf (address : String) (t : Int) : HeartBeatRequest :=
  { workerAddress := address, heartbeatTime := t }

/-- A database in which this server, at `""`, holds app 1 only. -/
def heldDb : Db := { appInfo := [{ id := some 1, currentServer := some "" }] }

/-- Heartbeats of apps 1 and 2, a schedule pass that finds only app 1 held here,
and a late heartbeat of app 1. -/
def cleanEvents : List Event :=
  [.heartbeat 1 (heartbeatOf "w1" 5), .heartbeat 2 (heartbeatOf "w2" 5), .sched heldDb,
    .heartbeat 1 (heartbeatOf "w1" 3)]

def cleanedWorkers : Workers := (exec (next "") Workers.empty cleanEvents).getD Workers.empty

theorem workers_follow_heartbeats_since_drop_on_cleanEvents :
    Run (Step "") Workers.empty cleanEvents cleanedWorkers ∧
      (cleanedWorkers 2 = (since "" cleanEvents 2).map WorkerClusterHolder.new.receive ∧
        ∀ hbs, since "" cleanEvents 2 = some hbs →
          ∃ h, cleanedWorkers 2 = some h ∧ ∀ x, Shows x none hbs (h.workers.lookup x)) :=
  have hrun : Run (Step "") Workers.empty cleanEvents cleanedWorkers := Run.of_exec rfl
  ⟨hrun, workers_follow_heartbeats_since_drop hrun 2⟩

end WorkerRegistry
