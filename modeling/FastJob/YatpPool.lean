import FastJob.FuturePool

/-!
# Building pools (`utils::yatp_pool`) and the workers of `SchedPool::new`

`YatpPoolBuilder` collects the settings of a pool, and `build_future_pool` hands
its name, its maximum thread count and its task cap to `FuturePool::from_pool`.
`config` takes the thread counts, the stack size and the cap from a `Config`, the
cap as `workers.saturating_mul(max_tasks_per_worker)`.

`SchedPool::new(pool_size, name_prefix)` builds a pool of `pool_size` threads with
the cap 1024 and then, from the constructing thread, spawns one `Worker::run` loop
per thread, dropping the `Result` of each `spawn`. A worker's loop returns only
after the pool has shut down, so no task finishes while the constructor runs, and
its spawns are a run of the `FuturePool` steps of one thread.
-/
namespace YatpPool

open FuturePool Transition

/-- `yatp_pool::Config`. -/
structure Config where
  workers : Nat
  maxTasksPerWorker : Nat
  stackSize : Nat
  deriving DecidableEq, Repr

/-- `Config::default`. -/
def Config.default : Config := ⟨2, usizeMax, 2000000⟩

/-- `usize::saturating_mul`. -/
def saturatingMul (a b : Nat) : Nat := min (a * b) usizeMax

/-- The settings of a `YatpPoolBuilder` that `build_future_pool` reads. -/
structure YatpPoolBuilder where
  namePrefix : Option String
  minThreadCount : Nat
  maxThreadCount : Nat
  stackSize : Nat
  maxTasks : Nat
  deriving DecidableEq, Repr

namespace YatpPoolBuilder

/-- `YatpPoolBuilder::new`: one thread and no cap. -/
def new : YatpPoolBuilder := ⟨none, 1, 1, 0, usizeMax⟩

/-- `YatpPoolBuilder::thread_count`. -/
def threadCount (b : YatpPoolBuilder) (minThreadCount maxThreadCount : Nat) : YatpPoolBuilder :=
  { b with minThreadCount, maxThreadCount }

/-- `YatpPoolBuilder::stack_size`. -/
def setStackSize (b : YatpPoolBuilder) (val : Nat) : YatpPoolBuilder := { b with stackSize := val }

/-- `YatpPoolBuilder::max_tasks`. -/
def setMaxTasks (b : YatpPoolBuilder) (tasks : Nat) : YatpPoolBuilder := { b with maxTasks := tasks }

/-- `YatpPoolBuilder::name_prefix`. -/
def setNamePrefix (b : YatpPoolBuilder) (val : String) : YatpPoolBuilder :=
  { b with namePrefix := some val }

/-- `YatpPoolBuilder::config`. -/
def config (b : YatpPoolBuilder) (config : Config) : YatpPoolBuilder :=
  ((b.threadCount config.workers config.workers).setStackSize config.stackSize).setMaxTasks
    (saturatingMul config.workers config.maxTasksPerWorker)

/-- What `build_future_pool` hands to `FuturePool::from_pool`: the name, the pool size
and the cap. -/
def buildFuturePool (b : YatpPoolBuilder) : String × Nat × Nat :=
  (b.namePrefix.getD "yatp_pool", b.maxThreadCount, b.maxTasks)

end YatpPoolBuilder

/-! ### The spawns of `SchedPool::new` -/

/-- The builder of `SchedPool::new(pool_size, name_prefix)`. -/
def schedPoolBuilder (poolSize : Nat) (namePrefix : String) : YatpPoolBuilder :=
  ((YatpPoolBuilder.new.threadCount poolSize poolSize).setMaxTasks 1024).setNamePrefix namePrefix

variable {ι : Type} [DecidableEq ι]

/-- The steps of one `pool.spawn(..)` by the thread `w`: `gate_spawn` with its answer
and, when it passes, the `fetch_add` and the spawn. -/
def spawnLabels (maxTasks : Nat) (w : ι) (s : State ι) : List (Label ι) :=
  if (gateSpawn maxTasks s.runningTaskCount).isOk then [.gate w true, .fetchAdd w, .spawn w]
  else [.gate w false]

/-- `n` spawns in a row by the thread `w`, each `Result` dropped. -/
def spawnAll (maxTasks : Nat) (w : ι) : Nat → State ι → Option (State ι)
  | 0, s => some s
  | n + 1, s => (exec (next maxTasks) s (spawnLabels maxTasks w s)).bind (spawnAll maxTasks w n)

/-- The loop of `SchedPool::new`: a spawn of a worker per thread, by the constructing
thread, on the pool it built. -/
def schedPoolNew (poolSize : Nat) (namePrefix : String) (s : State Unit) : Option (State Unit) :=
  spawnAll (schedPoolBuilder poolSize namePrefix).buildFuturePool.2.2 () poolSize s

/-- A step `gate_spawn` refuses. -/
def Label.refused : Label ι → Bool
  | .gate _ false => true
  | _ => false

theorem gateSpawn_isOk_of_ne {maxTasks : Nat} (hmax : maxTasks ≠ usizeMax) (k : Nat) :
    (gateSpawn maxTasks k).isOk = decide (k < maxTasks) := by
  unfold gateSpawn
  rw [if_neg hmax]
  by_cases hk : k < maxTasks
  · simp [getRunningTaskCount, hk, Nat.not_le.mpr hk, Except.isOk, Except.toBool]
  · simp [getRunningTaskCount, hk, Nat.not_lt.mp hk, Except.isOk, Except.toBool]

theorem callers_after_spawn {s : State ι} {w : ι} (hw : s.callers w = .idle) :
    Function.update (Function.update (Function.update s.callers w .gated) w .added) w .idle =
      s.callers := by
  rw [Function.update_idem, Function.update_idem, ← hw, Function.update_eq_self]

/-- One spawn by an idle thread on a pool whose counter counts its tasks: below the
cap the task is counted and spawned; at the cap it is refused and nothing changes. -/
theorem exec_spawnLabels {maxTasks : Nat} (hmax : maxTasks ≠ usizeMax) {w : ι} {s : State ι}
    (hw : s.callers w = .idle) (hcount : s.runningTaskCount = s.tasks) :
    exec (next maxTasks) s (spawnLabels maxTasks w s) =
        some (if s.tasks < maxTasks then
          { s with runningTaskCount := s.tasks + 1, tasks := s.tasks + 1 } else s) ∧
      (spawnLabels maxTasks w s).countP Label.refused = if s.tasks < maxTasks then 0 else 1 := by
  have hok := gateSpawn_isOk_of_ne hmax s.tasks
  unfold spawnLabels
  rw [hcount, hok]
  by_cases hlt : s.tasks < maxTasks
  · simp only [hlt, decide_true, if_true]
    refine ⟨?_, rfl⟩
    simp only [exec, next, hw, hcount, hok, hlt, decide_true, and_self, if_true, Option.bind_some,
      State.setCaller, Function.update_self, callers_after_spawn hw]
  · simp only [hlt, decide_false, Bool.false_eq_true, if_false]
    refine ⟨?_, rfl⟩
    simp only [exec, next, hw, hcount, hok, hlt, decide_false, and_self, if_true,
      Option.bind_some, Bool.false_eq_true, if_false]

/-- A thread alone on a pool, spawning `n` tasks in a row below a cap short of
`usize::MAX`: the spawns are a run of the pool's steps after which the tasks, and the
counter, reach the cap or the number asked for, and every other spawn is refused. -/
theorem spawnAll_spec {maxTasks : Nat} (hmax : maxTasks ≠ usizeMax) {w : ι} (n : Nat)
    {s : State ι} (hw : s.callers w = .idle) (hcount : s.runningTaskCount = s.tasks)
    (hle : s.tasks ≤ maxTasks) :
    ∃ labels t, spawnAll maxTasks w n s = some t ∧ exec (next maxTasks) s labels = some t ∧
      t.tasks = min (s.tasks + n) maxTasks ∧ t.runningTaskCount = t.tasks ∧
      t.callers = s.callers ∧ labels.countP Label.refused = s.tasks + n - min (s.tasks + n) maxTasks := by
  induction n generalizing s with
  | zero => exact ⟨[], s, rfl, rfl, by simp [hle], hcount, rfl, by simp [hle]⟩
  | succ n ih =>
    obtain ⟨hexec, hrefused⟩ := exec_spawnLabels hmax hw hcount
    set s' := if s.tasks < maxTasks then
      { s with runningTaskCount := s.tasks + 1, tasks := s.tasks + 1 } else s with hs'
    have htasks' : s'.tasks = if s.tasks < maxTasks then s.tasks + 1 else s.tasks := by
      rw [hs']; split <;> rfl
    have hw' : s'.callers w = .idle := by rw [hs']; split <;> exact hw
    have hcount' : s'.runningTaskCount = s'.tasks := by rw [hs']; split <;> simp [hcount]
    have hle' : s'.tasks ≤ maxTasks := by rw [htasks']; split <;> omega
    obtain ⟨labels, t, hall, hrun, htasks, hcnt, hcallers, hcp⟩ := ih hw' hcount' hle'
    refine ⟨spawnLabels maxTasks w s ++ labels, t, ?_, ?_, ?_, hcnt, ?_, ?_⟩
    · rw [spawnAll, hexec, Option.bind_some, hall]
    · rw [exec_append, hexec, Option.bind_some, hrun]
    · rw [htasks, htasks']
      split <;> omega
    · rw [hcallers, hs']
      split <;> rfl
    · rw [List.countP_append, hcp, hrefused, htasks']
      split <;> omega

/-- `SchedPool::new` starts at most 1024 workers. On a fresh pool, the `pool_size`
spawns of `SchedPool::new` are a run of the pool's steps that leaves exactly
`min pool_size 1024` worker loops spawned and counted; each of the other spawns is
refused with `Full`, an error the constructor drops. -/
theorem sched_pool_new_starts_capped (poolSize : Nat) (namePrefix : String) {s : State Unit}
    (hs : Init s) :
    ∃ labels t, schedPoolNew poolSize namePrefix s = some t ∧ Run (Step 1024) s labels t ∧
      t.tasks = min poolSize 1024 ∧ t.runningTaskCount = min poolSize 1024 ∧
      labels.countP Label.refused = poolSize - min poolSize 1024 := by
  obtain ⟨hcount, htasks, hidle⟩ := hs
  have hmax : (1024 : Nat) ≠ usizeMax := by decide
  obtain ⟨labels, t, hall, hrun, ht, hcnt, -, hcp⟩ :=
    spawnAll_spec hmax poolSize (hidle ()) (by rw [hcount, htasks]; rfl) (by omega)
  rw [htasks, Nat.zero_add] at ht hcp
  exact ⟨labels, t, hall, Run.of_exec hrun, ht, by rw [hcnt, ht], hcp⟩

def idlePool : State Unit := ⟨0, 0, fun _ => .idle⟩

theorem sched_pool_new_starts_capped_at_2000 :
    Init idlePool ∧ ∃ labels t, schedPoolNew 2000 "sched" idlePool = some t ∧
      Run (Step 1024) idlePool labels t ∧ t.tasks = min 2000 1024 ∧
      t.runningTaskCount = min 2000 1024 ∧ labels.countP Label.refused = 2000 - min 2000 1024 :=
  ⟨⟨rfl, rfl, fun _ => rfl⟩, sched_pool_new_starts_capped 2000 "sched" ⟨rfl, rfl, fun _ => rfl⟩⟩

end YatpPool
