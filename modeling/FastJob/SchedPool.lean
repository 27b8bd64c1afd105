import FastJob.Transition

/-!
# The periodic task pool: `utils::sched_pool`

`SchedPool` keeps a heap of `Job`s under a mutex and runs `Worker` threads
that pop due jobs, check the job's `canceled` flag, run its closure `f`, and
push the next job of the same task back through `SharedPool::run`. The state
below is that heap (a list: only its multiset of jobs and the `peek`/`pop` of
a job with the least time matter), the `shutdown` flag, the `canceled` flags
(one `Arc<AtomicBool>` per task, named by the task's number), a monotonic
clock, and what each worker holds.

Every step is one atomic action of a thread. A worker's `execute` is split at
the points where other threads can act: the `canceled` load, the call of `f`,
its return (or panic, caught by `Worker::run`), and the re-push. What `f` does
meanwhile, even scheduling tasks or dropping the pool, is one of the other
steps of the interleaving. Labels carry what an observer sees: the task a step
acts for, and the outcome of the `canceled` check.
-/
namespace SchedPool

open Transition

/-- `JobType`: the closure and the period of a fixed-rate or fixed-delay task.
The closure is not data here; its runs are the `start`, `ret` and `panic` steps. -/
inductive JobType where
  | fixedRate (rate : Nat)
  | fixedDelay (delay : Nat)
  deriving DecidableEq, Repr

/-- `Job`: `task` names the `canceled` flag that every job of one task shares. -/
structure Job where
  typ : JobType
  time : Nat
  task : Nat
  deriving DecidableEq, Repr

/-- What a worker thread is doing. `popped` is `get_job`'s answer before the
`canceled` load in `execute`, `checked` is past it, `running` is inside `f`,
and `returned` holds the `new_job` built after `f` returned. -/
inductive Phase where
  | idle
  | popped (job : Job)
  | checked (job : Job)
  | running (job : Job)
  | returned (newJob : Job)
  | exited
  deriving DecidableEq, Repr

/-- The job a worker holds outside the heap. -/
def Phase.held : Phase → Option Job
  | .idle => none
  | .popped job => some job
  | .checked job => some job
  | .running job => some job
  | .returned newJob => some newJob
  | .exited => none

/-- A pool with workers `ι`: the `InnerPool` under the mutex, the `canceled`
flags, the number of the next task, the clock, and the workers. -/
structure Pool (ι : Type) where
  queue : List Job
  shutdown : Bool
  canceled : Nat → Bool
  nextTask : Nat
  clock : Nat
  workers : ι → Phase

/-- The actions of the pool's threads and of its owner. -/
inductive Label (ι : Type) where
  /-- `schedule_at_fixed_rate` or `schedule_at_fixed_delay` with the initial delay. -/
  | schedule (typ : JobType) (initialDelay : Nat)
  /-- `JobHandle::cancel` of a task. -/
  | cancel (task : Nat)
  /-- `Drop for SchedPool`. -/
  | drop
  /-- Time passes. -/
  | tick (d : Nat)
  /-- `get_job` pops `job`. -/
  | pop (w : ι) (job : Job)
  /-- `get_job` returns `None`: the worker's loop ends. -/
  | exit (w : ι)
  /-- The `canceled` load of `execute`; `dropped` is what it read. -/
  | check (w : ι) (task : Nat) (dropped : Bool)
  /-- `f()` is called. -/
  | start (w : ι) (task : Nat)
  /-- `f()` returns and `new_job` is built. -/
  | ret (w : ι) (task : Nat)
  /-- `f()` panics; `catch_unwind` in `Worker::run` drops the job. -/
  | panic (w : ι) (task : Nat)
  /-- `self.shared.run(new_job)`. -/
  | repush (w : ι) (task : Nat)

variable {ι : Type}

/-- `SharedPool::run`: the job is pushed, or discarded after shutdown. -/
def Pool.run (s : Pool ι) (job : Job) : Pool ι :=
  if s.shutdown then s else { s with queue := s.queue ++ [job] }

section Run

variable (s : Pool ι) (job : Job)

@[simp] theorem run_workers : (s.run job).workers = s.workers := by
  unfold Pool.run; split <;> rfl

@[simp] theorem run_canceled : (s.run job).canceled = s.canceled := by
  unfold Pool.run; split <;> rfl

@[simp] theorem run_nextTask : (s.run job).nextTask = s.nextTask := by
  unfold Pool.run; split <;> rfl

@[simp] theorem run_shutdown : (s.run job).shutdown = s.shutdown := by
  unfold Pool.run; split <;> rfl

end Run

/-- The `new_job` that `execute` builds after `f` returns at clock `now`: a
fixed-rate job is due `rate` after now, a fixed-delay job `delay` after the
time of the job that ran. -/
def Job.reschedule (job : Job) (now : Nat) : Job :=
  match job.typ with
  | .fixedRate rate => { job with time := now + rate }
  | .fixedDelay delay => { job with time := job.time + delay }

variable [DecidableEq ι]

def Pool.setWorker (s : Pool ι) (w : ι) (q : Phase) : Pool ι :=
  { s with workers := Function.update s.workers w q }

/-- One step; `none` when the action is not enabled. -/
def next (s : Pool ι) : Label ι → Option (Pool ι)
  | .schedule typ initialDelay =>
    -- a dropped pool has no owner left to schedule on it
    if s.shutdown then none
    else some { s.run ⟨typ, s.clock + initialDelay, s.nextTask⟩ with
      canceled := Function.update s.canceled s.nextTask false, nextTask := s.nextTask + 1 }
  | .cancel task =>
    if task < s.nextTask then some { s with canceled := Function.update s.canceled task true }
    else none
  | .drop => if s.shutdown then none else some { s with shutdown := true }
  | .tick d => some { s with clock := s.clock + d }
  | .pop w job =>
    if s.workers w = .idle ∧ job ∈ s.queue ∧ s.queue.all (fun q => job.time ≤ q.time) ∧
        job.time ≤ s.clock then
      some { s.setWorker w (.popped job) with queue := s.queue.erase job }
    else none
  | .exit w =>
    if s.workers w = .idle ∧ s.queue = [] ∧ s.shutdown then some (s.setWorker w .exited)
    else none
  | .check w task dropped =>
    match s.workers w with
    | .popped job =>
      if job.task = task ∧ dropped = s.canceled task then
        some (s.setWorker w (if dropped then .idle else .checked job))
      else none
    | _ => none
  | .start w task =>
    match s.workers w with
    | .checked job => if job.task = task then some (s.setWorker w (.running job)) else none
    | _ => none
  | .ret w task =>
    match s.workers w with
    | .running job =>
      if job.task = task then some (s.setWorker w (.returned (job.reschedule s.clock))) else none
    | _ => none
  | .panic w task =>
    match s.workers w with
    | .running job => if job.task = task then some (s.setWorker w .idle) else none
    | _ => none
  | .repush w task =>
    match s.workers w with
    | .returned newJob =>
      if newJob.task = task then some ((s.setWorker w .idle).run newJob) else none
    | _ => none

def Step (s : Pool ι) (l : Label ι) (t : Pool ι) : Prop := next s l = some t

/-- `SchedPool::new`: an empty heap and idle workers. -/
def Init (s : Pool ι) : Prop :=
  s.queue = [] ∧ s.shutdown = false ∧ s.canceled = (fun _ => false) ∧ s.nextTask = 0 ∧
    ∀ w, s.workers w = .idle

@[simp] theorem setWorker_workers_self (s : Pool ι) (w : ι) (q : Phase) :
    (s.setWorker w q).workers w = q := by
  simp [Pool.setWorker]

theorem setWorker_workers_of_ne (s : Pool ι) {w w' : ι} (q : Phase) (h : w' ≠ w) :
    (s.setWorker w q).workers w' = s.workers w' := by
  simp [Pool.setWorker, Function.update_of_ne h]

@[simp] theorem setWorker_queue (s : Pool ι) (w : ι) (q : Phase) :
    (s.setWorker w q).queue = s.queue := rfl

@[simp] theorem setWorker_nextTask (s : Pool ι) (w : ι) (q : Phase) :
    (s.setWorker w q).nextTask = s.nextTask := rfl

@[simp] theorem reschedule_task (job : Job) (now : Nat) :
    (job.reschedule now).task = job.task := by
  unfold Job.reschedule
  split <;> rfl

/-- The enabled actions of `next`, each with its guard and its successor state;
`next` answers `some` exactly along these moves (`move_of_next`). The `canceled`
load is split by what it reads: `dropJob` when the flag is set, `pass` when not. -/
inductive Move (s : Pool ι) : Label ι → Pool ι → Prop where
  | schedule (typ : JobType) (initialDelay : Nat) (h : s.shutdown = false) :
      Move s (.schedule typ initialDelay) { s.run ⟨typ, s.clock + initialDelay, s.nextTask⟩ with
        canceled := Function.update s.canceled s.nextTask false, nextTask := s.nextTask + 1 }
  | cancel (task : Nat) (h : task < s.nextTask) :
      Move s (.cancel task) { s with canceled := Function.update s.canceled task true }
  | drop (h : s.shutdown = false) : Move s .drop { s with shutdown := true }
  | tick (d : Nat) : Move s (.tick d) { s with clock := s.clock + d }
  | pop (w : ι) (job : Job) (hidle : s.workers w = .idle) (hmem : job ∈ s.queue)
      (hmin : s.queue.all (fun q => job.time ≤ q.time)) (hdue : job.time ≤ s.clock) :
      Move s (.pop w job) { s.setWorker w (.popped job) with queue := s.queue.erase job }
  | exit (w : ι) (hidle : s.workers w = .idle) (hempty : s.queue = []) (hdown : s.shutdown = true) :
      Move s (.exit w) (s.setWorker w .exited)
  | dropJob (w : ι) (job : Job) (hw : s.workers w = .popped job)
      (hc : s.canceled job.task = true) : Move s (.check w job.task true) (s.setWorker w .idle)
  | pass (w : ι) (job : Job) (hw : s.workers w = .popped job)
      (hc : s.canceled job.task = false) :
      Move s (.check w job.task false) (s.setWorker w (.checked job))
  | start (w : ι) (job : Job) (hw : s.workers w = .checked job) :
      Move s (.start w job.task) (s.setWorker w (.running job))
  | ret (w : ι) (job : Job) (hw : s.workers w = .running job) :
      Move s (.ret w job.task) (s.setWorker w (.returned (job.reschedule s.clock)))
  | panic (w : ι) (job : Job) (hw : s.workers w = .running job) :
      Move s (.panic w job.task) (s.setWorker w .idle)
  | repush (w : ι) (newJob : Job) (hw : s.workers w = .returned newJob) :
      Move s (.repush w newJob.task) ((s.setWorker w .idle).run newJob)

/-- Inversion of `next`: the one place where its branches are split. -/
theorem move_of_next {s t : Pool ι} {l : Label ι} (h : next s l = some t) : Move s l t := by
  cases l with
  | schedule typ initialDelay =>
    simp only [next] at h
    split at h
    · cases h
    · rename_i hs
      cases h
      exact .schedule typ initialDelay (by simpa using hs)
  | cancel task =>
    simp only [next] at h
    split at h
    · rename_i hlt
      cases h
      exact .cancel task hlt
    · cases h
  | drop =>
    simp only [next] at h
    split at h
    · cases h
    · rename_i hs
      cases h
      exact .drop (by simpa using hs)
  | tick d =>
    cases h
    exact .tick d
  | pop w job =>
    simp only [next] at h
    split at h
    · rename_i hc
      obtain ⟨hidle, hmem, hmin, hdue⟩ := hc
      cases h
      exact .pop w job hidle hmem hmin hdue
    · cases h
  | exit w =>
    simp only [next] at h
    split at h
    · rename_i hc
      obtain ⟨hidle, hempty, hdown⟩ := hc
      cases h
      exact .exit w hidle hempty hdown
    · cases h
  | check w task dropped =>
    simp only [next] at h
    split at h
    · rename_i job hw
      split at h
      · rename_i hc
        obtain ⟨rfl, rfl⟩ := hc
        cases h
        -- the branch taken is the value the load read
        cases hd : s.canceled job.task
        · exact .pass w job hw hd
        · exact .dropJob w job hw hd
      · cases h
    · cases h
  | start w task =>
    simp only [next] at h
    split at h
    · rename_i job hw
      split at h
      · rename_i hc
        subst hc
        cases h
        exact .start w job hw
      · cases h
    · cases h
  | ret w task =>
    simp only [next] at h
    split at h
    · rename_i job hw
      split at h
      · rename_i hc
        subst hc
        cases h
        exact .ret w job hw
      · cases h
    · cases h
  | panic w task =>
    simp only [next] at h
    split at h
    · rename_i job hw
      split at h
      · rename_i hc
        subst hc
        cases h
        exact .panic w job hw
      · cases h
    · cases h
  | repush w task =>
    simp only [next] at h
    split at h
    · rename_i newJob hw
      split at h
      · rename_i hc
        subst hc
        cases h
        exact .repush w newJob hw
      · cases h
    · cases h

theorem nextTask_le_of_next {s t : Pool ι} {l : Label ι} (h : next s l = some t) :
    s.nextTask ≤ t.nextTask := by
  cases move_of_next h <;> simp [Pool.setWorker]

theorem canceled_of_next {s t : Pool ι} {l : Label ι} (h : next s l = some t) {τ : Nat}
    (hτ : τ < s.nextTask) (hc : s.canceled τ = true) : t.canceled τ = true := by
  cases move_of_next h with
  | schedule => simp [Function.update_of_ne (Nat.ne_of_lt hτ), hc]
  | cancel task =>
    by_cases he : τ = task
    · subst he
      simp
    · simp [Function.update_of_ne he, hc]
  | repush => simpa [Pool.setWorker] using hc
  | _ => exact hc

/-- Each task has at most one job in the heap and the workers' hands together,
and every job belongs to a task already scheduled. -/
structure OneJobPerTask (s : Pool ι) : Prop where
  queue_nodup : (s.queue.map Job.task).Nodup
  held_not_queued : ∀ w j, (s.workers w).held = some j → ∀ q ∈ s.queue, q.task ≠ j.task
  held_unique : ∀ w w' j j', w ≠ w' → (s.workers w).held = some j →
    (s.workers w').held = some j' → j.task ≠ j'.task
  queue_scheduled : ∀ q ∈ s.queue, q.task < s.nextTask
  held_scheduled : ∀ w j, (s.workers w).held = some j → j.task < s.nextTask

omit [DecidableEq ι] in
theorem oneJobPerTask_init {s : Pool ι} (h : Init s) : OneJobPerTask s := by
  obtain ⟨hq, -, -, hn, hw⟩ := h
  constructor <;> simp [hq, hw, Phase.held]

namespace OneJobPerTask

variable {s : Pool ι}

theorem release (h : OneJobPerTask s) (w : ι) {q : Phase} (hq : q.held = none) :
    OneJobPerTask (s.setWorker w q) := by
  constructor
  · exact h.queue_nodup
  · intro v j hj
    by_cases hv : v = w
    · subst hv
      simp [hq] at hj
    · rw [setWorker_workers_of_ne _ _ hv] at hj
      exact h.held_not_queued v j hj
  · intro v v' j j' hne hj hj'
    by_cases hv : v = w
    · subst hv
      simp [hq] at hj
    by_cases hv' : v' = w
    · subst hv'
      simp [hq] at hj'
    rw [setWorker_workers_of_ne _ _ hv] at hj
    rw [setWorker_workers_of_ne _ _ hv'] at hj'
    exact h.held_unique v v' j j' hne hj hj'
  · exact h.queue_scheduled
  · intro v j hj
    by_cases hv : v = w
    · subst hv
      simp [hq] at hj
    · rw [setWorker_workers_of_ne _ _ hv] at hj
      exact h.held_scheduled v j hj

theorem keep (h : OneJobPerTask s) {w : ι} {j : Job} (hw : (s.workers w).held = some j)
    {q : Phase} {j' : Job} (hq : q.held = some j') (htask : j'.task = j.task) :
    OneJobPerTask (s.setWorker w q) := by
  -- the worker's held job is replaced by one of the same task
  have hheld : ∀ v k, ((s.setWorker w q).workers v).held = some k →
      ∃ k', (s.workers v).held = some k' ∧ k'.task = k.task := by
    intro v k hk
    by_cases hv : v = w
    · subst hv
      rw [setWorker_workers_self, hq] at hk
      cases hk
      exact ⟨j, hw, htask.symm⟩
    · rw [setWorker_workers_of_ne _ _ hv] at hk
      exact ⟨k, hk, rfl⟩
  constructor
  · exact h.queue_nodup
  · intro v k hk
    obtain ⟨k', hk', he⟩ := hheld v k hk
    rw [← he]
    exact h.held_not_queued v k' hk'
  · intro v v' k k'' hne hk hk''
    obtain ⟨a, ha, hae⟩ := hheld v k hk
    obtain ⟨b, hb, hbe⟩ := hheld v' k'' hk''
    rw [← hae, ← hbe]
    exact h.held_unique v v' a b hne ha hb
  · exact h.queue_scheduled
  · intro v k hk
    obtain ⟨k', hk', he⟩ := hheld v k hk
    rw [← he]
    exact h.held_scheduled v k' hk'

omit [DecidableEq ι] in
theorem congr {t : Pool ι} (h : OneJobPerTask s) (hq : t.queue = s.queue)
    (hw : t.workers = s.workers) (hn : t.nextTask = s.nextTask) : OneJobPerTask t := by
  obtain ⟨h₁, h₂, h₃, h₄, h₅⟩ := h
  exact ⟨hq ▸ h₁, hq ▸ hw ▸ h₂, hw ▸ h₃, hq ▸ hn ▸ h₄, hw ▸ hn ▸ h₅⟩

omit [DecidableEq ι] in
/-- A job no one else has of its task, of a task already scheduled, pushed by
`SharedPool::run`. -/
theorem run (h : OneJobPerTask s) {job : Job} (hq : ∀ q ∈ s.queue, q.task ≠ job.task)
    (hw : ∀ w j, (s.workers w).held = some j → j.task ≠ job.task)
    (hn : job.task < s.nextTask) : OneJobPerTask (s.run job) := by
  unfold Pool.run
  split
  · exact h
  constructor
  · simp only [List.map_append, List.map_cons, List.map_nil]
    rw [List.nodup_append]
    refine ⟨h.queue_nodup, List.nodup_singleton _, ?_⟩
    intro a ha b hb
    simp only [List.mem_singleton] at hb
    subst hb
    obtain ⟨q, hqm, rfl⟩ := List.mem_map.mp ha
    exact hq q hqm
  · intro w j hj q hqm
    rcases List.mem_append.mp hqm with hqm | hqm
    · exact h.held_not_queued w j hj q hqm
    · simp only [List.mem_singleton] at hqm
      subst hqm
      exact (hw w j hj).symm
  · exact h.held_unique
  · intro q hqm
    rcases List.mem_append.mp hqm with hqm | hqm
    · exact h.queue_scheduled q hqm
    · simp only [List.mem_singleton] at hqm
      subst hqm
      exact hn
  · exact h.held_scheduled

/-- `get_job` hands an idle worker a job of the heap. -/
theorem pop (h : OneJobPerTask s) {w : ι} (hidle : s.workers w = .idle) {job : Job}
    (hmem : job ∈ s.queue) :
    OneJobPerTask { s.setWorker w (.popped job) with queue := s.queue.erase job } := by
  have hnodup : s.queue.Nodup := List.Nodup.of_map _ h.queue_nodup
  -- a job left in the heap has another task than the popped one
  have hother : ∀ q ∈ s.queue.erase job, q.task ≠ job.task := by
    intro q hq htask
    obtain ⟨hne, hqm⟩ := (List.Nodup.mem_erase_iff hnodup).mp hq
    exact hne (List.inj_on_of_nodup_map h.queue_nodup hqm hmem htask)
  have hheld : ∀ v k, ((s.setWorker w (.popped job)).workers v).held = some k →
      (v = w ∧ k = job) ∨ (v ≠ w ∧ (s.workers v).held = some k) := by
    intro v k hk
    by_cases hv : v = w
    · subst hv
      simp only [setWorker_workers_self, Phase.held, Option.some.injEq] at hk
      exact .inl ⟨rfl, hk.symm⟩
    · rw [setWorker_workers_of_ne _ _ hv] at hk
      exact .inr ⟨hv, hk⟩
  constructor
  · exact (List.erase_sublist.map _).nodup h.queue_nodup
  · intro v k hk q hq
    rcases hheld v k hk with ⟨-, rfl⟩ | ⟨-, hold⟩
    · exact hother q hq
    · exact h.held_not_queued v k hold q (List.mem_of_mem_erase hq)
  · intro v v' k k' hne hk hk'
    rcases hheld v k hk with ⟨hv, rfl⟩ | ⟨-, hold⟩ <;>
      rcases hheld v' k' hk' with ⟨hv', rfl⟩ | ⟨-, hold'⟩
    · exact absurd (hv.trans hv'.symm) hne
    · exact h.held_not_queued v' k' hold' k hmem
    · exact (h.held_not_queued v k hold k' hmem).symm
    · exact h.held_unique v v' k k' hne hold hold'
  · intro q hq
    exact h.queue_scheduled q (List.mem_of_mem_erase hq)
  · intro v k hk
    rcases hheld v k hk with ⟨-, rfl⟩ | ⟨-, hold⟩
    · exact h.queue_scheduled k hmem
    · exact h.held_scheduled v k hold

/-- `self.shared.run(new_job)` by the worker that held `new_job`. -/
theorem repush (h : OneJobPerTask s) {w : ι} {newJob : Job}
    (hw : s.workers w = .returned newJob) :
    OneJobPerTask ((s.setWorker w .idle).run newJob) := by
  have hheld : (s.workers w).held = some newJob := by rw [hw]; rfl
  refine (h.release w rfl).run (h.held_not_queued w newJob hheld) ?_
    (h.held_scheduled w newJob hheld)
  intro v j hj
  by_cases hv : v = w
  · subst hv
    simp [Phase.held] at hj
  · rw [setWorker_workers_of_ne _ _ hv] at hj
    exact h.held_unique v w j newJob hv hj hheld

omit [DecidableEq ι] in
/-- `schedule_at_fixed_rate`/`_delay`: a job of the fresh task `nextTask`. -/
theorem schedule (h : OneJobPerTask s) (hs : s.shutdown = false) (typ : JobType)
    (time : Nat) (canceled : Nat → Bool) :
    OneJobPerTask { s.run ⟨typ, time, s.nextTask⟩ with
      canceled := canceled, nextTask := s.nextTask + 1 } := by
  have hbump : OneJobPerTask { s with nextTask := s.nextTask + 1 } := by
    refine ⟨h.queue_nodup, h.held_not_queued, h.held_unique, ?_, ?_⟩
    · intro q hq
      have := h.queue_scheduled q hq
      simp only
      omega
    · intro w j hj
      have := h.held_scheduled w j hj
      simp only
      omega
  have hfresh : OneJobPerTask (({ s with nextTask := s.nextTask + 1 } : Pool ι).run
      ⟨typ, time, s.nextTask⟩) := hbump.run
    (fun q hq => Nat.ne_of_lt (h.queue_scheduled q hq))
    (fun w j hj => Nat.ne_of_lt (h.held_scheduled w j hj)) (Nat.lt_succ_self _)
  refine hfresh.congr ?_ ?_ ?_ <;> simp [Pool.run, hs]

end OneJobPerTask

theorem oneJobPerTask_next {s t : Pool ι} {l : Label ι} (h : OneJobPerTask s)
    (hstep : next s l = some t) : OneJobPerTask t := by
  cases move_of_next hstep with
  | schedule typ initialDelay hs => exact h.schedule hs _ _ _
  | cancel | drop | tick => exact h.congr rfl rfl rfl
  | pop w job hidle hmem => exact h.pop hidle hmem
  | exit w | dropJob w | panic w => exact h.release w rfl
  | pass w job hw | start w job hw =>
    exact h.keep (show (s.workers w).held = some job by rw [hw]; rfl) rfl rfl
  | ret w job hw =>
    exact h.keep (show (s.workers w).held = some job by rw [hw]; rfl) rfl
      (reschedule_task job s.clock)
  | repush w newJob hw => exact h.repush hw

/-- `OneJobPerTask` holds in every state the pool reaches. -/
theorem oneJobPerTask_of_reachable {s : Pool ι} (hs : Reachable Init Step s) :
    OneJobPerTask s :=
  hs.invariant _ (fun _ => oneJobPerTask_init) (fun _ _ _ h hstep => oneJobPerTask_next h hstep)

/-! ### Which tasks have a job -/

/-- Task `k` has a job in the pool: in the heap or in a worker's hands. -/
def HasJob (s : Pool ι) (k : Nat) : Prop :=
  (∃ q ∈ s.queue, q.task = k) ∨ ∃ w j, (s.workers w).held = some j ∧ j.task = k

omit [DecidableEq ι] in
theorem hasJob_of_held {s : Pool ι} {w : ι} {j : Job} (hw : (s.workers w).held = some j) :
    HasJob s j.task :=
  .inr ⟨w, j, hw, rfl⟩

theorem hasJob_setWorker {s : Pool ι} {w : ι} {q : Phase} {k : Nat}
    (h : HasJob (s.setWorker w q) k) : HasJob s k ∨ ∃ j, q.held = some j ∧ j.task = k := by
  rcases h with hq | ⟨v, j, hj, rfl⟩
  · exact .inl (.inl hq)
  by_cases hv : v = w
  · subst hv
    rw [setWorker_workers_self] at hj
    exact .inr ⟨j, hj, rfl⟩
  · rw [setWorker_workers_of_ne _ _ hv] at hj
    exact .inl (hasJob_of_held hj)

omit [DecidableEq ι] in
/-- `SharedPool::run` adds no task but the pushed job's. -/
theorem hasJob_run {s : Pool ι} {job : Job} {k : Nat} (h : HasJob (s.run job) k) :
    HasJob s k ∨ job.task = k := by
  unfold Pool.run at h
  split at h
  · exact .inl h
  rcases h with ⟨q, hq, rfl⟩ | hheld
  · rcases List.mem_append.mp hq with hq | hq
    · exact .inl (.inl ⟨q, hq, rfl⟩)
    · simp only [List.mem_singleton] at hq
      exact .inr (by rw [hq])
  · exact .inl (.inr hheld)

/-- A step creates no job of a task but the fresh one of a `schedule`: every
task with a job after the step had one before, or is `s.nextTask`. -/
theorem hasJob_of_next {s t : Pool ι} {l : Label ι} (hstep : next s l = some t) {k : Nat}
    (hk : HasJob t k) : HasJob s k ∨ k = s.nextTask := by
  cases move_of_next hstep with
  | schedule typ initialDelay =>
    rcases hasJob_run (show HasJob (s.run _) k from hk) with h | h
    · exact .inl h
    · exact .inr h.symm
  | cancel | drop | tick => exact .inl hk
  | pop w job hidle hmem =>
    rcases hk with ⟨q, hq, rfl⟩ | hheld
    · exact .inl (.inl ⟨q, List.mem_of_mem_erase hq, rfl⟩)
    rcases hasJob_setWorker (.inr hheld) with h | ⟨j, hj, rfl⟩
    · exact .inl h
    · -- the popped job was in the heap
      cases hj
      exact .inl (.inl ⟨job, hmem, rfl⟩)
  | exit w | dropJob w | panic w =>
    rcases hasJob_setWorker hk with h | ⟨j, hj, -⟩
    · exact .inl h
    · cases hj
  | pass w job hw | start w job hw =>
    rcases hasJob_setWorker hk with h | ⟨j, hj, rfl⟩
    · exact .inl h
    · cases hj
      exact .inl (hasJob_of_held (show (s.workers w).held = some job by rw [hw]; rfl))
  | ret w job hw =>
    rcases hasJob_setWorker hk with h | ⟨j, hj, rfl⟩
    · exact .inl h
    · cases hj
      rw [reschedule_task]
      exact .inl (hasJob_of_held (show (s.workers w).held = some job by rw [hw]; rfl))
  | repush w newJob hw =>
    rcases hasJob_run hk with h | rfl
    · rcases hasJob_setWorker h with h | ⟨j, hj, -⟩
      · exact .inl h
      · cases hj
    · exact .inl (hasJob_of_held (show (s.workers w).held = some newJob by rw [hw]; rfl))

/-- Task `τ` is scheduled and has no job left: it never runs again. -/
structure Jobless (τ : Nat) (s : Pool ι) : Prop where
  no_job : ¬ HasJob s τ
  scheduled : τ < s.nextTask

theorem jobless_next {τ : Nat} {s t : Pool ι} {l : Label ι} (h : Jobless τ s)
    (hstep : next s l = some t) : Jobless τ t := by
  refine ⟨fun hk => ?_, Nat.lt_of_lt_of_le h.scheduled (nextTask_le_of_next hstep)⟩
  rcases hasJob_of_next hstep hk with hs | he
  · exact h.no_job hs
  · exact absurd he (Nat.ne_of_lt h.scheduled)

/-- A panic in `f`: the panicking worker goes back to `get_job` without its
job, the heap and every other worker are untouched, and the task is left with
no job, so that it never runs again. -/
theorem panic_drops_task {s t : Pool ι} {w : ι} {τ : Nat} (h : OneJobPerTask s)
    (hstep : next s (.panic w τ) = some t) :
    t.queue = s.queue ∧ (∀ v, v ≠ w → t.workers v = s.workers v) ∧ Jobless τ t := by
  cases move_of_next hstep with
  | panic w job hw =>
    have hheld : (s.workers w).held = some job := by rw [hw]; rfl
    refine ⟨rfl, fun v hv => setWorker_workers_of_ne _ _ hv, ⟨?_, h.held_scheduled w job hheld⟩⟩
    rintro (⟨q, hq, hqt⟩ | ⟨v, j, hj, hjt⟩)
    · exact h.held_not_queued w job hheld q hq hqt
    · by_cases hv : v = w
      · subst hv
        simp [Phase.held] at hj
      · rw [setWorker_workers_of_ne _ _ hv] at hj
        exact h.held_unique v w j job hv hj hheld hjt

/-- No task runs concurrently with itself. In every reachable state each task
has at most one job in the heap and the workers' hands together, and two
workers never hold jobs of one task (so a task is pushed again only by the
worker whose `f` returned). A panic in `f` leaves the heap and every other
worker as they were, and from then on the panicking task has no job in any
state a run reaches. -/
theorem task_never_overlaps {s : Pool ι} (hs : Reachable Init Step s) :
    OneJobPerTask s ∧
    ∀ w τ t, Step s (.panic w τ) t →
      t.queue = s.queue ∧ (∀ v, v ≠ w → t.workers v = s.workers v) ∧
      ∀ ls u, Run Step t ls u → ¬ HasJob u τ := by
  have h := oneJobPerTask_of_reachable hs
  refine ⟨h, fun w τ t hstep => ?_⟩
  obtain ⟨hq, hw, hgone⟩ := panic_drops_task h hstep
  refine ⟨hq, hw, fun ls u hrun => ?_⟩
  -- `Jobless τ` is kept by every step, whatever the other threads do
  exact (hrun.invariant (Jobless τ) (fun _ _ _ hj hst => jobless_next hj hst) hgone).no_job

def newPool : Pool (Fin 1) := ⟨[], false, fun _ => false, 0, 0, fun _ => .idle⟩

/-- The first job of a fixed-rate task of period 5 scheduled at once. -/
def rateJob : Job := ⟨.fixedRate 5, 0, 0⟩

/-- The worker takes the job and passes the `canceled` check. -/
def checkedLabels : List (Label (Fin 1)) :=
  [.schedule (.fixedRate 5) 0, .pop 0 rateJob, .check 0 0 false]

def rateLabels : List (Label (Fin 1)) := checkedLabels ++ [.start 0 0]

def ratePool : Pool (Fin 1) := (exec next newPool rateLabels).getD newPool

theorem ratePool_reachable : Reachable Init Step ratePool :=
  ⟨newPool, rateLabels, ⟨rfl, rfl, rfl, rfl, fun _ => rfl⟩, Run.of_exec rfl⟩

example : ratePool.workers 0 = .running rateJob := by decide

theorem task_never_overlaps_on_ratePool : Reachable Init Step ratePool ∧
    (OneJobPerTask ratePool ∧
      ∀ w τ t, Step ratePool (.panic w τ) t →
        t.queue = ratePool.queue ∧ (∀ v, v ≠ w → t.workers v = ratePool.workers v) ∧
        ∀ ls u, Run Step t ls u → ¬ HasJob u τ) :=
  ⟨ratePool_reachable, task_never_overlaps ratePool_reachable⟩

/-! ### Cancellation

The `canceled` flag is read once per execution, before `f`. After
`JobHandle::cancel`, the only execution of the task still to begin is one
whose check came first; it pushes the next job once more, and that job's check
drops it. The counts are bounded by potentials: one while some worker is past
the check with a job of the task, zero otherwise. -/

open Classical in
/-- One when some worker is in a phase with `P`, zero otherwise. -/
noncomputable def someWorker (P : Phase → Bool) (ws : ι → Phase) : Nat :=
  if ∃ w, P (ws w) = true then 1 else 0

section SomeWorker

variable {P : Phase → Bool} {s : Pool ι}

omit [DecidableEq ι] in
theorem someWorker_le_one (P : Phase → Bool) (ws : ι → Phase) : someWorker P ws ≤ 1 := by
  unfold someWorker
  split <;> omega

omit [DecidableEq ι] in
theorem exists_of_someWorker_pos {ws : ι → Phase} (h : 0 < someWorker P ws) :
    ∃ w, P (ws w) = true := by
  unfold someWorker at h
  split at h
  · assumption
  · omega

theorem someWorker_setWorker_le {w : ι} {q : Phase} (hq : P q = true → P (s.workers w) = true) :
    someWorker P (s.setWorker w q).workers ≤ someWorker P s.workers := by
  unfold someWorker
  split
  · rename_i hex
    obtain ⟨v, hv⟩ := hex
    have hold : ∃ v, P (s.workers v) = true := by
      by_cases he : v = w
      · subst he
        rw [setWorker_workers_self] at hv
        exact ⟨v, hq hv⟩
      · rw [setWorker_workers_of_ne _ _ he] at hv
        exact ⟨v, hv⟩
    simp only [if_pos hold, Nat.le_refl]
  · omega

theorem someWorker_setWorker_lt {w : ι} {q : Phase} (hp : P (s.workers w) = true)
    (hq : P q = false) (hother : ∀ v, v ≠ w → P (s.workers v) = false) :
    someWorker P (s.setWorker w q).workers + 1 ≤ someWorker P s.workers := by
  have hzero : someWorker P (s.setWorker w q).workers = 0 := by
    unfold someWorker
    rw [if_neg]
    rintro ⟨v, hv⟩
    by_cases he : v = w
    · subst he
      rw [setWorker_workers_self, hq] at hv
      cases hv
    · rw [setWorker_workers_of_ne _ _ he, hother v he] at hv
      cases hv
  have hone : someWorker P s.workers = 1 := by
    unfold someWorker
    rw [if_pos ⟨w, hp⟩]
  omega

omit [DecidableEq ι] in
theorem others_clear (h : OneJobPerTask s) {τ : Nat}
    (hP : ∀ p, P p = true → ∃ k, p.held = some k ∧ k.task = τ) {w : ι} {j : Job}
    (hw : (s.workers w).held = some j) (hj : j.task = τ) :
    ∀ v, v ≠ w → P (s.workers v) = false := by
  intro v hv
  cases hPv : P (s.workers v) with
  | false => rfl
  | true =>
    obtain ⟨k, hk, hkt⟩ := hP _ hPv
    exact absurd (hkt.trans hj.symm) (h.held_unique v w k j hv hk hw)

end SomeWorker

/-- Past the `canceled` check with a job of task `τ`, before the call of `f`. -/
def Phase.checkedFor (τ : Nat) : Phase → Bool
  | .checked job => job.task == τ
  | _ => false

/-- Past the `canceled` check with a job of task `τ`, before the push of the next job. -/
def Phase.pastCheck (τ : Nat) : Phase → Bool
  | .checked job | .running job | .returned job => job.task == τ
  | _ => false

theorem checkedFor_eq_true {τ : Nat} {p : Phase} :
    p.checkedFor τ = true ↔ ∃ j, p = .checked j ∧ j.task = τ := by
  cases p <;> simp [Phase.checkedFor]

theorem checkedFor_held {τ : Nat} (p : Phase) (h : p.checkedFor τ = true) :
    ∃ k, p.held = some k ∧ k.task = τ := by
  cases p <;> simp_all [Phase.checkedFor, Phase.held]

theorem pastCheck_held {τ : Nat} (p : Phase) (h : p.pastCheck τ = true) :
    ∃ k, p.held = some k ∧ k.task = τ := by
  cases p <;> simp_all [Phase.pastCheck, Phase.held]

/-- `f` of task `τ` is called. -/
def Label.starts (τ : Nat) : Label ι → Bool
  | .start _ task => task == τ
  | _ => false

/-- The `canceled` check lets a job of task `τ` through. -/
def Label.passes (τ : Nat) : Label ι → Bool
  | .check _ task dropped => task == τ && !dropped
  | _ => false

/-- A job of task `τ` is pushed back. -/
def Label.repushes (τ : Nat) : Label ι → Bool
  | .repush _ task => task == τ
  | _ => false

/-- The pool after `cancel τ` returned: the flag of the scheduled task `τ` is set. -/
structure Canceled (τ : Nat) (s : Pool ι) : Prop where
  one : OneJobPerTask s
  flag : s.canceled τ = true
  scheduled : τ < s.nextTask

section Canceled

variable {τ : Nat} {s t : Pool ι} {l : Label ι}

theorem canceled_next (h : Canceled τ s) (hstep : next s l = some t) : Canceled τ t :=
  ⟨oneJobPerTask_next h.one hstep, canceled_of_next hstep h.scheduled h.flag,
    Nat.lt_of_lt_of_le h.scheduled (nextTask_le_of_next hstep)⟩

omit [DecidableEq ι] in
theorem task_ne_of_flag_clear (h : Canceled τ s) {job : Job} (hc : s.canceled job.task = false) :
    job.task ≠ τ := by
  intro he
  rw [he, h.flag] at hc
  cases hc

theorem passes_next (h : Canceled τ s) (hstep : next s l = some t) : l.passes τ = false := by
  cases move_of_next hstep with
  | pass w job hw hc => simp [Label.passes, task_ne_of_flag_clear h hc]
  | _ => simp [Label.passes]

/-- After `cancel τ`, each call of `τ`'s `f` takes the one worker that passed
the check before, and no worker passes it again. -/
theorem checkedFor_next (h : Canceled τ s) (hstep : next s l = some t) :
    someWorker (Phase.checkedFor τ) t.workers + (if l.starts τ then 1 else 0) ≤
      someWorker (Phase.checkedFor τ) s.workers := by
  cases move_of_next hstep with
  | schedule | cancel | drop | tick =>
    simp [Label.starts]
  | pop w job | exit w | dropJob w job | ret w job | panic w job =>
    simpa [Label.starts] using someWorker_setWorker_le (by simp [Phase.checkedFor])
  | pass w job hw hc =>
    have hne := task_ne_of_flag_clear h hc
    simpa [Label.starts] using someWorker_setWorker_le (by simp [Phase.checkedFor, hne])
  | start w job hw =>
    by_cases hτ : job.task = τ
    · have hheld : (s.workers w).held = some job := by rw [hw]; rfl
      simpa [Label.starts, hτ] using someWorker_setWorker_lt
        (by simp [hw, Phase.checkedFor, hτ]) (rfl : Phase.checkedFor τ (.running job) = false)
        (others_clear h.one checkedFor_held hheld hτ)
    · simpa [Label.starts, hτ] using someWorker_setWorker_le (by simp [Phase.checkedFor])
  | repush w newJob hw =>
    rw [run_workers]
    simpa [Label.starts] using someWorker_setWorker_le (by simp [Phase.checkedFor])

/-- After `cancel τ`, a job of `τ` is pushed back at most by the one worker
that was past the check: no worker gets past it again. -/
theorem pastCheck_next (h : Canceled τ s) (hstep : next s l = some t) :
    someWorker (Phase.pastCheck τ) t.workers + (if l.repushes τ then 1 else 0) ≤
      someWorker (Phase.pastCheck τ) s.workers := by
  cases move_of_next hstep with
  | schedule | cancel | drop | tick =>
    simp [Label.repushes]
  | pop w job | exit w | dropJob w job | panic w job =>
    simpa [Label.repushes] using someWorker_setWorker_le (by simp [Phase.pastCheck])
  | pass w job hw hc =>
    have hne := task_ne_of_flag_clear h hc
    simpa [Label.repushes] using someWorker_setWorker_le (by simp [Phase.pastCheck, hne])
  | start w job hw | ret w job hw =>
    -- the worker stays past the check with a job of the same task
    simpa [Label.repushes] using someWorker_setWorker_le (by simp [hw, Phase.pastCheck])
  | repush w newJob hw =>
    rw [run_workers]
    by_cases hτ : newJob.task = τ
    · have hheld : (s.workers w).held = some newJob := by rw [hw]; rfl
      simpa [Label.repushes, hτ] using someWorker_setWorker_lt
        (by simp [hw, Phase.pastCheck, hτ]) (rfl : Phase.pastCheck τ .idle = false)
        (others_clear h.one pastCheck_held hheld hτ)
    · simpa [Label.repushes, hτ] using someWorker_setWorker_le (by simp [Phase.pastCheck])

end Canceled

/-- Cancellation is final. After `cancel τ` returns, along any run of the pool:
`τ`'s `f` is called at most once more, and only if a worker had already passed
the `canceled` check with `τ`'s job when the flag was set; no check of a job of
`τ` lets it through, so every job of `τ` popped afterwards is dropped; and a
job of `τ` is pushed back at most once, by that last execution. -/
theorem cancel_is_final {s s₁ u : Pool ι} {τ : Nat} {ls : List (Label ι)}
    (hs : Reachable Init Step s) (hcancel : Step s (.cancel τ) s₁) (hrun : Run Step s₁ ls u) :
    ls.countP (Label.starts τ) ≤ 1 ∧
    (0 < ls.countP (Label.starts τ) → ∃ w j, s.workers w = .checked j ∧ j.task = τ) ∧
    ls.countP (Label.passes τ) = 0 ∧
    ls.countP (Label.repushes τ) ≤ 1 := by
  obtain ⟨h₁, hw⟩ : Canceled τ s₁ ∧ s₁.workers = s.workers := by
    cases move_of_next hcancel with
    | cancel _ hlt =>
      exact ⟨⟨(oneJobPerTask_of_reachable hs).congr rfl rfl rfl, by simp, hlt⟩, rfl⟩
  have hkeep : ∀ (a : Pool ι) l b, Canceled τ a → Step a l b → Canceled τ b :=
    fun _ _ _ h hst => canceled_next h hst
  have hstarts := hrun.countP_le _ hkeep (fun t => someWorker (Phase.checkedFor τ) t.workers)
    (Label.starts τ) (fun _ _ _ h hst => checkedFor_next h hst) h₁
  have hpasses := hrun.countP_le _ hkeep (fun _ => 0) (Label.passes τ)
    (fun _ _ _ h hst => by simp [passes_next h hst]) h₁
  have hrepushes := hrun.countP_le _ hkeep (fun t => someWorker (Phase.pastCheck τ) t.workers)
    (Label.repushes τ) (fun _ _ _ h hst => pastCheck_next h hst) h₁
  have hle₁ := someWorker_le_one (Phase.checkedFor τ) s₁.workers
  have hle₂ := someWorker_le_one (Phase.pastCheck τ) s₁.workers
  refine ⟨by omega, fun hpos => ?_, by omega, by omega⟩
  -- a call of `f` spends the potential, so a worker was past the check
  obtain ⟨w, hcw⟩ :=
    exists_of_someWorker_pos (show 0 < someWorker (Phase.checkedFor τ) s₁.workers by omega)
  rw [hw] at hcw
  obtain ⟨j, hj, hjt⟩ := checkedFor_eq_true.mp hcw
  exact ⟨w, j, hj, hjt⟩

/-- The pool whose worker passed the check of the first job of `rateJob`'s task. -/
def checkedPool : Pool (Fin 1) := (exec next newPool checkedLabels).getD newPool

/-- `checkedPool` after `cancel` of task 0. -/
def canceledPool : Pool (Fin 1) := (next checkedPool (.cancel 0)).getD checkedPool

/-- The in-flight execution runs and pushes the next job, which is popped when
due and dropped by its check. -/
def cancelTail : List (Label (Fin 1)) :=
  [.start 0 0, .ret 0 0, .repush 0 0, .tick 5, .pop 0 ⟨.fixedRate 5, 5, 0⟩, .check 0 0 true]

def drainedPool : Pool (Fin 1) := (exec next canceledPool cancelTail).getD canceledPool

example : drainedPool.queue = [] ∧ drainedPool.workers 0 = .idle := by decide

theorem checkedPool_reachable : Reachable Init Step checkedPool :=
  ⟨newPool, checkedLabels, ⟨rfl, rfl, rfl, rfl, fun _ => rfl⟩, Run.of_exec rfl⟩

theorem cancel_is_final_on_checkedPool :
    Reachable Init Step checkedPool ∧ Step checkedPool (.cancel 0) canceledPool ∧
    Run Step canceledPool cancelTail drainedPool ∧
    (cancelTail.countP (Label.starts 0) ≤ 1 ∧
      (0 < cancelTail.countP (Label.starts 0) →
        ∃ w j, checkedPool.workers w = .checked j ∧ j.task = 0) ∧
      cancelTail.countP (Label.passes 0) = 0 ∧
      cancelTail.countP (Label.repushes 0) ≤ 1) :=
  ⟨checkedPool_reachable, rfl, Run.of_exec rfl,
    cancel_is_final checkedPool_reachable rfl (Run.of_exec rfl)⟩

end SchedPool
