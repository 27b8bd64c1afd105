import FastJob.MaxHeap
import FastJob.SchedPool

/-!
# The timer queue of `SchedPool` (`SharedPool::run`, `Worker::get_job`)

`Ord for Job` reverses the order of the jobs' times, and `PartialEq for Job`
compares times only, so the two agree. `BinaryHeap` is a max-heap under `Ord`,
known by its contract: its `peek` is a greatest job under `Ord`, one of least
time.

`get_job` holds the mutex through one iteration of its loop: it reads the
clock, peeks, and then returns `None` (empty heap, shut down), waits (empty
heap), pops the peeked job (due), or waits until the peeked job is due. A wait
releases the mutex, so `run`s of other threads come between iterations; each
call and each iteration is one step. `SharedPool::run` also says whether it
wakes the waiters: it does when the heap is empty or its peek is due no earlier
than the new job.
-/

namespace SchedPool.Job

/-- `Ord::cmp` of `Job`: `self.time.cmp(&other.time).reverse()`. -/
def cmp (a b : Job) : Ordering := (compare a.time b.time).swap

/-- `PartialEq::eq` of `Job`: `self.time == other.time`. -/
def eq (a b : Job) : Bool := a.time == b.time

theorem cmp_eq_revKey : cmp = MaxHeap.revKey Job.time := rfl

theorem cmp_eq_eq_iff (a b : Job) : a.cmp b = .eq ↔ a.eq b = true := by
  rw [cmp_eq_revKey, MaxHeap.revKey_eq_eq, eq, beq_iff_eq]

end SchedPool.Job

namespace SchedHeap

open Transition MaxHeap
open SchedPool (Job)

/-- `InnerPool`: the heap and the `shutdown` flag under the mutex. -/
structure InnerPool where
  queue : List Job
  shutdown : Bool
  deriving DecidableEq, Repr

/-- A heap of jobs as `BinaryHeap` answers under `Ord for Job`. -/
abbrev JobHeap := Contract Job Job.cmp

/-- `SharedPool::run`: the job is pushed unless the pool is shut down; the second
component is whether the waiters are notified. -/
def run (H : JobHeap) (inner : InnerPool) (job : Job) : InnerPool × Bool :=
  if inner.shutdown then (inner, false)
  else
    let notify := match H.peek inner.queue with
      | none => true
      | some e => decide (e.time ≥ job.time)
    ({ inner with queue := inner.queue ++ [job] }, notify)

/-- What one iteration of `get_job`'s loop ends in: `return None`, `Need::Wait`,
`Need::WaitTimeout`, or `break` and the `pop` after it. -/
inductive Iteration where
  | returnNone
  | wait
  | waitTimeout (t : Nat)
  | pop (job : Job)
  deriving DecidableEq, Repr

/-- One iteration of `get_job`'s loop at the clock reading `now`; `none` is the
panic of `unwrap` on the `pop`. -/
def getJobIteration (H : JobHeap) (inner : InnerPool) (now : Nat) :
    Option (Iteration × InnerPool) :=
  match H.peek inner.queue with
  | none => some (if inner.shutdown then .returnNone else .wait, inner)
  | some e =>
    if e.time ≤ now then
      (H.pop inner.queue).map fun (job, queue) => (.pop job, { inner with queue })
    else some (.waitTimeout (e.time - now), inner)

/-- The calls on the timer queue. -/
inductive Label where
  /-- `SharedPool::run(job)`. -/
  | run (job : Job)
  /-- `Drop for SchedPool`. -/
  | drop
  /-- An iteration of `get_job` that read the clock `now` and ended in `iteration`. -/
  | getJob (now : Nat) (iteration : Iteration)
  deriving DecidableEq, Repr

/-- One step; `none` when the label's outcome is not the one the call has. -/
def next (H : JobHeap) (inner : InnerPool) : Label → Option InnerPool
  | .run job => some (run H inner job).1
  | .drop => some { inner with shutdown := true }
  | .getJob now iteration =>
    match getJobIteration H inner now with
    | some (it, inner') => if it = iteration then some inner' else none
    | none => none

def Step (H : JobHeap) (s : InnerPool) (l : Label) (t : InnerPool) : Prop := next H s l = some t

/-! ### One iteration -/

variable {H : JobHeap}

theorem time_le_of_peek {queue : List Job} {e : Job} (h : H.peek queue = some e) :
    ∀ q ∈ queue, e.time ≤ q.time :=
  @key_le_of_peek Job Nat _ Job.time H queue e h

theorem getJobIteration_pop {inner inner' : InnerPool} {now : Nat} {job : Job}
    (h : getJobIteration H inner now = some (.pop job, inner')) :
    job.time ≤ now ∧ job ∈ inner.queue ∧ inner' = { inner with queue := inner.queue.erase job } ∧
      ∀ q ∈ inner.queue, job.time ≤ q.time := by
  unfold getJobIteration at h
  split at h
  · split at h <;> cases h
  · next e hpeek =>
    split at h
    · next hdue =>
      -- the `pop` under the same lock takes the peeked job
      rw [Contract.pop_of_peek hpeek] at h
      cases h
      exact ⟨hdue, H.mem_of_peek hpeek, rfl, time_le_of_peek hpeek⟩
    · cases h

theorem getJobIteration_pops_of_due (inner : InnerPool) {now : Nat} {q : Job}
    (hq : q ∈ inner.queue) (hdue : q.time ≤ now) :
    ∃ job, getJobIteration H inner now = some (.pop job, { inner with queue := inner.queue.erase job }) := by
  obtain ⟨e, hpeek⟩ := H.peek_of_mem hq
  have hle : e.time ≤ now := Nat.le_trans (time_le_of_peek hpeek q hq) hdue
  refine ⟨e, ?_⟩
  simp [getJobIteration, hpeek, hle, Contract.pop_of_peek hpeek]

/-- `get_job` returns `None` exactly from an empty heap of a shut-down pool. -/
theorem getJobIteration_returnNone_iff (inner : InnerPool) (now : Nat) :
    (getJobIteration H inner now).map Prod.fst = some .returnNone ↔
      inner.queue = [] ∧ inner.shutdown = true := by
  unfold getJobIteration
  split
  · next hpeek =>
    cases hshut : inner.shutdown <;> simp [(H.peek_eq_none _).mp hpeek]
  · next e hpeek =>
    have hne : inner.queue ≠ [] := fun h => by
      rw [← H.peek_eq_none] at h
      rw [h] at hpeek
      cases hpeek
    split <;> simp [Contract.pop_of_peek hpeek, hne]

theorem getJobIteration_waitTimeout {inner inner' : InnerPool} {now t : Nat}
    (h : getJobIteration H inner now = some (.waitTimeout t, inner')) :
    inner' = inner ∧ ∃ e ∈ inner.queue, now + t = e.time ∧ 0 < t ∧ ∀ q ∈ inner.queue, e.time ≤ q.time := by
  unfold getJobIteration at h
  split at h
  · split at h <;> cases h
  · next e hpeek =>
    split at h
    · rw [Contract.pop_of_peek hpeek] at h
      cases h
    · next hlate =>
      cases h
      exact ⟨rfl, e, H.mem_of_peek hpeek, by omega, by omega, time_le_of_peek hpeek⟩

/-- A step of `get_job` that pops is an iteration that pops. -/
theorem step_getJob_pop {u u' : InnerPool} {now : Nat} {job : Job}
    (h : Step H u (.getJob now (.pop job)) u') :
    getJobIteration H u now = some (.pop job, u') := by
  simp only [Step, next] at h
  split at h
  · next it inner' hit =>
    split at h
    · next heq =>
      cases h
      rw [hit, heq]
    · cases h
  · cases h

/-- `run` wakes the waiters when the new job is due no later than every queued job. -/
theorem run_notifies_of_le {inner : InnerPool} {job : Job} (hopen : inner.shutdown = false)
    (hle : ∀ q ∈ inner.queue, job.time ≤ q.time) : (run H inner job).2 = true := by
  simp only [run, hopen, Bool.false_eq_true, if_false]
  split
  · rfl
  · next e hpeek => simpa using hle e (H.mem_of_peek hpeek)

/-- The timer queue releases jobs earliest-first. Along every run of `run`s,
drops and `get_job` iterations, under any heap that meets `BinaryHeap`'s
contract, an iteration that pops a job pops one due at its clock reading, from
the heap, and of a time no later than any job left in the heap. -/
theorem get_job_releases_earliest (H : JobHeap) {s t : InnerPool} {ls₁ ls₂ : List Label}
    {now : Nat} {job : Job} (hrun : Run (Step H) s (ls₁ ++ .getJob now (.pop job) :: ls₂) t) :
    ∃ u u', Run (Step H) s ls₁ u ∧ Step H u (.getJob now (.pop job)) u' ∧ Run (Step H) u' ls₂ t ∧
      job.time ≤ now ∧ job ∈ u.queue ∧ u'.queue = u.queue.erase job ∧
      ∀ q ∈ u'.queue, job.time ≤ q.time := by
  obtain ⟨u, hpre, hpost⟩ := hrun.split
  cases hpost with
  | cons hstep hrest =>
    obtain ⟨hdue, hmem, rfl, hleast⟩ := getJobIteration_pop (step_getJob_pop hstep)
    exact ⟨u, _, hpre, hstep, hrest, hdue, hmem, rfl,
      fun q hq => hleast q (List.mem_of_mem_erase hq)⟩

/-- `BinaryHeap` taken as the first job of least time. -/
def earliestFirst : JobHeap := Contract.ofArgmin Job.time

def laterJob : Job := ⟨.fixedRate 10, 5, 0⟩

/-- A fixed-delay job due at 3, of task 1, pushed after `laterJob`. -/
def earlierJob : Job := ⟨.fixedDelay 10, 3, 1⟩

/-- Two pushes out of time order, then an iteration at the clock 4 pops the job
due at 3 and leaves the job due at 5. -/
theorem get_job_releases_earliest_on_earlierJob :
    Run (Step earliestFirst) ⟨[], false⟩
        ([.run laterJob, .run earlierJob] ++ [.getJob 4 (.pop earlierJob)]) ⟨[laterJob], false⟩ ∧
      ∃ u u', Run (Step earliestFirst) ⟨[], false⟩ [.run laterJob, .run earlierJob] u ∧
        Step earliestFirst u (.getJob 4 (.pop earlierJob)) u' ∧
        Run (Step earliestFirst) u' [] ⟨[laterJob], false⟩ ∧
        earlierJob.time ≤ 4 ∧ earlierJob ∈ u.queue ∧ u'.queue = u.queue.erase earlierJob ∧
        ∀ q ∈ u'.queue, earlierJob.time ≤ q.time := by
  have hrun : Run (Step earliestFirst) ⟨[], false⟩
      ([.run laterJob, .run earlierJob] ++ [.getJob 4 (.pop earlierJob)]) ⟨[laterJob], false⟩ :=
    Run.of_exec (by decide)
  exact ⟨hrun, get_job_releases_earliest earliestFirst hrun⟩

variable {ι : Type}

/-- `run` pushes as the pool's `run` does. -/
theorem run_refines (p : SchedPool.Pool ι) (u : InnerPool) (job : Job) (hq : p.queue = u.queue)
    (hshut : p.shutdown = u.shutdown) :
    (p.run job).queue = (run H u job).1.queue ∧ (p.run job).shutdown = (run H u job).1.shutdown := by
  unfold SchedPool.Pool.run run
  cases hu : u.shutdown <;> simp [hshut, hu, hq]

variable [DecidableEq ι]

/-- An iteration that pops is the `pop` step of `SchedPool` for an idle worker,
at any clock of the pool no earlier than the iteration's reading. -/
theorem pop_refines {u u' : InnerPool} {now : Nat} {job : Job} (p : SchedPool.Pool ι) (w : ι)
    (hq : p.queue = u.queue) (hclock : now ≤ p.clock) (hidle : p.workers w = .idle)
    (h : Step H u (.getJob now (.pop job)) u') :
    SchedPool.next p (.pop w job) = some { p.setWorker w (.popped job) with queue := u'.queue } := by
  obtain ⟨hdue, hmem, rfl, hleast⟩ := getJobIteration_pop (step_getJob_pop h)
  have hall : p.queue.all (fun q => job.time ≤ q.time) = true := by
    rw [hq, List.all_eq_true]
    exact fun q hq' => decide_eq_true (hleast q hq')
  rw [SchedPool.next, if_pos ⟨hidle, hq ▸ hmem, hall, Nat.le_trans hdue hclock⟩, hq]

end SchedHeap
