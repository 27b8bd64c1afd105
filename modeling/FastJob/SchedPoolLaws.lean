import FastJob.SchedPool

/-!
# Shutdown and rescheduling laws of the task pool

Two properties of whole runs of the `SchedPool` model. After `Drop` has set
`shutdown`, `SharedPool::run` discards every job, so the heap only drains, each
task calls `f` at most once more, and `get_job` answers `None` exactly on an
empty heap. And the due times of a periodic task follow from `Worker::execute`:
a fixed-delay job is due its delay after the time of the job that ran, a
fixed-rate job its rate after the clock at which `f` returned.
-/
namespace SchedPool

open Transition

variable {ι : Type} [DecidableEq ι]

/-! ### After shutdown -/

theorem shutdown_next {s t : Pool ι} {l : Label ι} (hdown : s.shutdown = true)
    (hstep : next s l = some t) : t.shutdown = true ∧ t.queue.Sublist s.queue := by
  cases move_of_next hstep with
  | schedule _ _ h | drop h => simp [hdown] at h
  | pop => exact ⟨hdown, List.erase_sublist⟩
  | repush => simp [Pool.run, hdown, Pool.setWorker]
  | cancel | tick | exit | dropJob | pass | start | ret | panic => exact ⟨hdown, .refl _⟩

/-- The job a worker has taken and not yet started. -/
def Phase.unstarted : Phase → Option Job
  | .popped job | .checked job => some job
  | _ => none

/-- Task `τ` can still call `f`: it has a job in the heap, or a worker took one
and has not called `f` yet. -/
def Pending (τ : Nat) (s : Pool ι) : Prop :=
  (∃ q ∈ s.queue, q.task = τ) ∨ ∃ w j, (s.workers w).unstarted = some j ∧ j.task = τ

open Classical in
/-- One while `τ` is pending, zero otherwise. -/
noncomputable def pending (τ : Nat) (s : Pool ι) : Nat := if Pending τ s then 1 else 0

section Pending

variable {τ : Nat} {s t : Pool ι}

omit [DecidableEq ι] in
theorem pending_le_one (τ : Nat) (s : Pool ι) : pending τ s ≤ 1 := by
  unfold pending
  split <;> omega

omit [DecidableEq ι] in
theorem pending_le (h : Pending τ t → Pending τ s) : pending τ t ≤ pending τ s := by
  unfold pending
  by_cases ht : Pending τ t
  · simp [ht, h ht]
  · simp [ht]

theorem pending_setWorker {w : ι} {q : Phase} (h : Pending τ (s.setWorker w q)) :
    Pending τ s ∨ ∃ j, q.unstarted = some j ∧ j.task = τ := by
  rcases h with hq | ⟨v, j, hj, rfl⟩
  · exact .inl (.inl hq)
  by_cases hv : v = w
  · subst hv
    rw [setWorker_workers_self] at hj
    exact .inr ⟨j, hj, rfl⟩
  · rw [setWorker_workers_of_ne _ _ hv] at hj
    exact .inl (.inr ⟨v, j, hj, rfl⟩)

theorem pending_release {w : ι} {q : Phase} (hq : q.unstarted = none)
    (h : Pending τ (s.setWorker w q)) : Pending τ s := by
  rcases pending_setWorker h with h | ⟨j, hj, -⟩
  · exact h
  · simp [hq] at hj

theorem pending_of_next (hdown : s.shutdown = true) {l : Label ι} (hstep : next s l = some t)
    (hl : l.starts τ = false) (hp : Pending τ t) : Pending τ s := by
  cases move_of_next hstep with
  | schedule _ _ h | drop h => simp [hdown] at h
  | cancel | tick => exact hp
  | pop w job hidle hmem =>
    rcases hp with ⟨q, hq, hqt⟩ | hp
    · exact .inl ⟨q, List.mem_of_mem_erase hq, hqt⟩
    rcases pending_setWorker (q := .popped job) (.inr hp) with hp | ⟨j, hj, hjt⟩
    · exact hp
    · cases hj
      exact .inl ⟨job, hmem, hjt⟩
  | exit | dropJob | panic | ret | start => exact pending_release rfl hp
  | repush w newJob =>
    rw [Pool.run, if_pos (show (s.setWorker w .idle).shutdown = true from hdown)] at hp
    exact pending_release rfl hp
  | pass w job hw =>
    rcases pending_setWorker hp with hp | ⟨j, hj, rfl⟩
    · exact hp
    · cases hj
      exact .inr ⟨w, job, by rw [hw]; rfl, rfl⟩

theorem not_pending_of_start (h : OneJobPerTask s) {w : ι} (hstep : next s (.start w τ) = some t) :
    Pending τ s ∧ ¬ Pending τ t := by
  cases move_of_next hstep with
  | start w job hw =>
    have hheld : (s.workers w).held = some job := by rw [hw]; rfl
    refine ⟨.inr ⟨w, job, by rw [hw]; rfl, rfl⟩, ?_⟩
    rintro (⟨q, hq, hqt⟩ | ⟨v, j, hj, hjt⟩)
    · exact h.held_not_queued w job hheld q hq hqt
    by_cases hv : v = w
    · subst hv
      simp [Phase.unstarted] at hj
    · rw [setWorker_workers_of_ne _ _ hv] at hj
      have hvj : (s.workers v).held = some j := by
        cases hsv : s.workers v <;> simp_all [Phase.unstarted, Phase.held]
      exact h.held_unique v w j job hv hvj hheld hjt

/-- After shutdown each call of `f` of `τ` spends the potential `pending τ`, and no
step raises it. -/
theorem pending_next (h : OneJobPerTask s) (hdown : s.shutdown = true) {l : Label ι}
    (hstep : next s l = some t) : pending τ t + (if l.starts τ then 1 else 0) ≤ pending τ s := by
  cases hl : l.starts τ
  · simpa using pending_le (pending_of_next hdown hstep hl)
  · obtain ⟨w, rfl⟩ : ∃ w, l = .start w τ := by
      cases l <;> simp_all [Label.starts]
    obtain ⟨hs, ht⟩ := not_pending_of_start h hstep
    simp [pending, hs, ht]

end Pending

/-- After shutdown the timer queue only drains. From a reachable state whose
`shutdown` is set, along any run: the flag stays set and the heap only loses
jobs (so its size never grows); each task calls `f` at most once more, and only
if it had a job in the heap or in a worker's hands before the call at the
shutdown; and `get_job` returns `None` exactly when it finds the heap empty. -/
theorem shutdown_queue_drains {s u : Pool ι} {ls : List (Label ι)}
    (hs : Reachable Init Step s) (hdown : s.shutdown = true) (hrun : Run Step s ls u) :
    u.shutdown = true ∧ u.queue.Sublist s.queue ∧
    (∀ τ, ls.countP (Label.starts τ) ≤ 1 ∧ (0 < ls.countP (Label.starts τ) → Pending τ s)) ∧
    (∀ w, (∃ t, Step u (.exit w) t) ↔ u.workers w = .idle ∧ u.queue = []) := by
  have hdrain : u.shutdown = true ∧ u.queue.Sublist s.queue :=
    hrun.invariant (fun t => t.shutdown = true ∧ t.queue.Sublist s.queue)
      (fun _ _ _ ⟨hd, hsub⟩ hst => ⟨(shutdown_next hd hst).1, (shutdown_next hd hst).2.trans hsub⟩)
      ⟨hdown, .refl _⟩
  refine ⟨hdrain.1, hdrain.2, fun τ => ?_, fun w => ?_⟩
  · have hbound := hrun.countP_le (fun t => OneJobPerTask t ∧ t.shutdown = true)
      (fun _ _ _ ⟨h, hd⟩ hst => ⟨oneJobPerTask_next h hst, (shutdown_next hd hst).1⟩)
      (pending τ) (Label.starts τ) (fun _ _ _ ⟨h, hd⟩ hst => pending_next h hd hst)
      ⟨oneJobPerTask_of_reachable hs, hdown⟩
    have hle := pending_le_one τ s
    refine ⟨by omega, fun hpos => ?_⟩
    by_contra hnot
    have hzero : pending τ s = 0 := by simp [pending, hnot]
    omega
  · simp [Step, next, hdrain.1]

/-- The pool's one worker. -/
def soleWorker : Fin 1 := ⟨0, Nat.one_pos⟩

/-- `checkedPool` dropped: its worker has passed the check of task 0's job. -/
def droppedPool : Pool (Fin 1) := (next checkedPool .drop).getD checkedPool

/-- The worker runs the job, its next job is discarded, and `get_job` ends the loop. -/
def drainLabels : List (Label (Fin 1)) :=
  [.start soleWorker 0, .ret soleWorker 0, .repush soleWorker 0, .exit soleWorker]

def exitedPool : Pool (Fin 1) := (exec next droppedPool drainLabels).getD droppedPool

example : exitedPool.queue = [] ∧ exitedPool.workers soleWorker = .exited := by decide

theorem shutdown_queue_drains_on_droppedPool :
    Reachable Init Step droppedPool ∧ droppedPool.shutdown = true ∧
    Run Step droppedPool drainLabels exitedPool ∧
    (exitedPool.shutdown = true ∧ exitedPool.queue.Sublist droppedPool.queue ∧
      (∀ τ, drainLabels.countP (Label.starts τ) ≤ 1 ∧
        (0 < drainLabels.countP (Label.starts τ) → Pending τ droppedPool)) ∧
      (∀ w, (∃ t, Step exitedPool (.exit w) t) ↔
        exitedPool.workers w = .idle ∧ exitedPool.queue = [])) := by
  have hreach : Reachable Init Step droppedPool :=
    ⟨newPool, checkedLabels ++ [.drop], ⟨rfl, rfl, rfl, rfl, fun _ => rfl⟩, Run.of_exec rfl⟩
  exact ⟨hreach, rfl, Run.of_exec rfl, shutdown_queue_drains hreach rfl (Run.of_exec rfl)⟩

/-! ### Due times of periodic tasks -/

/-- Job `j` of task `τ` is in the pool: in the heap or in a worker's hands. -/
def JobOf (τ : Nat) (s : Pool ι) (j : Job) : Prop :=
  (j ∈ s.queue ∨ ∃ w, (s.workers w).held = some j) ∧ j.task = τ

/-- `f` of task `τ` returns. -/
def Label.returns (τ : Nat) : Label ι → Bool
  | .ret _ task => task == τ
  | _ => false

theorem reschedule_fixedDelay {job : Job} {delay : Nat} (h : job.typ = .fixedDelay delay)
    (now : Nat) : job.reschedule now = { job with time := job.time + delay } := by
  simp [Job.reschedule, h]

theorem reschedule_fixedRate {job : Job} {rate : Nat} (h : job.typ = .fixedRate rate)
    (now : Nat) : job.reschedule now = { job with time := now + rate } := by
  simp [Job.reschedule, h]

@[simp] theorem reschedule_typ (job : Job) (now : Nat) : (job.reschedule now).typ = job.typ := by
  unfold Job.reschedule
  split <;> rfl

section JobOf

variable {τ : Nat} {s t : Pool ι} {j : Job}

theorem jobOf_setWorker {w : ι} {q : Phase} (h : JobOf τ (s.setWorker w q) j) :
    JobOf τ s j ∨ q.held = some j := by
  obtain ⟨hq | ⟨v, hv⟩, hjt⟩ := h
  · exact .inl ⟨.inl hq, hjt⟩
  by_cases hvw : v = w
  · subst hvw
    rw [setWorker_workers_self] at hv
    exact .inr hv
  · rw [setWorker_workers_of_ne _ _ hvw] at hv
    exact .inl ⟨.inr ⟨v, hv⟩, hjt⟩

omit [DecidableEq ι] in
theorem jobOf_run {job : Job} (h : JobOf τ (s.run job) j) : JobOf τ s j ∨ j = job := by
  unfold Pool.run at h
  split at h
  · exact .inl h
  obtain ⟨hq | hw, hjt⟩ := h
  · rcases List.mem_append.mp hq with hq | hq
    · exact .inl ⟨.inl hq, hjt⟩
    · exact .inr (List.mem_singleton.mp hq)
  · exact .inl ⟨.inr hw, hjt⟩

theorem jobOf_of_next (hτ : τ < s.nextTask) {l : Label ι} (hstep : next s l = some t)
    (hl : l.returns τ = false) (hj : JobOf τ t j) : JobOf τ s j := by
  cases move_of_next hstep with
  | schedule typ d =>
    rcases jobOf_run (show JobOf τ (s.run ⟨typ, s.clock + d, s.nextTask⟩) j from hj) with h | rfl
    · exact h
    · exact absurd hj.2 (Nat.ne_of_gt hτ)
  | cancel | drop | tick => exact hj
  | pop w job hidle hmem =>
    obtain ⟨hq | hw, hjt⟩ := hj
    · exact ⟨.inl (List.mem_of_mem_erase hq), hjt⟩
    rcases jobOf_setWorker (q := .popped job) ⟨.inr hw, hjt⟩ with h | hq
    · exact h
    · cases hq
      exact ⟨.inl hmem, hjt⟩
  | exit | dropJob | panic =>
    rcases jobOf_setWorker hj with h | hq
    · exact h
    · cases hq
  | pass w job hw | start w job hw =>
    rcases jobOf_setWorker hj with h | hq
    · exact h
    · cases hq
      exact ⟨.inr ⟨w, by rw [hw]; rfl⟩, hj.2⟩
  | ret w job hw =>
    rcases jobOf_setWorker hj with h | hq
    · exact h
    · cases hq
      have hne : job.task ≠ τ := by simpa [Label.returns] using hl
      exact absurd (by simpa using hj.2) hne
  | repush w newJob hw =>
    rcases jobOf_run hj with h | rfl
    · rcases jobOf_setWorker h with h | hq
      · exact h
      · cases hq
    · exact ⟨.inr ⟨w, by rw [hw]; rfl⟩, hj.2⟩

/-- After `f` of `τ` returns, the one job of `τ` is the `new_job` built from the one
that ran. -/
theorem jobOf_ret (h : OneJobPerTask s) {w : ι} (hstep : next s (.ret w τ) = some t)
    (hj : JobOf τ t j) :
    ∃ job, s.workers w = .running job ∧ job.task = τ ∧ j = job.reschedule s.clock := by
  cases move_of_next hstep with
  | ret w job hw =>
    have hheld : (s.workers w).held = some job := by rw [hw]; rfl
    obtain ⟨hq | ⟨v, hv⟩, hjt⟩ := hj
    · exact absurd hjt (h.held_not_queued w job hheld j hq)
    by_cases hvw : v = w
    · subst hvw
      rw [setWorker_workers_self] at hv
      cases hv
      exact ⟨job, hw, rfl, rfl⟩
    · rw [setWorker_workers_of_ne _ _ hvw] at hv
      exact absurd hjt (h.held_unique v w j job hvw hv hheld)

end JobOf

/-- Every job of the scheduled task `τ` has `P`, and each task has one job. -/
structure TaskJobs (τ : Nat) (P : Job → Prop) (s : Pool ι) : Prop where
  one : OneJobPerTask s
  scheduled : τ < s.nextTask
  jobs : ∀ j, JobOf τ s j → P j

section TaskJobs

variable {τ : Nat} {P Q : Job → Prop} {s t : Pool ι}

omit [DecidableEq ι] in
theorem TaskJobs.mono (h : TaskJobs τ P s) (hPQ : ∀ j, P j → Q j) : TaskJobs τ Q s :=
  ⟨h.one, h.scheduled, fun j hj => hPQ j (h.jobs j hj)⟩

theorem taskJobs_next (h : TaskJobs τ P s) {l : Label ι} (hstep : next s l = some t)
    (hl : l.returns τ = false) : TaskJobs τ P t :=
  ⟨oneJobPerTask_next h.one hstep, Nat.lt_of_lt_of_le h.scheduled (nextTask_le_of_next hstep),
    fun j hj => h.jobs j (jobOf_of_next h.scheduled hstep hl hj)⟩

theorem taskJobs_ret (h : TaskJobs τ P s) {w : ι} (hstep : next s (.ret w τ) = some t) :
    TaskJobs τ (fun j => ∃ job, P job ∧ j = job.reschedule s.clock) t := by
  refine ⟨oneJobPerTask_next h.one hstep, Nat.lt_of_lt_of_le h.scheduled (nextTask_le_of_next hstep),
    fun j hj => ?_⟩
  obtain ⟨job, hw, hjt, rfl⟩ := jobOf_ret h.one hstep hj
  exact ⟨job, h.jobs job ⟨.inr ⟨w, by rw [hw]; rfl⟩, hjt⟩, rfl⟩

omit [DecidableEq ι] in
theorem returns_eq_true {l : Label ι} (hl : l.returns τ = true) : ∃ w, l = .ret w τ := by
  cases l <;> simp_all [Label.returns]

/-- A property of jobs that rescheduling keeps holds of the jobs of `τ` along any run. -/
theorem taskJobs_next_of_reschedule (hP : ∀ job now, P job → P (job.reschedule now))
    (h : TaskJobs τ P s) {l : Label ι} (hstep : next s l = some t) : TaskJobs τ P t := by
  cases hl : l.returns τ
  · exact taskJobs_next h hstep hl
  · obtain ⟨w, rfl⟩ := returns_eq_true hl
    exact (taskJobs_ret h hstep).mono fun _ ⟨job, hjob, hj⟩ => hj ▸ hP job _ hjob

/-- `schedule_at_fixed_rate`/`_delay` gives the fresh task its first job. -/
theorem taskJobs_schedule (h : OneJobPerTask s) {typ : JobType} {d : Nat}
    (hstep : next s (.schedule typ d) = some t) :
    TaskJobs s.nextTask (fun j => j = ⟨typ, s.clock + d, s.nextTask⟩) t := by
  cases move_of_next hstep with
  | schedule _ _ hs =>
    refine ⟨h.schedule hs _ _ _, Nat.lt_succ_self _, fun j hj => ?_⟩
    rcases jobOf_run (show JobOf s.nextTask (s.run ⟨typ, s.clock + d, s.nextTask⟩) j from hj) with
      ⟨hq | ⟨w, hw⟩, hjt⟩ | rfl
    · exact absurd hjt (Nat.ne_of_lt (h.queue_scheduled j hq))
    · exact absurd hjt (Nat.ne_of_lt (h.held_scheduled w j hw))
    · rfl

/-- A fixed-delay task stays on the grid of its first due time: after `n` returns
of `f` its job is due `n` delays after the first. -/
theorem grid_next {t₀ delay n : Nat}
    (h : TaskJobs τ (fun j => j.typ = .fixedDelay delay ∧ j.time = t₀ + n * delay) s)
    {l : Label ι} (hstep : next s l = some t) :
    TaskJobs τ (fun j => j.typ = .fixedDelay delay ∧
      j.time = t₀ + (n + if l.returns τ then 1 else 0) * delay) t := by
  cases hl : l.returns τ
  · simpa using taskJobs_next h hstep hl
  · obtain ⟨w, rfl⟩ := returns_eq_true hl
    refine (taskJobs_ret h hstep).mono ?_
    rintro j ⟨job, ⟨htyp, htime⟩, rfl⟩
    rw [reschedule_fixedDelay htyp]
    exact ⟨htyp, by simp [htime, Nat.add_mul, Nat.add_assoc]⟩

end TaskJobs

/-- Periodic rescheduling follows the other kind's law. A fixed-delay task's job,
after `n` returns of its `f`, is due at `t₀ + d + n * delay` whatever the clock
at those returns: the law documented for fixed rate. A fixed-rate task's job,
from the last return of its `f` on, is due at the clock of that return plus the
rate, so its due times move with `f`'s running time: the law of fixed delay. -/
theorem periodic_laws_swapped {s₀ s₁ u : Pool ι} {typ : JobType} {d : Nat} {ls : List (Label ι)}
    (hs : Reachable Init Step s₀) (hsched : Step s₀ (.schedule typ d) s₁)
    (hrun : Run Step s₁ ls u) :
    (∀ delay, typ = .fixedDelay delay → ∀ j, JobOf s₀.nextTask u j →
      j.time = s₀.clock + d + ls.countP (Label.returns s₀.nextTask) * delay) ∧
    (∀ rate, typ = .fixedRate rate → ∀ ls₁ w ls₂ v, ls = ls₁ ++ .ret w s₀.nextTask :: ls₂ →
      Run Step s₁ ls₁ v → ls₂.countP (Label.returns s₀.nextTask) = 0 →
      ∀ j, JobOf s₀.nextTask u j → j.time = v.clock + rate) := by
  have h₁ := taskJobs_schedule (oneJobPerTask_of_reachable hs) hsched
  constructor
  · rintro delay rfl j hj
    have hgrid := hrun.invariant_countP
      (fun n t => TaskJobs s₀.nextTask
        (fun j => j.typ = .fixedDelay delay ∧ j.time = s₀.clock + d + n * delay) t)
      (Label.returns s₀.nextTask) (fun _ _ _ _ h hst => grid_next h hst)
      (n := 0) (h₁.mono fun _ hj => by simp [hj])
    simpa using (hgrid.jobs j hj).2
  · rintro rate rfl ls₁ w ls₂ v rfl hv hnone j hj
    obtain ⟨v', hv', hrest⟩ := hrun.split
    obtain rfl : v = v' := Run.unique hv hv'
    obtain _ | ⟨hret, hrest⟩ := hrest
    have htyp := hv.invariant (TaskJobs s₀.nextTask fun j => j.typ = .fixedRate rate)
      (fun _ _ _ h hst => taskJobs_next_of_reschedule (fun _ _ h => by simpa using h) h hst)
      (h₁.mono fun _ hj => by simp [hj])
    have hdue : TaskJobs s₀.nextTask (fun j => j.time = v.clock + rate) _ :=
      (taskJobs_ret htyp hret).mono fun _ ⟨job, hjob, hj⟩ => by rw [hj, reschedule_fixedRate hjob]
    have hend := hrest.invariant_countP
      (fun n t => n = 0 → TaskJobs s₀.nextTask (fun j => j.time = v.clock + rate) t)
      (Label.returns s₀.nextTask) (fun n _ l _ h hst => by
        cases hl : l.returns s₀.nextTask
        · simpa [hl] using fun hn => taskJobs_next (h hn) hst hl
        · simp)
      (n := 0) (fun _ => hdue)
    exact (hend (by simpa using hnone)).jobs j hj

/-- A pool with one worker, after scheduling a task of period 5 at once. -/
def scheduledPool (typ : JobType) : Pool (Fin 1) :=
  (next newPool (.schedule typ 0)).getD newPool

/-- The task's first job runs at 0, and its `f` takes 3 time units. -/
def slowStart (typ : JobType) : List (Label (Fin 1)) :=
  [.pop soleWorker ⟨typ, 0, 0⟩, .check soleWorker 0 false, .start soleWorker 0, .tick 3]

def slowRun (typ : JobType) : List (Label (Fin 1)) := slowStart typ ++ [.ret soleWorker 0]

def slowPool (typ : JobType) : Pool (Fin 1) :=
  (exec next (scheduledPool typ) (slowRun typ)).getD newPool

/-- With an `f` that runs 3 units, the second run of a fixed-rate task of period 5
is due at 8, not at 5; that of a fixed-delay task at 5, not 3 after `f` returned. -/
theorem periodic_laws_swapped_on_slowRun :
    JobOf 0 (slowPool (.fixedRate 5)) ⟨.fixedRate 5, 8, 0⟩ ∧
    (∀ j, JobOf 0 (slowPool (.fixedRate 5)) j → j.time = 8) ∧
    JobOf 0 (slowPool (.fixedDelay 5)) ⟨.fixedDelay 5, 5, 0⟩ ∧
    (∀ j, JobOf 0 (slowPool (.fixedDelay 5)) j → j.time = 5) := by
  have hreach : Reachable Init Step newPool :=
    ⟨newPool, [], ⟨rfl, rfl, rfl, rfl, fun _ => rfl⟩, .nil _⟩
  have hsched : ∀ typ, Step newPool (.schedule typ 0) (scheduledPool typ) := fun _ => rfl
  have hrate : Run Step (scheduledPool (.fixedRate 5)) (slowRun (.fixedRate 5))
      (slowPool (.fixedRate 5)) := Run.of_exec rfl
  have hdelay : Run Step (scheduledPool (.fixedDelay 5)) (slowRun (.fixedDelay 5))
      (slowPool (.fixedDelay 5)) := Run.of_exec rfl
  have hstart : Run Step (scheduledPool (.fixedRate 5)) (slowStart (.fixedRate 5))
      ((exec next (scheduledPool (.fixedRate 5)) (slowStart (.fixedRate 5))).getD newPool) :=
    Run.of_exec rfl
  refine ⟨⟨.inr ⟨0, rfl⟩, rfl⟩, fun j hj => ?_, ⟨.inr ⟨0, rfl⟩, rfl⟩, fun j hj => ?_⟩
  · exact (periodic_laws_swapped hreach (hsched _) hrate).2 5 rfl _ 0 [] _ rfl hstart rfl j hj
  · exact (periodic_laws_swapped hreach (hsched _) hdelay).1 5 rfl j hj

end SchedPool
