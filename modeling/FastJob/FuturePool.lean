import FastJob.Transition

/-!
# The task cap of `FuturePool` (`utils::yatp_pool::future_pool`)

`FuturePool::spawn` and `spawn_handle` admit a future only while
`running_task_count` is below `max_tasks`: `gate_spawn` loads the counter and
compares, then the caller increments it with `fetch_add`, and hands the
wrapped future to the pool, which decrements the counter with `fetch_sub`
once the future has completed. Each calling thread `w : ι` takes these as
separate atomic steps, and a task's `fetch_sub` is one more step, so a run of
the model is an interleaving of all of them.

The counter is an `AtomicI64` read as a `usize`; it is never negative
(`Inv.count_eq`), so the cast is `Int.toNat`. The counter does not come near
the wrap-around of an `i64`, which is not modelled. The `oneshot` channel of
`spawn_handle` sends after the `fetch_sub` and does not touch the counter.
-/
namespace FuturePool

open Transition

/-- `std::usize::MAX`. -/
def usizeMax : Nat := 2 ^ 64 - 1

/-- `Full`: the error of a spawn refused by the cap. -/
structure Full where
  currentTasks : Nat
  maxTasks : Nat
  deriving DecidableEq, Repr

/-- `get_running_task_count`: the counter read as a `usize`. -/
def getRunningTaskCount (runningTaskCount : Int) : Nat := runningTaskCount.toNat

/-- `gate_spawn`. -/
def gateSpawn (maxTasks : Nat) (runningTaskCount : Int) : Except Full Unit :=
  if maxTasks = usizeMax then .ok ()
  else
    let currentTasks := getRunningTaskCount runningTaskCount
    if currentTasks ≥ maxTasks then .error ⟨currentTasks, maxTasks⟩ else .ok ()

/-- Where a call of `spawn` or `spawn_handle` is: `gated` has passed `gate_spawn`,
`added` has done its `fetch_add` and not yet handed the future to the pool. -/
inductive Call where
  | idle
  | gated
  | added
  deriving DecidableEq, Repr

/-- The counter, the spawned tasks that have not done their `fetch_sub`, and the
callers. -/
structure State (ι : Type) where
  runningTaskCount : Int
  tasks : Nat
  callers : ι → Call

/-- The atomic steps of the callers and of the tasks. -/
inductive Label (ι : Type) where
  /-- `gate_spawn`; `ok` is its answer. -/
  | gate (w : ι) (ok : Bool)
  /-- `count.fetch_add(1, ..)`. -/
  | fetchAdd (w : ι)
  /-- `self.pool.spawn(..)`: the task exists and the call returns `Ok`. -/
  | spawn (w : ι)
  /-- A task's future completes and its `count.fetch_sub(1, ..)` runs. -/
  | finish

variable {ι : Type} [DecidableEq ι]

def State.setCaller (s : State ι) (w : ι) (c : Call) : State ι :=
  { s with callers := Function.update s.callers w c }

/-- One step under the cap `maxTasks`; `none` when the action is not enabled. A
refused call (`gate w false`) returns `Err(Full)` and changes nothing. -/
def next (maxTasks : Nat) (s : State ι) : Label ι → Option (State ι)
  | .gate w ok =>
    if s.callers w = .idle ∧ (gateSpawn maxTasks s.runningTaskCount).isOk = ok then
      some (if ok then s.setCaller w .gated else s)
    else none
  | .fetchAdd w =>
    if s.callers w = .gated then
      some { s.setCaller w .added with runningTaskCount := s.runningTaskCount + 1 }
    else none
  | .spawn w =>
    if s.callers w = .added then some { s.setCaller w .idle with tasks := s.tasks + 1 } else none
  | .finish =>
    if 0 < s.tasks then
      some { s with tasks := s.tasks - 1, runningTaskCount := s.runningTaskCount - 1 }
    else none

def Step (maxTasks : Nat) (s : State ι) (l : Label ι) (t : State ι) : Prop :=
  next maxTasks s l = some t

/-- `FuturePool::from_pool`: the counter at zero, no task, no call under way. -/
def Init (s : State ι) : Prop :=
  s.runningTaskCount = 0 ∧ s.tasks = 0 ∧ ∀ w, s.callers w = .idle

/-- The enabled actions of `next`, with their guards and successor states. -/
inductive Move (maxTasks : Nat) (s : State ι) : Label ι → State ι → Prop where
  | pass (w : ι) (hw : s.callers w = .idle)
      (hok : (gateSpawn maxTasks s.runningTaskCount).isOk = true) :
      Move maxTasks s (.gate w true) (s.setCaller w .gated)
  | full (w : ι) (hw : s.callers w = .idle)
      (hfull : (gateSpawn maxTasks s.runningTaskCount).isOk = false) :
      Move maxTasks s (.gate w false) s
  | fetchAdd (w : ι) (hw : s.callers w = .gated) :
      Move maxTasks s (.fetchAdd w)
        { s.setCaller w .added with runningTaskCount := s.runningTaskCount + 1 }
  | spawn (w : ι) (hw : s.callers w = .added) :
      Move maxTasks s (.spawn w) { s.setCaller w .idle with tasks := s.tasks + 1 }
  | finish (h : 0 < s.tasks) :
      Move maxTasks s .finish
        { s with tasks := s.tasks - 1, runningTaskCount := s.runningTaskCount - 1 }

/-- Inversion of `next`. -/
theorem move_of_next {maxTasks : Nat} {s t : State ι} {l : Label ι}
    (h : next maxTasks s l = some t) : Move maxTasks s l t := by
  cases l with
  | gate w ok =>
    simp only [next] at h
    split at h
    · rename_i hc
      obtain ⟨hw, hok⟩ := hc
      cases h
      cases ok
      · exact .full w hw hok
      · exact .pass w hw hok
    · cases h
  | fetchAdd w =>
    simp only [next] at h
    split at h
    · rename_i hw
      cases h
      exact .fetchAdd w hw
    · cases h
  | spawn w =>
    simp only [next] at h
    split at h
    · rename_i hw
      cases h
      exact .spawn w hw
    · cases h
  | finish =>
    simp only [next] at h
    split at h
    · rename_i ht
      cases h
      exact .finish ht
    · cases h

theorem lt_of_gateSpawn {maxTasks : Nat} {runningTaskCount : Int} (hmax : maxTasks ≠ usizeMax)
    (hok : (gateSpawn maxTasks runningTaskCount).isOk = true) :
    runningTaskCount.toNat < maxTasks := by
  unfold gateSpawn at hok
  rw [if_neg hmax] at hok
  by_contra hge
  simp [getRunningTaskCount, not_lt.mp hge, Except.isOk, Except.toBool] at hok

/-! ### Counting the callers -/

variable [Fintype ι]

def callersIn (c : Call) (s : State ι) : Nat := ∑ w, if s.callers w = c then 1 else 0

theorem sum_update_add {β : Type} (f : ι → β) (w : ι) (q : β) (g : β → Nat) :
    ∑ v, g (Function.update f w q v) + g (f w) = ∑ v, g (f v) + g q := by
  have h₁ : ∑ v, g (Function.update f w q v) = g q + ∑ v ∈ Finset.univ.erase w, g (f v) := by
    have h := Finset.sum_update_of_mem (Finset.mem_univ w) (g ∘ f) (g q)
    rw [← Function.comp_update, Finset.sdiff_singleton_eq_erase] at h
    exact h
  have h₂ := Finset.add_sum_erase Finset.univ (fun v => g (f v)) (Finset.mem_univ w)
  omega

theorem callersIn_setCaller (s : State ι) (w : ι) (q c : Call) :
    callersIn c (s.setCaller w q) + (if s.callers w = c then 1 else 0) =
      callersIn c s + if q = c then 1 else 0 :=
  sum_update_add s.callers w q fun p => if p = c then 1 else 0

theorem callersIn_gated_le {s : State ι} {w : ι} (hw : s.callers w = .idle) :
    callersIn .gated s + 1 ≤ Fintype.card ι := by
  have hsplit := Finset.add_sum_erase Finset.univ
    (fun v => if s.callers v = .gated then 1 else 0) (Finset.mem_univ w)
  have hrest := Finset.sum_le_card_nsmul (Finset.univ.erase w)
    (fun v => if s.callers v = .gated then 1 else 0) 1 (fun v _ => by split <;> omega)
  have hcard := Finset.card_erase_of_mem (Finset.mem_univ w)
  have hpos : 0 < Fintype.card ι := Fintype.card_pos_iff.mpr ⟨w⟩
  simp only [hw, reduceCtorEq, if_false, zero_add, smul_eq_mul, mul_one] at hsplit hrest
  rw [Finset.card_univ] at hcard
  unfold callersIn
  omega

/-! ### The counter -/

/-- The counter counts the spawned tasks not yet finished and the calls between
their `fetch_add` and `pool.spawn`; with the gated calls added it stays within
`maxTasks + N - 1` for `N` callers. -/
structure Inv (maxTasks : Nat) (s : State ι) : Prop where
  count_eq : s.runningTaskCount = (s.tasks + callersIn .added s : Nat)
  bound : s.tasks + callersIn .added s + callersIn .gated s ≤ maxTasks + Fintype.card ι - 1

omit [DecidableEq ι] in
theorem inv_init {maxTasks : Nat} {s : State ι} (h : Init s) : Inv maxTasks s := by
  obtain ⟨hc, ht, hw⟩ := h
  have hzero : ∀ c, c ≠ .idle → callersIn c s = 0 := by
    intro c hc
    simp [callersIn, hw, Ne.symm hc]
  refine ⟨?_, ?_⟩
  · simp [hc, ht, hzero .added (by decide)]
  · simp [ht, hzero .added (by decide), hzero .gated (by decide)]

/-- Every step keeps `Inv`: only a call passing the gate raises the counted
total, and it saw the counter below the cap with itself not yet gated. -/
theorem inv_next {maxTasks : Nat} (hmax : maxTasks ≠ usizeMax) {s t : State ι} {l : Label ι}
    (h : Inv maxTasks s) (hstep : next maxTasks s l = some t) : Inv maxTasks t := by
  obtain ⟨hcount, hbound⟩ := h
  cases move_of_next hstep with
  | pass w hw hok =>
    have hlt := lt_of_gateSpawn hmax hok
    have hg := callersIn_setCaller s w .gated .gated
    have ha := callersIn_setCaller s w .gated .added
    have hle := callersIn_gated_le hw
    simp only [hw, reduceCtorEq, if_false, if_true, add_zero] at hg ha
    rw [hcount] at hlt
    refine ⟨?_, ?_⟩
    · simp only [State.setCaller] at ha ⊢
      rw [hcount, ← ha]
      rfl
    · simp only [Int.toNat_natCast] at hlt
      simp only [State.setCaller] at hg ha ⊢
      omega
  | full => exact ⟨hcount, hbound⟩
  | fetchAdd w hw =>
    have hg := callersIn_setCaller s w .added .gated
    have ha := callersIn_setCaller s w .added .added
    simp only [hw, reduceCtorEq, if_false, if_true, add_zero] at hg ha
    refine ⟨?_, ?_⟩
    · change s.runningTaskCount + 1 = ((s.tasks + callersIn .added (s.setCaller w .added) : Nat) : Int)
      rw [hcount]
      omega
    · change s.tasks + callersIn .added (s.setCaller w .added) +
        callersIn .gated (s.setCaller w .added) ≤ _
      omega
  | spawn w hw =>
    have hg := callersIn_setCaller s w .idle .gated
    have ha := callersIn_setCaller s w .idle .added
    simp only [hw, reduceCtorEq, if_false, if_true, add_zero] at hg ha
    refine ⟨?_, ?_⟩
    · change s.runningTaskCount = ((s.tasks + 1 + callersIn .added (s.setCaller w .idle) : Nat) : Int)
      rw [hcount]
      omega
    · change s.tasks + 1 + callersIn .added (s.setCaller w .idle) +
        callersIn .gated (s.setCaller w .idle) ≤ _
      omega
  | finish ht =>
    refine ⟨?_, ?_⟩
    · change s.runningTaskCount - 1 = ((s.tasks - 1 + callersIn .added s : Nat) : Int)
      rw [hcount]
      omega
    · change s.tasks - 1 + callersIn .added s + callersIn .gated s ≤ _
      omega

/-- The task cap of `FuturePool`, as it holds. With `max_tasks < usize::MAX`, in
every state that any interleaving of spawns by `N` threads and task completions
reaches, `running_task_count` equals the number of spawned tasks not yet
finished plus the calls between their `fetch_add` and `pool.spawn`, and it
never exceeds `max_tasks + N - 1` (so never `max_tasks` with one spawning
thread); a spawn refused with `Err(Full)` changes nothing. -/
theorem spawn_cap_overshoot {maxTasks : Nat} (hmax : maxTasks < usizeMax) {s : State ι}
    (hs : Reachable Init (Step maxTasks) s) :
    s.runningTaskCount = (s.tasks + callersIn .added s : Nat) ∧
    s.runningTaskCount ≤ (maxTasks + Fintype.card ι - 1 : Nat) ∧
    ∀ w t, Step maxTasks s (.gate w false) t → t = s := by
  have h : Inv maxTasks s :=
    hs.invariant _ (fun _ => inv_init) (fun _ _ _ h hst => inv_next (Nat.ne_of_lt hmax) h hst)
  refine ⟨h.count_eq, ?_, fun w t hst => ?_⟩
  · rw [h.count_eq]
    have := h.bound
    omega
  · cases move_of_next hst with
    | full => rfl

def firstThread : Fin 2 := ⟨0, Nat.zero_lt_two⟩

def secondThread : Fin 2 := ⟨1, Nat.one_lt_two⟩

/-- Two threads spawn under a cap of one: both pass the gate before either
increments the counter. -/
def raceLabels : List (Label (Fin 2)) :=
  [.gate firstThread true, .gate secondThread true, .fetchAdd firstThread, .fetchAdd secondThread]

def freshPool : State (Fin 2) := ⟨0, 0, fun _ => .idle⟩

def racedPool : State (Fin 2) := (exec (next 1) freshPool raceLabels).getD freshPool

/-- The cap of one is exceeded: two tasks are counted. -/
theorem racedPool_exceeds_cap :
    Reachable Init (Step 1) racedPool ∧ racedPool.runningTaskCount = 2 :=
  ⟨⟨freshPool, raceLabels, ⟨rfl, rfl, fun _ => rfl⟩, Run.of_exec rfl⟩, rfl⟩

theorem spawn_cap_overshoot_on_racedPool :
    1 < usizeMax ∧ Reachable Init (Step 1) racedPool ∧
    (racedPool.runningTaskCount = (racedPool.tasks + callersIn .added racedPool : Nat) ∧
      racedPool.runningTaskCount ≤ (1 + Fintype.card (Fin 2) - 1 : Nat) ∧
      ∀ w t, Step 1 racedPool (.gate w false) t → t = racedPool) := by
  have hreach : Reachable Init (Step 1) racedPool :=
    ⟨freshPool, raceLabels, ⟨rfl, rfl, fun _ => rfl⟩, Run.of_exec rfl⟩
  exact ⟨by decide, hreach, spawn_cap_overshoot (by decide) hreach⟩

end FuturePool
