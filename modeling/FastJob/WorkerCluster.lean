import FastJob.Storage

/-!
# The workers of an app: `WorkerClusterHolder` (`worker/src/lib.rs`)

`handle_worker_heartbeat` keeps one `WorkerClusterHolder` per app and hands it
every heartbeat of that app's workers. `update_worker_status` keeps, for each
worker address, the `Worker` refreshed from its heartbeats, and for each
deployed container the reports of it; `get_suitable_worker` filters the
workers with `Worker::is_available`, sorts them with `Ord for Worker`, and
returns them.

The `HashMap`s are association lists with distinct keys (`AList`); their
iteration order is not specified by the source and nothing below depends on
it. The figures of `WorkerIndicators` and the `f64` minimums of `JobInfo` are
floating-point numbers in the source and exact rationals here. The gRPC
`client` of a `Worker` and the `app_name` of the holder are only carried or
logged, and are left out.
-/

namespace WorkerCluster

open Storage

/-- `WorkerIndicators`: the load figures a heartbeat reports. -/
structure WorkerIndicators where
  cpuProcessors : ℚ := 0
  cpuLoad : ℚ := 0
  jvmUsedMemory : ℚ := 0
  jvmMaxMemory : ℚ := 0
  diskUsed : ℚ := 0
  diskTotal : ℚ := 0
  deriving DecidableEq, Repr

/-- `DeployContainerInfo`: the container's id, the worker address that
`get_container_infos` fills in, and the other fields of the message, which the
modelled functions only carry. -/
structure DeployContainerInfo where
  containerId : Nat
  workerAddress : String := ""
  payload : String := ""
  deriving DecidableEq, Repr

/-- `HeartBeatRequest`, with the fields `update_worker_status` reads. -/
structure HeartBeatRequest where
  workerAddress : String
  heartbeatTime : Int
  tag : String := ""
  indicators : WorkerIndicators := {}
  deployContainerInfo : List DeployContainerInfo := []
  deriving DecidableEq, Repr

/-- `Worker`, without its gRPC `client`. -/
structure Worker where
  address : String
  lastActiveTime : Int
  tag : String
  indicators : WorkerIndicators
  deriving DecidableEq, Repr

/-- `Worker::new`. -/
def Worker.new : Worker := ⟨"", 0, "", {}⟩

/-- `Worker::refresh`: every field the worker has is taken from the heartbeat. -/
def Worker.refresh (w : Worker) (heartbeat : HeartBeatRequest) : Worker :=
  { w with address := heartbeat.workerAddress, lastActiveTime := heartbeat.heartbeatTime,
           tag := heartbeat.tag, indicators := heartbeat.indicators }

theorem refresh_eq (w : Worker) (heartbeat : HeartBeatRequest) :
    w.refresh heartbeat = Worker.new.refresh heartbeat := rfl

/-- `WorkerClusterHolder`: the workers by address, and for each container id the
reports of it by worker address. -/
structure WorkerClusterHolder where
  workers : AList (fun _ : String => Worker)
  containers : AList (fun _ : Nat => AList (fun _ : String => DeployContainerInfo))

/-- `WorkerClusterHolder::new`. -/
def WorkerClusterHolder.new : WorkerClusterHolder := ⟨∅, ∅⟩

/-- The containers of an accepted heartbeat: `entry(container_id).or_insert_with(..)`
creates the map of a container id with this report, and does nothing to the map
of an id already present. -/
def recordContainers (address : String) (containers : AList (fun _ : Nat =>
    AList (fun _ : String => DeployContainerInfo))) (container : DeployContainerInfo) :
    AList (fun _ : Nat => AList (fun _ : String => DeployContainerInfo)) :=
  if (containers.lookup container.containerId).isSome then containers
  else containers.insert container.containerId (AList.singleton address container)

/-- `WorkerClusterHolder::update_worker_status`. -/
def WorkerClusterHolder.updateWorkerStatus (h : WorkerClusterHolder)
    (heartbeat : HeartBeatRequest) : WorkerClusterHolder :=
  let address := heartbeat.workerAddress
  let heartbeatTime := heartbeat.heartbeatTime
  -- `entry(address).or_insert_with(..)`: a worker seen first is refreshed by this heartbeat
  let worker := (h.workers.lookup address).getD (Worker.new.refresh heartbeat)
  let workers := h.workers.insert address worker
  if heartbeatTime < worker.lastActiveTime then { h with workers }
  else
    let containerInfos := heartbeat.deployContainerInfo
    { workers := workers.insert address (worker.refresh heartbeat),
      containers := if containerInfos.isEmpty then h.containers
        else containerInfos.foldl (recordContainers address) h.containers }

/-- The holder after the heartbeats `heartbeats`, in their arrival order. -/
def WorkerClusterHolder.receive (h : WorkerClusterHolder) (heartbeats : List HeartBeatRequest) :
    WorkerClusterHolder :=
  heartbeats.foldl WorkerClusterHolder.updateWorkerStatus h

/-! ### Workers follow their latest heartbeat -/

theorem workers_updateWorkerStatus (h : WorkerClusterHolder) (heartbeat : HeartBeatRequest) :
    (h.updateWorkerStatus heartbeat).workers =
      let worker := (h.workers.lookup heartbeat.workerAddress).getD (Worker.new.refresh heartbeat)
      h.workers.insert heartbeat.workerAddress
        (if heartbeat.heartbeatTime < worker.lastActiveTime then worker else worker.refresh heartbeat) := by
  unfold WorkerClusterHolder.updateWorkerStatus
  dsimp only
  split <;> simp [*, AList.insert_insert]

/-- What a heartbeat does to the worker of an address: a worker seen first takes
the heartbeat, an older heartbeat leaves it, any other refreshes it. -/
theorem lookup_updateWorkerStatus (h : WorkerClusterHolder) (heartbeat : HeartBeatRequest)
    (a : String) :
    (h.updateWorkerStatus heartbeat).workers.lookup a =
      if a = heartbeat.workerAddress then
        (h.workers.lookup a).elim (some (Worker.new.refresh heartbeat)) fun w =>
          if heartbeat.heartbeatTime < w.lastActiveTime then some w
          else some (Worker.new.refresh heartbeat)
      else h.workers.lookup a := by
  rw [workers_updateWorkerStatus]
  by_cases ha : a = heartbeat.workerAddress
  · subst ha
    rw [if_pos rfl, AList.lookup_insert]
    cases hw : h.workers.lookup heartbeat.workerAddress with
    | none => simp [refresh_eq (Worker.new.refresh heartbeat)]
    | some w =>
      by_cases hlt : heartbeat.heartbeatTime < w.lastActiveTime
      · simp [hlt]
      · simp [hlt, refresh_eq w]
  · rw [if_neg ha, AList.lookup_insert_ne ha]

/-- The heartbeat a worker entry should show: among the heartbeats from
`address`, the last of those with the largest time. -/
def LatestOf (address : String) (heartbeats : List HeartBeatRequest) (hb : HeartBeatRequest) :
    Prop :=
  ∃ pre post, heartbeats.filter (·.workerAddress == address) = pre ++ hb :: post ∧
    (∀ h ∈ pre, h.heartbeatTime ≤ hb.heartbeatTime) ∧
    (∀ h ∈ post, h.heartbeatTime < hb.heartbeatTime)

/-- The worker entry of `address` after `heartbeats`, from the entry `init`: `init`
while every heartbeat from the address is older than it (so, with no entry, while
none came), and otherwise a worker at the address whose last active time, tag and
indicators are those of the latest heartbeat, which is not older than `init`. -/
def Shows (address : String) (init : Option Worker) (heartbeats : List HeartBeatRequest)
    (w : Option Worker) : Prop :=
  (w = init ∧ ∀ hb ∈ heartbeats, hb.workerAddress = address →
      ∃ w₀, init = some w₀ ∧ hb.heartbeatTime < w₀.lastActiveTime) ∨
    ∃ hb, LatestOf address heartbeats hb ∧
      (∀ w₀, init = some w₀ → w₀.lastActiveTime ≤ hb.heartbeatTime) ∧
      ∃ w', w = some w' ∧ w'.address = address ∧ w'.lastActiveTime = hb.heartbeatTime ∧
        w'.tag = hb.tag ∧ w'.indicators = hb.indicators

section Latest

variable {a : String} {heartbeats : List HeartBeatRequest} {hb new : HeartBeatRequest}

theorem filter_snoc_other (hne : new.workerAddress ≠ a) :
    (heartbeats ++ [new]).filter (·.workerAddress == a) = heartbeats.filter (·.workerAddress == a) := by
  simp [List.filter_append, hne]

theorem filter_snoc_self (heq : new.workerAddress = a) :
    (heartbeats ++ [new]).filter (·.workerAddress == a) =
      heartbeats.filter (·.workerAddress == a) ++ [new] := by
  simp [List.filter_append, heq]

theorem LatestOf.le (hl : LatestOf a heartbeats hb) :
    ∀ h ∈ heartbeats, h.workerAddress = a → h.heartbeatTime ≤ hb.heartbeatTime := by
  obtain ⟨pre, post, hsplit, hpre, hpost⟩ := hl
  intro h hh heq
  have hf : h ∈ pre ++ hb :: post := by
    rw [← hsplit]
    exact List.mem_filter.mpr ⟨hh, by simpa using heq⟩
  simp only [List.mem_append, List.mem_cons] at hf
  rcases hf with hf | rfl | hf
  · exact hpre h hf
  · exact le_rfl
  · exact (hpost h hf).le

theorem latestOf_snoc (heq : new.workerAddress = a)
    (hle : ∀ h ∈ heartbeats, h.workerAddress = a → h.heartbeatTime ≤ new.heartbeatTime) :
    LatestOf a (heartbeats ++ [new]) new := by
  refine ⟨heartbeats.filter (·.workerAddress == a), [], filter_snoc_self heq, ?_, by simp⟩
  intro h hh
  obtain ⟨hmem, hfrom⟩ := List.mem_filter.mp hh
  exact hle h hmem (by simpa using hfrom)

theorem latestOf_older (hl : LatestOf a heartbeats hb) (heq : new.workerAddress = a)
    (hlt : new.heartbeatTime < hb.heartbeatTime) : LatestOf a (heartbeats ++ [new]) hb := by
  obtain ⟨pre, post, hsplit, hpre, hpost⟩ := hl
  refine ⟨pre, post ++ [new], ?_, hpre, ?_⟩
  · rw [filter_snoc_self heq, hsplit]
    simp
  · intro h hh
    rcases List.mem_append.mp hh with hh | hh
    · exact hpost h hh
    · rw [List.mem_singleton.mp hh]
      exact hlt

theorem shows_snoc_initial {init : Option Worker} (heq : new.workerAddress = a)
    (holder : ∀ h ∈ heartbeats, h.workerAddress = a →
      ∃ w₀, init = some w₀ ∧ h.heartbeatTime < w₀.lastActiveTime) :
    Shows a init (heartbeats ++ [new])
      (init.elim (some (Worker.new.refresh new)) fun w =>
        if new.heartbeatTime < w.lastActiveTime then some w else some (Worker.new.refresh new)) := by
  cases init with
  | none =>
    refine .inr ⟨new, latestOf_snoc heq fun h hh hfrom => ?_, by simp, _, rfl, heq, rfl, rfl, rfl⟩
    obtain ⟨w₀, hw₀, -⟩ := holder h hh hfrom
    cases hw₀
  | some w₀ =>
    rw [Option.elim_some]
    by_cases hlt : new.heartbeatTime < w₀.lastActiveTime
    · rw [if_pos hlt]
      refine .inl ⟨rfl, fun h hh hfrom => ?_⟩
      rcases List.mem_append.mp hh with hh | hh
      · exact holder h hh hfrom
      · exact ⟨w₀, rfl, List.mem_singleton.mp hh ▸ hlt⟩
    · rw [if_neg hlt]
      refine .inr ⟨new, latestOf_snoc heq fun h hh hfrom => ?_, ?_, _, rfl, heq, rfl, rfl, rfl⟩
      · obtain ⟨w₁, hw₁, hlt₁⟩ := holder h hh hfrom
        cases hw₁
        exact (hlt₁.trans_le (not_lt.mp hlt)).le
      · intro w₁ hw₁
        cases hw₁
        exact not_lt.mp hlt

theorem shows_snoc_latest {init : Option Worker} {w : Worker} (heq : new.workerAddress = a)
    (hl : LatestOf a heartbeats hb)
    (hinit : ∀ w₀, init = some w₀ → w₀.lastActiveTime ≤ hb.heartbeatTime)
    (hw : w.address = a ∧ w.lastActiveTime = hb.heartbeatTime ∧ w.tag = hb.tag ∧
      w.indicators = hb.indicators) :
    Shows a init (heartbeats ++ [new])
      (if new.heartbeatTime < hb.heartbeatTime then some w else some (Worker.new.refresh new)) := by
  by_cases hlt : new.heartbeatTime < hb.heartbeatTime
  · rw [if_pos hlt]
    exact .inr ⟨hb, latestOf_older hl heq hlt, hinit, w, rfl, hw⟩
  · rw [if_neg hlt]
    refine .inr ⟨new, latestOf_snoc heq fun h hh hfrom => ?_, fun w₀ hw₀ => ?_, _, rfl, heq, rfl,
      rfl, rfl⟩
    · exact (hl.le h hh hfrom).trans (not_lt.mp hlt)
    · exact (hinit w₀ hw₀).trans (not_lt.mp hlt)

theorem shows_snoc_other {init w : Option Worker} (hne : new.workerAddress ≠ a)
    (hs : Shows a init heartbeats w) : Shows a init (heartbeats ++ [new]) w := by
  rcases hs with ⟨hw, holder⟩ | ⟨hb, ⟨pre, post, hsplit, hpre, hpost⟩, hinit, hw⟩
  · refine .inl ⟨hw, fun h hh hfrom => ?_⟩
    rcases List.mem_append.mp hh with hh | hh
    · exact holder h hh hfrom
    · exact absurd (List.mem_singleton.mp hh ▸ hfrom) hne
  · exact .inr ⟨hb, ⟨pre, post, by rw [filter_snoc_other hne, hsplit], hpre, hpost⟩, hinit, hw⟩

/-- One heartbeat keeps the entry of every address as `Shows` says. -/
theorem shows_update {init : Option Worker} {h : WorkerClusterHolder}
    (hs : Shows a init heartbeats (h.workers.lookup a)) (new : HeartBeatRequest) :
    Shows a init (heartbeats ++ [new]) ((h.updateWorkerStatus new).workers.lookup a) := by
  rw [lookup_updateWorkerStatus]
  by_cases heq : new.workerAddress = a
  · rw [if_pos heq.symm]
    rcases hs with ⟨hw, holder⟩ | ⟨hb, hl, hinit, w, hw, hfields⟩
    · rw [hw]
      exact shows_snoc_initial heq holder
    · rw [hw, Option.elim_some, hfields.2.1]
      exact shows_snoc_latest heq hl hinit hfields
  · rw [if_neg (Ne.symm heq)]
    exact shows_snoc_other heq hs

end Latest

/-- Out-of-order heartbeats never regress a worker. From any holder, after any
heartbeats in any arrival order, the worker of each address is the one of its
heartbeat with the largest time (the last to arrive among equal times), unless
every heartbeat from it was older than the worker it had; a heartbeat older than
the worker of its address leaves every worker as it was. -/
theorem workers_follow_latest_heartbeat :
    (∀ (h : WorkerClusterHolder) (heartbeats : List HeartBeatRequest) (a : String),
      Shows a (h.workers.lookup a) heartbeats ((h.receive heartbeats).workers.lookup a)) ∧
    (∀ (h : WorkerClusterHolder) (hb : HeartBeatRequest) (w : Worker),
      h.workers.lookup hb.workerAddress = some w → hb.heartbeatTime < w.lastActiveTime →
      ∀ a, (h.updateWorkerStatus hb).workers.lookup a = h.workers.lookup a) := by
  constructor
  · intro h heartbeats a
    -- induction on the arrivals, the last one peeled off
    induction heartbeats using List.reverseRecOn with
    | nil => exact .inl ⟨rfl, by simp⟩
    | append_singleton heartbeats new ih =>
      rw [WorkerClusterHolder.receive, List.foldl_append, List.foldl_cons, List.foldl_nil]
      exact shows_update ih new
  · intro h hb w hw hlt a
    rw [lookup_updateWorkerStatus]
    split
    · next heq =>
      subst heq
      rw [hw]
      simp [hlt]
    · rfl

def heartbeatAt (t : Int) : HeartBeatRequest := { workerAddress := "a", heartbeatTime := t }

/-- The heartbeat from time 3, arriving after the one from time 5, changes nothing. -/
theorem workers_follow_latest_heartbeat_on_late_heartbeat :
    ((WorkerClusterHolder.new.receive [heartbeatAt 5]).updateWorkerStatus (heartbeatAt 3)).workers.lookup "a" =
      some (Worker.new.refresh (heartbeatAt 5)) :=
  workers_follow_latest_heartbeat.2 (WorkerClusterHolder.new.receive [heartbeatAt 5]) (heartbeatAt 3)
    (Worker.new.refresh (heartbeatAt 5)) rfl (by decide) "a"

/-! ### Containers keep their first report -/

/-- The nested container maps. -/
abbrev Containers := AList (fun _ : Nat => AList (fun _ : String => DeployContainerInfo))

theorem lookup_recordContainers (address : String) (containers : Containers)
    (container : DeployContainerInfo) (c : Nat) :
    (recordContainers address containers container).lookup c =
      (containers.lookup c).or
        (if c = container.containerId then some (AList.singleton address container) else none) := by
  unfold recordContainers
  split
  · next hsome =>
    cases hc : containers.lookup c with
    | some x => rfl
    | none =>
      -- the report's id is recorded, so it is not `c`
      have hne : c ≠ container.containerId := fun heq => by
        rw [← heq, hc] at hsome
        cases hsome
      simp [hne]
  · next hnone =>
    by_cases heq : c = container.containerId
    · subst heq
      simp_all
    · simp [heq, AList.lookup_insert_ne heq]

theorem containers_updateWorkerStatus (h : WorkerClusterHolder) (heartbeat : HeartBeatRequest) :
    (h.updateWorkerStatus heartbeat).containers = h.containers ∨
      (h.updateWorkerStatus heartbeat).containers =
        heartbeat.deployContainerInfo.foldl (recordContainers heartbeat.workerAddress) h.containers := by
  unfold WorkerClusterHolder.updateWorkerStatus
  dsimp only
  split
  · exact .inl rfl
  · split
    · exact .inl rfl
    · exact .inr rfl

/-- A property of container maps that recording a report keeps holds after any
heartbeats. -/
theorem receive_containers_invariant (P : Containers → Prop)
    (hP : ∀ address containers container, P containers →
      P (recordContainers address containers container))
    (h : WorkerClusterHolder) (heartbeats : List HeartBeatRequest) (hh : P h.containers) :
    P (h.receive heartbeats).containers := by
  have hfold : ∀ address (infos : List DeployContainerInfo) containers, P containers →
      P (infos.foldl (recordContainers address) containers) := by
    intro address infos
    induction infos with
    | nil => exact fun _ hc => hc
    | cons info infos ih => exact fun containers hc => ih _ (hP _ _ _ hc)
  induction heartbeats generalizing h with
  | nil => exact hh
  | cons heartbeat heartbeats ih =>
    apply ih
    rcases containers_updateWorkerStatus h heartbeat with hc | hc <;> rw [hc]
    · exact hh
    · exact hfold _ _ _ hh

/-- Every container map holds one report. -/
def SingleReports (containers : Containers) : Prop :=
  ∀ c reports, containers.lookup c = some reports →
    ∃ address info, reports = AList.singleton address info

theorem singleReports_recordContainers (address : String) {containers : Containers}
    (container : DeployContainerInfo) (hs : SingleReports containers) :
    SingleReports (recordContainers address containers container) := by
  intro c reports hc
  rw [lookup_recordContainers] at hc
  cases hold : containers.lookup c with
  | some x => exact hs c reports (by simpa [hold] using hc)
  | none =>
    rw [hold, Option.none_or] at hc
    split at hc
    · exact ⟨address, container, (Option.some.inj hc).symm⟩
    · cases hc

/-- `WorkerClusterHolder::get_container_infos`, its evident reading: the reports of
a container id, each with the worker address it is filed under, and `None` for an
unrecorded id. -/
def WorkerClusterHolder.getContainerInfos (h : WorkerClusterHolder) (containId : Nat) :
    Option (List DeployContainerInfo) :=
  (h.containers.lookup containId).map fun infos =>
    infos.entries.map fun e => { e.2 with workerAddress := e.1 }

/-- Container deployments are recorded from the first report only. A container id,
once recorded, keeps its map through any later heartbeats, and from a new holder
every container's deployment status lists a single worker: the report of a second
worker, or a later report of the same container, is dropped. -/
theorem containers_keep_first_report :
    (∀ (h : WorkerClusterHolder) (heartbeats : List HeartBeatRequest) (c : Nat)
      (reports : AList (fun _ : String => DeployContainerInfo)),
      h.containers.lookup c = some reports → (h.receive heartbeats).containers.lookup c = some reports) ∧
    (∀ (heartbeats : List HeartBeatRequest) (c : Nat) (infos : List DeployContainerInfo),
      (WorkerClusterHolder.new.receive heartbeats).getContainerInfos c = some infos →
      infos.length = 1) := by
  constructor
  · intro h heartbeats c reports hc
    refine receive_containers_invariant (fun containers => containers.lookup c = some reports)
      (fun address containers container hold => ?_) h heartbeats hc
    rw [lookup_recordContainers, hold, Option.some_or]
  · intro heartbeats c infos hinfos
    have hs : SingleReports (WorkerClusterHolder.new.receive heartbeats).containers :=
      receive_containers_invariant SingleReports (fun a _ info hs => singleReports_recordContainers a info hs)
        _ heartbeats (fun c _ hc => by simp [WorkerClusterHolder.new] at hc)
    unfold WorkerClusterHolder.getContainerInfos at hinfos
    obtain ⟨reports, hc, rfl⟩ := Option.map_eq_some_iff.mp hinfos
    obtain ⟨address, info, rfl⟩ := hs c reports hc
    simp [AList.singleton_entries]

def containerA : DeployContainerInfo := ⟨1, "", "a"⟩
def containerB : DeployContainerInfo := ⟨1, "", "b"⟩
def heartbeatA : HeartBeatRequest := { workerAddress := "a", heartbeatTime := 5, deployContainerInfo := [containerA] }
def heartbeatB : HeartBeatRequest := { workerAddress := "b", heartbeatTime := 5, deployContainerInfo := [containerB] }

/-- Workers "a" and "b" both report container 1; only "a"'s report is kept. -/
theorem containers_keep_first_report_of_two_workers :
    (WorkerClusterHolder.new.receive [heartbeatA, heartbeatB]).containers.lookup 1 =
      some (AList.singleton "a" containerA) :=
  containers_keep_first_report.1 (WorkerClusterHolder.new.receive [heartbeatA]) [heartbeatB] 1 _
    rfl

/-! ### Choosing workers -/

/-- Free memory, as `is_available` and `cmp` compute it. -/
def Worker.availableMemory (w : Worker) : ℚ := w.indicators.jvmMaxMemory - w.indicators.jvmUsedMemory

/-- Free disk, as `is_available` computes it. -/
def Worker.availableDisk (w : Worker) : ℚ := w.indicators.diskTotal - w.indicators.diskUsed

/-- Free cores: `available_core` of `is_available`, `available_cpu` of `cmp`. -/
def Worker.availableCore (w : Worker) : ℚ := w.indicators.cpuProcessors - w.indicators.cpuLoad

/-- `PartialEq for Worker`: workers are equal when their addresses are. -/
def Worker.eq (w other : Worker) : Bool := w.address == other.address

/-- `Ord for Worker`: the worker's free memory plus free cores against the other's
free memory minus free cores. -/
def Worker.cmp (w other : Worker) : Ordering :=
  compare (w.availableMemory + w.availableCore) (other.availableMemory - other.availableCore)

/-- `split(',')` of a string. -/
def splitComma (s : String) : List String := (s.toList.splitOn ',').map String.ofList

/-- `Worker::is_available` at the clock `now`; `none` is the panic of an `unwrap`
of a minimum the job leaves unset. -/
def Worker.isAvailable (w : Worker) (jobInfo : JobInfo) (now : Int) : Option Bool :=
  let designated := match jobInfo.designatedWorkers with
    | some d => (splitComma d).contains w.address || (splitComma d).contains w.tag
    | none => false
  if designated then some true
  else if now < w.lastActiveTime then some true
  else
    -- the `||` of the indicator tests, left to right with its `unwrap`s
    match jobInfo.minMemorySpace with
    | none => none
    | some minMemorySpace =>
      if w.availableMemory < minMemorySpace then some true
      else match jobInfo.minDiskSpace with
        | none => none
        | some minDiskSpace =>
          if w.availableDisk < minDiskSpace then some true
          else match jobInfo.minCpuCores with
            | none => none
            | some minCpuCores => if w.availableCore < minCpuCores then some true else some false

/-- `retain(|_, &v| v.is_available(job_info))`: the workers whose `is_available` is
true, in order; a panic of `is_available` panics it. -/
def retainAvailable (jobInfo : JobInfo) (now : Int) : List Worker → Option (List Worker)
  | [] => some []
  | w :: ws =>
    match w.isAvailable jobInfo now, retainAvailable jobInfo now ws with
    | some keep, some rest => some (if keep then w :: rest else rest)
    | _, _ => none

/-- `WorkerClusterHolder::get_suitable_worker`, its evident reading: the workers kept
by `is_available`, sorted by `cmp`. The outer `none` is a panic. -/
def WorkerClusterHolder.getSuitableWorker (h : WorkerClusterHolder) (jobInfo : JobInfo)
    (now : Int) : Option (Option (List Worker)) :=
  if h.workers.entries.isEmpty then some none
  else
    match retainAvailable jobInfo now (h.workers.entries.map Sigma.snd) with
    | none => none
    | some worker =>
      let worker := worker.mergeSort fun a b => a.cmp b != .gt
      if worker.isEmpty then some none
      -- `worker.split_at(count)` under `max_worker_count`: its result is dropped
      else some (some worker)

theorem retainAvailable_eq_filter {jobInfo : JobInfo} {now : Int} :
    ∀ {ws rest : List Worker}, retainAvailable jobInfo now ws = some rest →
      rest = ws.filter fun w => w.isAvailable jobInfo now == some true
  | [], rest, h => by
    cases h
    rfl
  | w :: ws, rest, h => by
    unfold retainAvailable at h
    split at h
    · next keep rest' hw hrest =>
      cases h
      rw [retainAvailable_eq_filter hrest]
      cases keep <;> simp [hw]
    · cases h

/-- A worker that every requirement of the job admits: not designated away, its
heartbeat not ahead of the clock, and free memory, disk and cores above the
job's minimums. -/
theorem isAvailable_of_fits {w : Worker} {jobInfo : JobInfo} {now : Int}
    {minMemorySpace minDiskSpace minCpuCores : ℚ} (hd : jobInfo.designatedWorkers = none)
    (hnow : w.lastActiveTime ≤ now) (hmem : jobInfo.minMemorySpace = some minMemorySpace)
    (hdisk : jobInfo.minDiskSpace = some minDiskSpace) (hcpu : jobInfo.minCpuCores = some minCpuCores)
    (hm : minMemorySpace ≤ w.availableMemory) (hk : minDiskSpace ≤ w.availableDisk)
    (hc : minCpuCores ≤ w.availableCore) : w.isAvailable jobInfo now = some false := by
  simp [Worker.isAvailable, hd, hmem, hdisk, hcpu, not_lt.mpr hnow, not_lt.mpr hm,
    not_lt.mpr hk, not_lt.mpr hc]

/-- Worker selection keeps the workers that do not fit. The workers returned are,
up to order, exactly those whose `is_available` is true, and a worker that meets
every requirement of a job with no designated workers gets false: it is never
returned, while a worker short of memory, disk or cores is. -/
theorem suitable_workers_are_unfit :
    (∀ (w : Worker) (jobInfo : JobInfo) (now : Int) (minMemorySpace minDiskSpace minCpuCores : ℚ),
      jobInfo.designatedWorkers = none → w.lastActiveTime ≤ now →
      jobInfo.minMemorySpace = some minMemorySpace → jobInfo.minDiskSpace = some minDiskSpace →
      jobInfo.minCpuCores = some minCpuCores →
      minMemorySpace ≤ w.availableMemory → minDiskSpace ≤ w.availableDisk →
      minCpuCores ≤ w.availableCore → w.isAvailable jobInfo now = some false) ∧
    (∀ (h : WorkerClusterHolder) (jobInfo : JobInfo) (now : Int) (worker : List Worker),
      h.getSuitableWorker jobInfo now = some (some worker) →
      worker.Perm ((h.workers.entries.map Sigma.snd).filter
        fun w => w.isAvailable jobInfo now == some true)) := by
  refine ⟨fun _ _ _ _ _ _ hd hnow hmem hdisk hcpu hm hk hc =>
    isAvailable_of_fits hd hnow hmem hdisk hcpu hm hk hc, ?_⟩
  intro h jobInfo now worker hw
  unfold WorkerClusterHolder.getSuitableWorker at hw
  split at hw
  · cases hw
  split at hw
  · cases hw
  · next kept hkept =>
    dsimp only at hw
    split at hw
    · cases hw
    · cases hw
      rw [← retainAvailable_eq_filter hkept]
      exact List.mergeSort_perm _ _

/-- A worker with memory, disk and cores to spare, seen at time 5. -/
def fitWorker : Worker where
  address := "w1"
  lastActiveTime := 5
  tag := ""
  indicators := { cpuProcessors := 4, cpuLoad := 1, jvmUsedMemory := 2, jvmMaxMemory := 8,
                  diskUsed := 1, diskTotal := 10 }

def unlimitedJob : JobInfo :=
  { id := some 1, minCpuCores := some 0, minDiskSpace := some 0, minMemorySpace := some 0 }

def fitHolder : WorkerClusterHolder := ⟨AList.singleton "w1" fitWorker, ∅⟩

/-- `fitWorker` fits the unlimited job, and no worker is found for it. -/
theorem suitable_workers_are_unfit_on_fitHolder :
    fitHolder.getSuitableWorker unlimitedJob 10 = some none := by
  have hfit : fitWorker.isAvailable unlimitedJob 10 = some false :=
    suitable_workers_are_unfit.1 fitWorker unlimitedJob 10 0 0 0 rfl (by decide) rfl rfl rfl
      (by norm_num [Worker.availableMemory, fitWorker])
      (by norm_num [Worker.availableDisk, fitWorker])
      (by norm_num [Worker.availableCore, fitWorker])
  simp [WorkerClusterHolder.getSuitableWorker, fitHolder, AList.singleton_entries, retainAvailable,
    hfit]

/-- The order of workers is not antisymmetric. Two workers whose free memory
differs by less than their free cores together are each greater than the other,
and a worker is greater than itself as soon as it has a free core. -/
theorem worker_cmp_gt_both_ways :
    ∀ a b : Worker, |a.availableMemory - b.availableMemory| < a.availableCore + b.availableCore →
      a.cmp b = .gt ∧ b.cmp a = .gt := by
  intro a b hlt
  obtain ⟨hlo, hhi⟩ := abs_lt.mp hlt
  constructor
  · rw [Worker.cmp, compare_gt_iff_gt]
    linarith
  · rw [Worker.cmp, compare_gt_iff_gt]
    linarith

/-- `fitWorker` equals itself, yet compares greater than itself. -/
theorem worker_cmp_gt_both_ways_on_fitWorker :
    fitWorker.eq fitWorker = true ∧ fitWorker.cmp fitWorker = .gt :=
  ⟨rfl, (worker_cmp_gt_both_ways fitWorker fitWorker
    (by norm_num [Worker.availableMemory, Worker.availableCore, fitWorker])).1⟩

end WorkerCluster
