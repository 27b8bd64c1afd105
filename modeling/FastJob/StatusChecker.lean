import FastJob.Dispatch
import FastJob.Scheduler

/-!
# The instance status checker (`WorkerManager::check_instance_status`)

`check_instance_status` reads the ids of the apps whose `current_server` is this
server, hands them to `check_instance` and then to `check_workflow`, whose body
is `unreachable!()`. `check_instance` cuts the ids into chunks of
`MAX_BATCH_NUM`, reads the instances of each chunk with `find_instance_by_ids`,
and passes every instance that has waited too long in its status to
`Dispatch::redispatch`. `find_instance_by_ids` compares the `instance_id` column
with the ids it is given: `eq` with a slice is read as membership.

Each `?` ends the pass: a storage error of either query, or a status with no
variant. `unwrap` of a `None` status, of the time an arm reads, or of the
`instance_id` that `warn!` prints, panics. The first arm passes the instance to
`redispatch` and the other two its `instance_id`; `redispatch` takes an
`InstanceInfo`, so each is read as passing the instance. The clock is read at
each guard; a pass is taken at one reading `now`, in milliseconds, far from the
ends of `i64`. `redispatch(..).await` is `Dispatch`'s call run to its end, and its
`Result` is dropped; the pass lemmas take any `redispatch` that touches only the
rows of the instance it is given.
-/
namespace StatusChecker

open Storage Scheduler Dispatch

/-- `MAX_BATCH_NUM`. -/
def maxBatchNum : Nat := 10

/-- `DISPATCH_TIMEOUT_MS`. -/
def dispatchTimeoutMs : Int := 30000

/-- `RECEIVE_TIMEOUT_MS`. -/
def receiveTimeoutMs : Int := 60000

/-- `RUNNING_TIMEOUT_MS`. -/
def runningTimeoutMs : Int := 60000

/-- `find_all_app_id_by_current_server`: the ids of the apps this server holds,
`none` when it holds none. -/
def findAllAppIdByCurrentServer (db : Db) (currentServer : String) :
    Except StorageError (Option (List Nat)) × Db :=
  db.query fun db =>
    let ids := (db.appInfo.filter (·.currentServer == some currentServer)).filterMap (·.id)
    .ok (if ids.isEmpty then none else some ids)

/-- `find_instance_by_ids`: the rows whose `instance_id` is one of `instanceId`. -/
def findInstanceByIds (db : Db) (instanceId : List Nat) :
    Except StorageError (Option (List InstanceInfo)) × Db :=
  db.query fun db => .ok (some (db.instanceInfo.filter (·.instanceId.any instanceId.contains)))

/-- What ends a pass through `?`. -/
inductive CheckError where
  /-- `WorkerStorageError` of a query. -/
  | workerStorageError (source : StorageError)
  /-- `InstanceStatus::try_from` of a number no variant has. -/
  | tryFromPrimitive (number : Nat)
  deriving DecidableEq, Repr

/-- The guard of a timed arm: whether the instance has waited more than `timeout`
since `time` at the clock `now`. `none` is the panic of `unwrap` of the time, or
of the `instance_id` that `warn!` prints. -/
def timedOut (now timeout : Int) (time : Option Int) (instanceId : Option Nat) : Option Bool :=
  match time with
  | none => none
  | some t => if t < now - timeout then instanceId.map fun _ => true else some false

/-- The `match` of `check_instance` on one instance: whether it is passed to
`redispatch`. -/
def checkOne (now : Int) (inst : InstanceInfo) : Option (Except CheckError Bool) :=
  match inst.status with
  | none => none
  | some status =>
    match InstanceStatus.tryFrom status with
    | none => some (.error (.tryFromPrimitive status))
    | some .waitingDispatch =>
      (timedOut now dispatchTimeoutMs inst.expectedTriggerTime inst.instanceId).map .ok
    | some .waitingWorkerReceive =>
      (timedOut now receiveTimeoutMs inst.actualTriggerTime inst.instanceId).map .ok
    | some .running =>
      (timedOut now runningTimeoutMs inst.gmtModified inst.instanceId).map .ok
    | some _ => some (.ok false)

/-- The tables, and the instances passed to `redispatch` so far in order. -/
structure Pass where
  db : Db
  redispatched : List InstanceInfo

/-- The loop over the instances a chunk read; `none` is a panic. -/
def checkInstances (redispatch : InstanceInfo → Db → Db) (now : Int) :
    List InstanceInfo → Pass → Option (Except CheckError Unit) × Pass
  | [], p => (some (.ok ()), p)
  | inst :: rest, p =>
    match checkOne now inst with
    | none => (none, p)
    | some (.error e) => (some (.error e), p)
    | some (.ok false) => checkInstances redispatch now rest p
    | some (.ok true) =>
      checkInstances redispatch now rest ⟨redispatch inst p.db, p.redispatched ++ [inst]⟩

/-- The body of the loop over the chunks. -/
def checkChunk (redispatch : InstanceInfo → Db → Db) (now : Int) (chunk : List Nat) (p : Pass) :
    Option (Except CheckError Unit) × Pass :=
  match findInstanceByIds p.db chunk with
  | (.error e, db) => (some (.error (.workerStorageError e)), { p with db })
  | (.ok none, db) => (some (.ok ()), { p with db })
  | (.ok (some instances), db) => checkInstances redispatch now instances { p with db }

/-- The loop over the chunks: an error or a panic ends it. -/
def checkChunks (redispatch : InstanceInfo → Db → Db) (now : Int) :
    List (List Nat) → Pass → Option (Except CheckError Unit) × Pass
  | [], p => (some (.ok ()), p)
  | chunk :: rest, p =>
    match checkChunk redispatch now chunk p with
    | (some (.ok ()), p) => checkChunks redispatch now rest p
    | r => r

/-- `check_instance(ids)`. -/
def checkInstance (redispatch : InstanceInfo → Db → Db) (now : Int) (ids : List Nat) (p : Pass) :
    Option (Except CheckError Unit) × Pass :=
  checkChunks redispatch now (chunks maxBatchNum ids) p

/-- `check_instance_status` of the server `currentServer`. After `check_instance`,
`check_workflow` panics on `unreachable!()`. -/
def checkInstanceStatus (redispatch : InstanceInfo → Db → Db) (now : Int) (currentServer : String)
    (p : Pass) : Option (Except CheckError Unit) × Pass :=
  match findAllAppIdByCurrentServer p.db currentServer with
  | (.error e, db) => (some (.error (.workerStorageError e)), { p with db })
  | (.ok none, db) => (some (.ok ()), { p with db })
  | (.ok (some ids), db) => (none, (checkInstance redispatch now ids { p with db }).2)

/-! ### Which instances are stuck -/

/-- An instance that has waited too long in its status at the clock `now`. -/
def stuck (now : Int) (i : InstanceInfo) : Bool :=
  (i.status == some InstanceStatus.waitingDispatch.code &&
      i.expectedTriggerTime.any (· < now - dispatchTimeoutMs)) ||
    (i.status == some InstanceStatus.waitingWorkerReceive.code &&
      i.actualTriggerTime.any (· < now - receiveTimeoutMs)) ||
    (i.status == some InstanceStatus.running.code && i.gmtModified.any (· < now - runningTimeoutMs))

/-- An instance that `check_instance` judges with no panic and no error: a status
with a variant, the time its arm reads, and an `instance_id`. -/
def Checkable (i : InstanceInfo) : Prop :=
  i.instanceId.isSome ∧ ∃ s : InstanceStatus, i.status = some s.code ∧
    (s = .waitingDispatch → i.expectedTriggerTime.isSome) ∧
    (s = .waitingWorkerReceive → i.actualTriggerTime.isSome) ∧
    (s = .running → i.gmtModified.isSome)

theorem timedOut_of_some {now timeout t : Int} {instanceId : Option Nat} (hid : instanceId.isSome) :
    timedOut now timeout (some t) instanceId = some (decide (t < now - timeout)) := by
  obtain ⟨x, rfl⟩ := Option.isSome_iff_exists.mp hid
  by_cases ht : t < now - timeout <;> simp [timedOut, ht]

theorem checkOne_of_checkable (now : Int) {i : InstanceInfo} (h : Checkable i) :
    checkOne now i = some (.ok (stuck now i)) := by
  obtain ⟨hid, s, hs, hdispatch, hreceive, hrunning⟩ := h
  cases s with
  | waitingDispatch =>
    obtain ⟨t, ht⟩ := Option.isSome_iff_exists.mp (hdispatch rfl)
    simp [checkOne, stuck, hs, ht, timedOut_of_some hid, InstanceStatus.code, InstanceStatus.tryFrom]
  | waitingWorkerReceive =>
    obtain ⟨t, ht⟩ := Option.isSome_iff_exists.mp (hreceive rfl)
    simp [checkOne, stuck, hs, ht, timedOut_of_some hid, InstanceStatus.code, InstanceStatus.tryFrom]
  | running =>
    obtain ⟨t, ht⟩ := Option.isSome_iff_exists.mp (hrunning rfl)
    simp [checkOne, stuck, hs, ht, timedOut_of_some hid, InstanceStatus.code, InstanceStatus.tryFrom]
  | failed | success | canceled | stopped => simp [checkOne, stuck, hs]

/-- `Dispatch::redispatch(instance).await` at the clock `now`: the tables after the call
run to its end. -/
def redispatch (now : Int) (inst : InstanceInfo) (db : Db) : Db :=
  (Call.finish 4 ⟨{}, 0, .redispatch inst⟩ now db).2.1

/-! ### A pass over checkable instances

A pass is taken with a `redispatch` that keeps an invariant `Inv` of the tables and
the empty fault schedule, and leaves every row that `touches` says it does not
touch; so each chunk reads the rows the pass started from. -/

/-- Chunks none of whose instances `redispatch` touches a row of a later chunk. -/
def Separated (touches : InstanceInfo → Nat → Bool) : List (List Nat) → Prop
  | [] => True
  | c :: rest =>
    (∀ i r : InstanceInfo, i.instanceId.any c.contains →
      rest.any (fun c' => r.instanceId.any c'.contains) →
      r.instanceId.any (touches i) = false) ∧ Separated touches rest

section Pass

variable {redispatch : InstanceInfo → Db → Db} {Inv : Db → Prop}
  {touches : InstanceInfo → Nat → Bool}
  (hframe : ∀ i db, Inv db → db.faults = [] →
    Inv (redispatch i db) ∧ (redispatch i db).faults = [] ∧
    ∀ sel : InstanceInfo → Bool, (∀ r, sel r = true → r.instanceId.any (touches i) = false) →
      (redispatch i db).instanceInfo.filter sel = db.instanceInfo.filter sel)
include hframe

/-- The loop over a chunk's instances passes on the stuck ones, in order, and leaves every
row none of them touches. -/
theorem checkInstances_of_checkable (now : Int) :
    ∀ (rows : List InstanceInfo) (p : Pass), Inv p.db → p.db.faults = [] →
      (∀ i ∈ rows, Checkable i) →
      ∃ db, checkInstances redispatch now rows p =
          (some (.ok ()), ⟨db, p.redispatched ++ rows.filter (stuck now)⟩) ∧
        Inv db ∧ db.faults = [] ∧
        ∀ sel : InstanceInfo → Bool,
          (∀ i ∈ rows, ∀ r, sel r = true → r.instanceId.any (touches i) = false) →
            db.instanceInfo.filter sel = p.db.instanceInfo.filter sel
  | [], p, hinv, hfaults, _ => ⟨p.db, by simp [checkInstances], hinv, hfaults, fun _ _ => rfl⟩
  | i :: rows, p, hinv, hfaults, hrows => by
    have hone := checkOne_of_checkable now (hrows i (List.mem_cons_self ..))
    have hrest : ∀ j ∈ rows, Checkable j := fun j hj => hrows j (List.mem_cons_of_mem i hj)
    cases hstuck : stuck now i with
    | false =>
      obtain ⟨db, hrun, hinv', hfaults', hsel⟩ :=
        checkInstances_of_checkable now rows p hinv hfaults hrest
      refine ⟨db, ?_, hinv', hfaults', fun sel hsafe =>
        hsel sel fun j hj => hsafe j (List.mem_cons_of_mem i hj)⟩
      rw [checkInstances, hone, hstuck, hrun, List.filter_cons_of_neg (by simp [hstuck])]
    | true =>
      -- the stuck instance is passed on, which leaves every row it does not touch
      obtain ⟨hinv₁, hfaults₁, hsel₁⟩ := hframe i p.db hinv hfaults
      obtain ⟨db, hrun, hinv', hfaults', hsel⟩ := checkInstances_of_checkable now rows
        ⟨redispatch i p.db, p.redispatched ++ [i]⟩ hinv₁ hfaults₁ hrest
      refine ⟨db, ?_, hinv', hfaults', fun sel hsafe => ?_⟩
      · rw [checkInstances, hone, hstuck, hrun, List.filter_cons_of_pos hstuck, List.append_assoc,
          List.singleton_append]
      · rw [hsel sel fun j hj => hsafe j (List.mem_cons_of_mem i hj)]
        exact hsel₁ sel (hsafe i List.mem_cons_self)

/-- A chunk passes on the stuck instances whose `instance_id` is in the chunk. -/
theorem checkChunk_of_checkable (now : Int) (chunk : List Nat) (p : Pass) (hinv : Inv p.db)
    (hfaults : p.db.faults = [])
    (hrows : ∀ i ∈ p.db.instanceInfo, i.instanceId.any chunk.contains → Checkable i) :
    ∃ db, checkChunk redispatch now chunk p =
        (some (.ok ()), ⟨db, p.redispatched ++
          p.db.instanceInfo.filter fun i => i.instanceId.any chunk.contains && stuck now i⟩) ∧
      Inv db ∧ db.faults = [] ∧
      ∀ sel : InstanceInfo → Bool,
        (∀ i, i.instanceId.any chunk.contains → ∀ r, sel r = true →
          r.instanceId.any (touches i) = false) →
          db.instanceInfo.filter sel = p.db.instanceInfo.filter sel := by
  have hread : ∀ i ∈ p.db.instanceInfo.filter (·.instanceId.any chunk.contains), Checkable i := by
    intro i hi
    rw [List.mem_filter] at hi
    exact hrows i hi.1 hi.2
  obtain ⟨db, hrun, hinv', hfaults', hsel⟩ :=
    checkInstances_of_checkable hframe now _ { p with db := p.db } hinv hfaults hread
  refine ⟨db, ?_, hinv', hfaults', fun sel hsafe => hsel sel fun i hi => ?_⟩
  · rw [checkChunk, findInstanceByIds, Db.query_of_noFaults hfaults]
    simpa [List.filter_filter, Bool.and_comm] using hrun
  · exact hsafe i (List.mem_filter.mp hi).2

/-- The chunks pass on, chunk by chunk, the stuck instances whose `instance_id` is in the
chunk. -/
theorem checkChunks_of_checkable (now : Int) :
    ∀ (cs : List (List Nat)) (p : Pass), Separated touches cs → Inv p.db → p.db.faults = [] →
      (∀ i ∈ p.db.instanceInfo, (∃ c ∈ cs, i.instanceId.any c.contains) → Checkable i) →
      ∃ db, checkChunks redispatch now cs p =
        (some (.ok ()), ⟨db, p.redispatched ++ cs.flatMap fun c =>
          p.db.instanceInfo.filter fun i => i.instanceId.any c.contains && stuck now i⟩)
  | [], p, _, _, _, _ => ⟨p.db, by simp [checkChunks]⟩
  | c :: cs, p, ⟨hsep, hseps⟩, hinv, hfaults, hrows => by
    obtain ⟨db, hchunk, hinv', hfaults', hsel⟩ := checkChunk_of_checkable hframe now c p hinv
      hfaults fun i hi hc => hrows i hi ⟨c, List.mem_cons_self .., hc⟩
    -- the rows the later chunks read are those the pass started from
    have hlater : ∀ sel : InstanceInfo → Bool,
        (∀ r, sel r = true → cs.any fun c' => r.instanceId.any c'.contains) →
          db.instanceInfo.filter sel = p.db.instanceInfo.filter sel :=
      fun sel hin => hsel sel fun i hi r hr => hsep i r hi (hin r hr)
    have hsame : db.instanceInfo.filter (fun r => cs.any fun c' => r.instanceId.any c'.contains) =
        p.db.instanceInfo.filter (fun r => cs.any fun c' => r.instanceId.any c'.contains) :=
      hlater _ fun _ h => h
    have hrows' : ∀ i ∈ db.instanceInfo, (∃ c' ∈ cs, i.instanceId.any c'.contains) → Checkable i := by
      intro i hi hc
      have hany : (cs.any fun c' => i.instanceId.any c'.contains) = true := by
        simpa [List.any_eq_true] using hc
      have hmem : i ∈ p.db.instanceInfo.filter (fun r => cs.any fun c' => r.instanceId.any c'.contains) := by
        rw [← hsame]
        exact List.mem_filter.mpr ⟨hi, hany⟩
      obtain ⟨c', hc', hin⟩ := hc
      exact hrows i (List.mem_filter.mp hmem).1 ⟨c', List.mem_cons_of_mem c hc', hin⟩
    obtain ⟨db', hrest⟩ := checkChunks_of_checkable now cs
      ⟨db, p.redispatched ++ p.db.instanceInfo.filter fun i => i.instanceId.any c.contains && stuck now i⟩
      hseps hinv' hfaults' hrows'
    have hflat : (cs.flatMap fun c' => db.instanceInfo.filter fun i =>
          i.instanceId.any c'.contains && stuck now i) =
        cs.flatMap fun c' => p.db.instanceInfo.filter fun i =>
          i.instanceId.any c'.contains && stuck now i := by
      refine List.flatMap_congr fun c' hc' => hlater _ fun r hr => ?_
      simp only [Bool.and_eq_true] at hr
      exact List.any_eq_true.mpr ⟨c', hc', hr.1⟩
    refine ⟨db', ?_⟩
    rw [checkChunks, hchunk]
    simpa [hflat, List.flatMap_cons, List.append_assoc] using hrest

/-- What one `check_instance` pass passes to `redispatch` when its chunks are separated:
chunk by chunk, every stuck instance whose `instance_id` is among the chunk's ids. -/
theorem checkInstance_of_checkable (now : Int) (ids : List Nat) (p : Pass)
    (hsep : Separated touches (chunks maxBatchNum ids)) (hinv : Inv p.db)
    (hfaults : p.db.faults = [])
    (hrows : ∀ i ∈ p.db.instanceInfo, i.instanceId.any ids.contains → Checkable i) :
    ∃ db, checkInstance redispatch now ids p =
      (some (.ok ()), ⟨db, p.redispatched ++ (chunks maxBatchNum ids).flatMap fun chunk =>
        p.db.instanceInfo.filter fun i => i.instanceId.any chunk.contains && stuck now i⟩) := by
  refine checkChunks_of_checkable hframe now _ p hsep hinv hfaults
    fun i hi ⟨c, hc, hin⟩ => hrows i hi ?_
  have hsub : ∀ x, c.contains x → ids.contains x := by
    intro x hx
    rw [← flatten_chunks (show 0 < maxBatchNum by decide) ids]
    simp only [List.contains_iff_mem, List.mem_flatten] at hx ⊢
    exact ⟨c, hc, hx⟩
  cases hid : i.instanceId with
  | none => simp [hid] at hin
  | some x => simpa [hid] using hsub x (by simpa [hid] using hin)

end Pass

theorem separated_untouched : ∀ cs : List (List Nat), Separated (fun _ _ => false) cs
  | [] => trivial
  | _ :: cs => ⟨fun _ r _ _ => by cases r.instanceId <;> rfl, separated_untouched cs⟩

/-- What one `check_instance` pass passes to `redispatch`: chunk by chunk, every
stuck instance whose `instance_id` is among the chunk's ids, in the order of the
table. The ids it is given are app ids; the `app_id` of an instance plays no
part. -/
theorem check_instance_selects_by_instance_id {redispatch : InstanceInfo → Db → Db}
    (hkeep : ∀ i db, (redispatch i db).instanceInfo = db.instanceInfo ∧
      (redispatch i db).faults = db.faults)
    (now : Int) (ids : List Nat) (p : Pass) (hfaults : p.db.faults = [])
    (hrows : ∀ i ∈ p.db.instanceInfo, i.instanceId.any ids.contains → Checkable i) :
    ∃ db, checkInstance redispatch now ids p =
      (some (.ok ()), ⟨db, p.redispatched ++ (chunks maxBatchNum ids).flatMap fun chunk =>
        p.db.instanceInfo.filter fun i => i.instanceId.any chunk.contains && stuck now i⟩) := by
  have hframe : ∀ i db, True → db.faults = [] →
      True ∧ (redispatch i db).faults = [] ∧
      ∀ sel : InstanceInfo → Bool, (∀ r, sel r = true → r.instanceId.any (fun _ => false) = false) →
        (redispatch i db).instanceInfo.filter sel = db.instanceInfo.filter sel :=
    fun i db _ hf => ⟨trivial, (hkeep i db).2.trans hf, fun sel _ => by rw [(hkeep i db).1]⟩
  exact checkInstance_of_checkable hframe now ids p (separated_untouched _) trivial hfaults hrows

/-! ### A pass with `Dispatch`'s `redispatch` -/

/-- A `redispatch` of an instance with no `instance_id` panics at once. -/
theorem redispatch_of_none {inst : InstanceInfo} (h : inst.instanceId = none) (now : Int) (db : Db) :
    redispatch now inst db = db := by
  simp [redispatch, Call.finish, Call.step, redispatchStep, h]

theorem filter_filter_of_imp {α : Type} {l : List α} {p q : α → Bool}
    (h : ∀ a, p a = true → q a = true) : (l.filter q).filter p = l.filter p := by
  rw [List.filter_filter]
  refine List.filter_congr fun a _ => ?_
  cases hp : p a
  · simp
  · simp [h a hp]

/-- `Dispatch`'s `redispatch` touches only the rows of the instance it is given, keeps the
ids distinct, and fails no storage call. -/
theorem redispatch_frame (now : Int) (inst : InstanceInfo) (db : Db)
    (hkeys : KeysDistinct db.instanceInfo) (hf : db.faults = []) :
    KeysDistinct (redispatch now inst db).instanceInfo ∧ (redispatch now inst db).faults = [] ∧
      ∀ sel : InstanceInfo → Bool,
        (∀ r, sel r = true → r.instanceId.any (fun y => inst.instanceId == some y) = false) →
          (redispatch now inst db).instanceInfo.filter sel = db.instanceInfo.filter sel := by
  obtain ⟨hkeys', hf', hrows⟩ :=
    @finish_about inst.instanceId 4 ⟨{}, 0, .redispatch inst⟩ db rfl hkeys hf now
  refine ⟨hkeys', hf', fun sel hsel => ?_⟩
  cases hid : inst.instanceId with
  | none => rw [redispatch_of_none hid]
  | some k =>
    -- a row `sel` keeps is of another instance, which the call leaves
    have hother : ∀ r, sel r = true → (r.instanceId != inst.instanceId) = true := by
      intro r hr
      have h := hsel r hr
      rw [hid] at h ⊢
      cases hr' : r.instanceId with
      | none => rfl
      | some y =>
        rw [hr'] at h
        simp only [Option.any_some, beq_eq_false_iff_ne, ne_eq, Option.some.injEq] at h
        simpa using Ne.symm h
    rw [← filter_filter_of_imp hother, ← filter_filter_of_imp (l := db.instanceInfo) hother]
    exact congrArg (List.filter sel) hrows

/-- Chunks of distinct ids are separated for a `redispatch` that touches only the rows of
its own instance. -/
theorem separated_of_nodup :
    ∀ cs : List (List Nat), cs.flatten.Nodup →
      Separated (fun i y => i.instanceId == some y) cs
  | [], _ => trivial
  | c :: cs, hnodup => by
    rw [List.flatten_cons, List.nodup_append] at hnodup
    refine ⟨fun i r hi hr => ?_, separated_of_nodup cs hnodup.2.1⟩
    cases hx : i.instanceId with
    | none => simp [hx] at hi
    | some x =>
      cases hy : r.instanceId with
      | none => rfl
      | some y =>
        simp only [hx, Option.any_some, List.contains_iff_mem] at hi
        simp only [hy, Option.any_some, List.contains_iff_mem, List.any_eq_true] at hr
        obtain ⟨c', hc', hyc⟩ := hr
        have hne : x ≠ y := hnodup.2.2 x hi y (List.mem_flatten.mpr ⟨c', hc', hyc⟩)
        simp [hx, hne]

def waitingInstance : InstanceInfo :=
  { id := some 1, appId := some 7, instanceId := some 100, status := some 1, expectedTriggerTime := some 0 }

/-- An instance of app 9 whose `instance_id` is 7, running and silent since time 0. -/
def otherAppInstance : InstanceInfo :=
  { id := some 2, appId := some 9, instanceId := some 7, status := some 3, gmtModified := some 0 }

/-- A server holding app 7, another holding app 9, and an instance of each. -/
def checkerDb : Db where
  appInfo := [{ id := some 7, currentServer := some "10.0.0.1:8080" },
    { id := some 9, currentServer := some "10.0.0.2:8080" }]
  instanceInfo := [waitingInstance, otherAppInstance]

theorem checkerDb_checkable :
    ∀ i ∈ checkerDb.instanceInfo, i.instanceId.any [7].contains → Checkable i := by
  intro i hi _
  simp only [checkerDb, List.mem_cons, List.not_mem_nil, or_false] at hi
  rcases hi with rfl | rfl
  · exact ⟨rfl, .waitingDispatch, rfl, fun _ => rfl, nofun, nofun⟩
  · exact ⟨rfl, .running, rfl, nofun, nofun, fun _ => rfl⟩

/-- At the clock 100000, the server of app 7 passes on the instance of app 9, and
not the stuck instance of app 7. -/
theorem check_instance_selects_by_instance_id_on_checkerDb :
    findAllAppIdByCurrentServer checkerDb "10.0.0.1:8080" = (.ok (some [7]), checkerDb) ∧
    waitingInstance.appId = some 7 ∧ stuck 100000 waitingInstance = true ∧
    otherAppInstance.appId = some 9 ∧
    ∃ db, checkInstance (fun _ db => db) 100000 [7] ⟨checkerDb, []⟩ =
      (some (.ok ()), ⟨db, [otherAppInstance]⟩) := by
  obtain ⟨db, hpass⟩ := @check_instance_selects_by_instance_id (fun _ db => db)
    (fun _ _ => ⟨rfl, rfl⟩) 100000 [7] ⟨checkerDb, []⟩ rfl checkerDb_checkable
  exact ⟨rfl, rfl, rfl, rfl, db, hpass.trans rfl⟩

end StatusChecker
