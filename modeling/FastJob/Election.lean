import FastJob.Storage
import FastJob.Transition

/-!
# Server election: `WorkerManager::lookup`

Each call of `lookup` is a process. Every storage access is one atomic step
(the fetch of `app_info`, the insert of the `lock` row, the re-read, the save
of the usurped row), and `is_active` asks a `ping` oracle: `ping` is the gRPC
call, `none` when it fails, else the reply's code. Calls by any number of
servers interleave in any order; the fault schedule of the database decides
which storage calls fail.

Two facts of the source decide what an election can do. The usurpation moves
the row out of `rs` twice (`rs.take().unwrap()`), so its assignments land in
temporaries and the second `unwrap` panics before `storage.save` is reached;
and `lookup` answers a caller whose `current_server` is the manager's own
`address` without reading storage.
-/
namespace Election

open Storage Transition

/-- `RETRY_TIMES`. -/
def RETRY_TIMES : Nat := 3

/-- The part of `WorkerManager` that `lookup` reads. -/
structure WorkerManager where
  address : String
  deriving DecidableEq, Repr

/-- `WorkerManagerBuilder::build`, which sets `address` to `""`. -/
def WorkerManager.build : WorkerManager := { address := "" }

/-- `WorkerManagerError`, with the variants the modelled functions return.
`tryFromPrimitive` is the `?` on a rejected `try_from` of a status or
time-expression number, for which the source has no conversion. -/
inductive WorkerManagerError where
  | workerStorageError (source : StorageError)
  | workerNotRegistered (appNameOrId : String)
  | lookupFail (serverIp : String)
  | tryFromPrimitive (number : Nat)
  deriving DecidableEq, Repr

/-- `is_active`: a cached server is inactive, otherwise the server is pinged;
`none` is the panic of `expect("Ping failed")` on a failed call. -/
def isActive (ping : String → Option Nat) (targetServer : String) (cache : List String) :
    Option Bool :=
  if targetServer ∈ cache then some false else (ping targetServer).map (· == 200)

/-- `Option::take` then `unwrap`: the value, with the option left `None`;
`none` is the panic of `unwrap`. -/
def takeUnwrap {α : Type} (rs : Option α) : Option (α × Option α) :=
  rs.map fun a => (a, none)

/-- The usurpation statements of `lookup`:
`rs.take().unwrap().current_server = Some(current_server);`
`rs.take().unwrap().gmt_modified = Some(now);` and `save(rs.unwrap())`.
Each assignment lands in the temporary that `take().unwrap()` returns. The
result is the row handed to `save`, `none` for a panic. -/
def usurp (rs : Option AppInfo) (currentServer : String) (now : Int) : Option AppInfo := do
  let (app, rs) ← takeUnwrap rs
  let _temporary := { app with currentServer := some currentServer }
  let (app, rs) ← takeUnwrap rs
  let _temporary := { app with gmtModified := some now }
  rs

/-- The usurpation never reaches `save`. -/
@[simp] theorem usurp_eq_none (rs : Option AppInfo) (currentServer : String) (now : Int) :
    usurp rs currentServer now = none := by
  cases rs <;> rfl

/-- Where one call of `lookup` stands: before the address test, at a storage
step of a round of the retry loop, or returned. -/
inductive Pc where
  | start
  | fetch (round : Nat)
  | lock (round : Nat)
  | refetch (round : Nat)
  | save (round : Nat) (app : AppInfo)
  | ok (server : String)
  | err (e : WorkerManagerError)
  | panic
  deriving DecidableEq, Repr

/-- One call of `lookup` by a server: its manager, the `current_server` and
`app_id` arguments (`app_id` is the decimal text of the id), and its `Pc`. -/
structure Call where
  manager : WorkerManager
  currentServer : String
  appId : Nat
  pc : Pc
  deriving DecidableEq, Repr

/-- The end of a round: the next iteration of `for _ in 0..RETRY_TIMES`, or
`LookupFail` after the last. -/
def nextRound (m : WorkerManager) (round : Nat) : Pc :=
  if round + 1 < RETRY_TIMES then .fetch (round + 1) else .err (.lookupFail m.address)

/-- `if self.is_active(server, cache) { return Ok(server) }`, else `inactive`. -/
def afterActive (ping : String → Option Nat) (server : String) (inactive : Pc) : Pc :=
  match isActive ping server [] with
  | some true => .ok server
  | some false => inactive
  | none => .panic

/-- The first read of a round; `app_name` and `current_server` are unwrapped. -/
def fetchStep (ping : String → Option Nat) (c : Call) (round : Nat) (db : Db) : Pc × Db :=
  match db.fetchAppInfo c.appId with
  | (.error e, db) => (.err (.workerStorageError e), db)
  | (.ok none, db) => (.err (.workerNotRegistered (toString c.appId)), db)
  | (.ok (some app), db) =>
    match app.appName, app.currentServer with
    | some _, some origin => (afterActive ping origin (.lock round), db)
    | _, _ => (.panic, db)

/-- The re-read after the lock attempt: `rs.as_ref().unwrap().current_server.unwrap()`,
then `is_active`, then the usurpation. -/
def refetchStep (ping : String → Option Nat) (c : Call) (round : Nat) (now : Int) (db : Db) :
    Pc × Db :=
  match db.fetchAppInfo c.appId with
  | (.error e, db) => (.err (.workerStorageError e), db)
  | (.ok rs, db) =>
    match rs.bind AppInfo.currentServer with
    | some cur =>
      (afterActive ping cur
        (match usurp rs c.currentServer now with
          | some app => .save round app
          | none => .panic), db)
    | none => (.panic, db)

/-- One atomic step of a call, at clock reading `now`. The lock is taken with
`if !self.lock(lock).is_err() { sleep }`: success or failure, the call goes on
to the re-read. The result of the usurper's `save` is ignored. -/
def Call.step (ping : String → Option Nat) (now : Int) (c : Call) (db : Db) : Pc × Db :=
  match c.pc with
  | .start => (if c.manager.address = c.currentServer then .ok c.currentServer else .fetch 0, db)
  | .fetch round => fetchStep ping c round db
  | .lock round =>
    ((.refetch round), (db.saveLock (Lock.new (toString c.appId) 30000 c.currentServer)).2)
  | .refetch round => refetchStep ping c round now db
  | .save round app => (nextRound c.manager round, (db.saveAppInfo app).2)
  | .ok server => (.ok server, db)
  | .err e => (.err e, db)
  | .panic => (.panic, db)

theorem afterActive_ok {ping : String → Option Nat} {server r : String} {inactive : Pc}
    (h : afterActive ping server inactive = .ok r) : r = server ∨ inactive = .ok r := by
  unfold afterActive at h
  split at h
  · cases h
    exact .inl rfl
  · exact .inr h
  · cases h

theorem afterActive_save {ping : String → Option Nat} {server : String} {inactive : Pc}
    {round : Nat} {app : AppInfo} (h : afterActive ping server inactive = .save round app) :
    inactive = .save round app := by
  unfold afterActive at h
  split at h <;> first | exact h | cases h

theorem fetchStep_snd (ping : String → Option Nat) (c : Call) (round : Nat) (db : Db) :
    (fetchStep ping c round db).2 = (db.fetchAppInfo c.appId).2 := by
  unfold fetchStep
  split <;> rename_i hfetch <;> rw [hfetch]
  split <;> rfl

theorem refetchStep_snd (ping : String → Option Nat) (c : Call) (round : Nat) (now : Int)
    (db : Db) : (refetchStep ping c round now db).2 = (db.fetchAppInfo c.appId).2 := by
  unfold refetchStep
  split <;> rename_i hfetch <;> rw [hfetch]
  split <;> rfl

/-- A first read answers `Ok` only with the `current_server` of the one row it found. -/
theorem fetchStep_ok {ping : String → Option Nat} {c : Call} {round : Nat} {db : Db}
    {server : String} (h : (fetchStep ping c round db).1 = .ok server) :
    ∃ app, (db.fetchAppInfo c.appId).1 = .ok (some app) ∧ app.currentServer = some server := by
  unfold fetchStep at h
  split at h
  · cases h
  · cases h
  · rename_i app _ hfetch
    split at h
    · rename_i origin _ horigin
      rcases afterActive_ok h with rfl | hlock
      · exact ⟨app, by rw [hfetch], horigin⟩
      · cases hlock
    · cases h

theorem fetchStep_not_save (ping : String → Option Nat) (c : Call) (round r : Nat) (db : Db)
    (app : AppInfo) : (fetchStep ping c round db).1 ≠ .save r app := by
  intro h
  unfold fetchStep at h
  split at h
  · cases h
  · cases h
  · split at h
    · cases afterActive_save h
    · cases h

/-- The re-read answers `Ok` only with the `current_server` of the one row it
found; the usurpation panics, so it never reaches the save. -/
theorem refetchStep_ok {ping : String → Option Nat} {c : Call} {round : Nat} {now : Int}
    {db : Db} {server : String} (h : (refetchStep ping c round now db).1 = .ok server) :
    ∃ app, (db.fetchAppInfo c.appId).1 = .ok (some app) ∧ app.currentServer = some server := by
  unfold refetchStep at h
  split at h
  · cases h
  · rename_i rs _ hfetch
    split at h
    · rename_i cur hcur
      simp only [usurp_eq_none] at h
      rcases afterActive_ok h with rfl | hpanic
      · cases rs with
        | none => cases hcur
        | some app => exact ⟨app, by rw [hfetch], hcur⟩
      · cases hpanic
    · cases h

theorem refetchStep_not_save (ping : String → Option Nat) (c : Call) (round r : Nat) (now : Int)
    (db : Db) (app : AppInfo) : (refetchStep ping c round now db).1 ≠ .save r app := by
  intro h
  unfold refetchStep at h
  split at h
  · cases h
  · split at h
    · simp only [usurp_eq_none] at h
      cases afterActive_save h
    · cases h

/-- What every call satisfies against the current `app_info` rows: it never
stands at the usurper's save, and an `Ok` answer is either the early return
for its own address or the `current_server` of the one row of its app. -/
structure CallInv (rows : List AppInfo) (c : Call) : Prop where
  not_save : ∀ round app, c.pc ≠ .save round app
  ok_server : ∀ server, c.pc = .ok server →
    (c.manager.address = c.currentServer ∧ server = c.currentServer) ∨
      ∃ app, rows.filter (·.id == some c.appId) = [app] ∧ app.currentServer = some server

theorem callInv_start (rows : List AppInfo) (c : Call) (h : c.pc = .start) : CallInv rows c where
  not_save := by intro round app; rw [h]; simp
  ok_server := by intro server hok; rw [h] at hok; cases hok

/-- No step of a call writes `app_info`. -/
theorem step_appInfo (ping : String → Option Nat) (now : Int) {c : Call} {db : Db}
    (hc : CallInv db.appInfo c) : (c.step ping now db).2.appInfo = db.appInfo := by
  unfold Call.step
  split
  · rfl
  · rw [fetchStep_snd, Db.fetchAppInfo_appInfo]
  · exact Db.saveLock_appInfo db _
  · rw [refetchStep_snd, Db.fetchAppInfo_appInfo]
  · rename_i round app hpc
    exact absurd hpc (hc.not_save round app)
  · rfl
  · rfl
  · rfl

theorem callInv_step (ping : String → Option Nat) (now : Int) {c : Call} {db : Db}
    (hc : CallInv db.appInfo c) :
    CallInv (c.step ping now db).2.appInfo { c with pc := (c.step ping now db).1 } := by
  rw [step_appInfo ping now hc]
  constructor
  · intro round app hsave
    change (c.step ping now db).1 = .save round app at hsave
    unfold Call.step at hsave
    split at hsave
    · split at hsave <;> cases hsave
    · exact fetchStep_not_save ping c _ round db app hsave
    · cases hsave
    · exact refetchStep_not_save ping c _ round now db app hsave
    · rename_i r a hpc
      exact absurd hpc (hc.not_save r a)
    all_goals
      rename_i hpc
      exact hc.not_save round app (hpc.trans hsave)
  · intro server hok
    change (c.step ping now db).1 = .ok server at hok
    unfold Call.step at hok
    split at hok
    · split at hok
      · rename_i haddr
        cases hok
        exact .inl ⟨haddr, rfl⟩
      · cases hok
    · obtain ⟨app, hfetch, hcur⟩ := fetchStep_ok hok
      exact .inr ⟨app, Db.fetchAppInfo_some hfetch, hcur⟩
    · cases hok
    · obtain ⟨app, hfetch, hcur⟩ := refetchStep_ok hok
      exact .inr ⟨app, Db.fetchAppInfo_some hfetch, hcur⟩
    · rename_i r a hpc
      exact absurd hpc (hc.not_save r a)
    · rename_i hpc
      cases hok
      exact hc.ok_server server hpc
    · cases hok
    · cases hok

variable {ι : Type} [DecidableEq ι]

/-- Concurrent calls of `lookup` against one database. -/
structure State (ι : Type) where
  db : Db
  calls : ι → Call

/-- Call `p` takes one step at clock reading `now`. -/
def next (ping : String → Option Nat) (s : State ι) (p : ι) (now : Int) : State ι :=
  let r := (s.calls p).step ping now s.db
  { db := r.2, calls := Function.update s.calls p { s.calls p with pc := r.1 } }

def Step (ping : String → Option Nat) (s : State ι) (l : ι × Int) (t : State ι) : Prop :=
  t = next ping s l.1 l.2

def Init (s : State ι) : Prop := ∀ p, (s.calls p).pc = .start

/-- The election invariant: `app_info` holds the rows `rows`, and every call
satisfies `CallInv` against them. -/
def Inv (rows : List AppInfo) (s : State ι) : Prop :=
  s.db.appInfo = rows ∧ ∀ p, CallInv rows (s.calls p)

omit [DecidableEq ι] in
theorem inv_init {s : State ι} (h : Init s) : Inv s.db.appInfo s :=
  ⟨rfl, fun p => callInv_start _ _ (h p)⟩

theorem inv_next (ping : String → Option Nat) {rows : List AppInfo} {s : State ι} (p : ι)
    (now : Int) (h : Inv rows s) : Inv rows (next ping s p now) := by
  obtain ⟨hrows, hcalls⟩ := h
  have hc : CallInv s.db.appInfo (s.calls p) := hrows ▸ hcalls p
  have happ := step_appInfo ping now hc
  refine ⟨happ.trans hrows, fun q => ?_⟩
  by_cases hq : q = p
  · subst hq
    have hstep := callInv_step ping now hc
    rw [happ, hrows] at hstep
    simpa [next] using hstep
  · simpa [next, Function.update_of_ne hq] using hcalls q

/-- What an election run from `s₀` to `s` guarantees: `app_info` is never
written, and a call that answers `Ok` answers either its own address (the
early return) or the `current_server` of its app's one row in storage. -/
structure Agreement (s₀ s : State ι) : Prop where
  appInfo_unwritten : s.db.appInfo = s₀.db.appInfo
  ok_agrees : ∀ p server, (s.calls p).pc = .ok server →
    ((s.calls p).manager.address = (s.calls p).currentServer ∧
      server = (s.calls p).currentServer) ∨
    ∃ app, s.db.appInfo.filter (·.id == some (s.calls p).appId) = [app] ∧
      app.currentServer = some server

/-- Any number of `lookup` calls, in any interleaving of their storage steps,
with any fault schedule and any `ping`: no call ever changes `app_info`, so no
server (and none whose lock insert failed) makes itself the app's server, and
every `Ok` answer read from storage is the app's stored `current_server`. -/
theorem lookup_agreement (ping : String → Option Nat) {s₀ s : State ι} {ls : List (ι × Int)}
    (h0 : Init s₀) (hrun : Run (Step ping) s₀ ls s) : Agreement s₀ s := by
  have hinv : Inv s₀.db.appInfo s := by
    refine hrun.invariant (Inv s₀.db.appInfo) ?_ (inv_init h0)
    rintro t ⟨p, now⟩ u hinv rfl
    exact inv_next ping p now hinv
  obtain ⟨happ, hcalls⟩ := hinv
  refine ⟨happ, fun p server hok => ?_⟩
  rw [happ]
  exact (hcalls p).ok_server server hok

/-- App 1 is served by the live server `"X"`; two of its workers ask a manager
built by `WorkerManagerBuilder::build`, one with an empty `current_server`. -/
def splitStart : State (Fin 2) where
  db := { appInfo := [{ id := some 1, appName := some "app", currentServer := some "X" }] }
  calls := fun i =>
    if i = 0 then { manager := .build, currentServer := "", appId := 1, pc := .start }
    else { manager := .build, currentServer := "A", appId := 1, pc := .start }

def splitPing (server : String) : Option Nat := if server = "X" then some 200 else none

def splitLabels : List (Fin 2 × Int) := [(0, 0), (1, 0), (1, 0)]

def splitEnd : State (Fin 2) :=
  next splitPing (next splitPing (next splitPing splitStart 0 0) 1 0) 1 0

theorem splitStart_init : Init splitStart := by
  intro p
  unfold splitStart
  dsimp only
  split <;> rfl

theorem splitRun : Run (Step splitPing) splitStart splitLabels splitEnd :=
  .cons rfl (.cons rfl (.cons rfl (.nil _)))

theorem lookup_agreement_on_split : Init splitStart ∧ Agreement splitStart splitEnd :=
  ⟨splitStart_init, lookup_agreement splitPing splitStart_init splitRun⟩

/-- The two workers of one app are sent to different servers: the first gets
`""` from the early return while storage names `"X"`, which the second gets. -/
theorem lookup_answers_split :
    Run (Step splitPing) splitStart splitLabels splitEnd ∧
      (splitEnd.calls 0).pc = .ok "" ∧ (splitEnd.calls 1).pc = .ok "X" ∧
      splitEnd.db.appInfo.filter (·.id == some 1) =
        [{ id := some 1, appName := some "app", currentServer := some "X" }] :=
  ⟨splitRun, by decide, by decide, by decide⟩

end Election
