import FastJob.Time

/-!
# The logger of `init_log` and its level gates (`log::init_log`, `set_log_level`)

`init_log` stores the initial level in the global `LOG_LEVEL` and builds a chain
of drains around the given one: the disabled-targets filter, `SlowLogFilter`,
and then, on the asynchronous path, `filter_level(level)` in front of the
channel and `LogAndFuse` behind it, or on the synchronous path `LogAndFuse` in
front of `filter_level(level)`. `LogAndFuse` and `FastJobFormat` compare a
record's level with `LOG_LEVEL` as it is when they run; `filter_level` keeps the
level `init_log` was given. `filter_level` is slog's and is known here by its
contract, a `LevelFilter`. `set_log_level` stores a new `LOG_LEVEL`.

`build_logger` and `build_logger_with_slow_log` call `init_log` with the
configured level and the slow-log threshold `duration_to_ms(slow_log_threshold)`,
whose `u64` arithmetic is taken under both overflow behaviours.

A record is what the drains read of it: its level, module, tag and key-value
pairs. Writers take every byte, so a record a format drain accepts is written.
The asynchronous logger's thread reads `LOG_LEVEL` when it takes the record off
the channel; a record logged after the last `set_log_level` meets that level.
-/
namespace LogDrain

open Overflow Time
open FileLog (Duration)

/-- `slog::Level`. -/
inductive Level where
  | critical
  | error
  | warning
  | info
  | debug
  | trace
  deriving DecidableEq, Repr

namespace Level

/-- `Level::as_usize`. -/
def asUsize : Level → Nat
  | critical => 1
  | error => 2
  | warning => 3
  | info => 4
  | debug => 5
  | trace => 6

/-- `Level::from_usize`. -/
def fromUsize : Nat → Option Level
  | 1 => some critical
  | 2 => some error
  | 3 => some warning
  | 4 => some info
  | 5 => some debug
  | 6 => some trace
  | _ => none

/-- `Level::is_at_least`: as severe as `other`, or more. -/
def isAtLeast (self other : Level) : Bool := self.asUsize ≤ other.asUsize

@[simp] theorem fromUsize_asUsize (l : Level) : fromUsize l.asUsize = some l := by
  cases l <;> rfl

end Level

/-- A value of a record's key-value pairs as a serializer is handed it: through
`emit_u64`, or through another `emit_*`. -/
inductive Value where
  | u64 (n : Nat)
  | other
  deriving DecidableEq, Repr

/-- A log record, with what the drains read of it. -/
structure Record where
  level : Level
  module : String
  tag : String
  kv : List (String × Value)
  deriving DecidableEq, Repr

/-- The `cost` that `SlowCostSerializer` is left with: the last `u64` under the key
`takes`. -/
def slowCost (kv : List (String × Value)) : Option Nat :=
  kv.foldl (fun cost (key, value) =>
    match value with
    | .u64 val => if key = "takes" then some val else cost
    | .other => cost) none

/-- `text_format` (`FastJobFormat`) and `json_format`. -/
inductive Format where
  | text
  | json
  deriving DecidableEq, Repr

/-- `Drain::log` of a format while `LOG_LEVEL` is `logLevel`: whether it writes the
record. `FastJobFormat` checks the level again. -/
def Format.log (logLevel : Nat) (record : Record) : Format → Bool
  | .text => decide (record.level.asUsize ≤ logLevel)
  | .json => true

/-- The drain given to `init_log`: a format, or a `LogDispatcher` of a normal and an
optional slow-log format. -/
inductive Drain where
  | format (f : Format)
  | dispatcher (normal : Format) (slow : Option Format)
  deriving DecidableEq, Repr

/-- `Drain::log` of the given drain; `LogDispatcher` sends tags that start with
`slow_log` to its slow-log format when it has one. -/
def Drain.log (logLevel : Nat) (record : Record) : Drain → Bool
  | .format f => f.log logLevel record
  | .dispatcher normal slow =>
    match slow with
    | some s => if record.tag.startsWith "slow_log" then s.log logLevel record
      else normal.log logLevel record
    | none => normal.log logLevel record

/-- `LogAndFuse::log`: the inner drain for a record at least as severe as `LOG_LEVEL`. -/
def logAndFuse (logLevel : Nat) (inner : Record → Bool) (record : Record) : Bool :=
  if record.level.asUsize ≤ logLevel then inner record else false

/-- slog's `filter_level(level)` around an inner drain, known by its contract: it
writes a record exactly when the record is at least as severe as `level` and the
inner drain writes it. -/
structure LevelFilter where
  apply : Level → (Record → Bool) → Record → Bool
  apply_iff : ∀ level inner record,
    apply level inner record = true ↔ record.level.isAtLeast level = true ∧ inner record = true

/-- A filter that meets the contract by testing the level first. -/
def LevelFilter.levelFirst : LevelFilter :=
  ⟨fun level inner record => record.level.isAtLeast level && inner record, by simp⟩

/-- `SlowLogFilter::log`: a `slow_log` record whose cost is at most the threshold is
dropped. -/
def slowLogFilter (threshold : Nat) (inner : Record → Bool) (record : Record) : Bool :=
  if record.tag = "slow_log" then
    match slowCost record.kv with
    | some cost => if cost ≤ threshold then false else inner record
    | none => inner record
  else inner record

/-- The part of a module path before its first `::`. -/
def topModule : List Char → List Char
  | ':' :: ':' :: _ => []
  | c :: rest => c :: topModule rest
  | [] => []

/-- What `init_log` builds. -/
structure Logger where
  drain : Drain
  level : Level
  useAsync : Bool
  disabledTargets : List String
  slowThreshold : Nat

/-- The `filter` closure of `init_log`: a record whose top module is disabled is
dropped. -/
def Logger.filter (l : Logger) (record : Record) : Bool :=
  if !l.disabledTargets.isEmpty then
    l.disabledTargets.all fun target => target != String.ofList (topModule record.module.toList)
  else true

/-- `init_log`: the logger and the new `LOG_LEVEL`. `env` holds the entries of
`FASTJOB_DISABLE_LOG_TARGETS` when it is set. -/
def initLog (drain : Drain) (level : Level) (useAsync : Bool) (disabledTargets : List String)
    (slowThreshold : Nat) (env : Option (List String)) : Logger × Nat :=
  (⟨drain, level, useAsync, disabledTargets ++ env.getD [], slowThreshold⟩, level.asUsize)

/-- A record logged while `LOG_LEVEL` is `logLevel`: whether it is written, with slog's
`filter_level` the filter `filterLevel`. -/
def Logger.log (filterLevel : LevelFilter) (l : Logger) (logLevel : Nat) (record : Record) : Bool :=
  l.filter record &&
    slowLogFilter l.slowThreshold
      (if l.useAsync then filterLevel.apply l.level (logAndFuse logLevel (fun r => l.drain.log logLevel r))
      else logAndFuse logLevel (filterLevel.apply l.level fun r => l.drain.log logLevel r))
      record

/-- `set_log_level`: the new `LOG_LEVEL`. -/
def setLogLevel (newLevel : Level) : Nat := newLevel.asUsize

/-- `get_log_level`. -/
def getLogLevel (logLevel : Nat) : Option Level := Level.fromUsize logLevel

/-- `LOG_LEVEL` after `set_log_level` with each level of `levels` in turn. -/
def setLogLevels (logLevel : Nat) (levels : List Level) : Nat :=
  levels.foldl (fun _ newLevel => setLogLevel newLevel) logLevel

/-- The fields of `ServiceConfig` that `build_logger` reads. -/
structure ServiceConfig where
  logLevel : Level
  slowLogThreshold : Duration

/-- `build_logger`: an asynchronous logger at the configured level, with no
disabled targets of its own and the slow-log threshold in milliseconds; `none` is
the panic of `duration_to_ms`. -/
def buildLogger (m : Mode) (drain : Drain) (config : ServiceConfig)
    (env : Option (List String)) : Option (Logger × Nat) :=
  (durationToMs m config.slowLogThreshold).map fun threshold =>
    initLog drain config.logLevel true [] threshold env

/-- `build_logger_with_slow_log`: `build_logger` of a `LogDispatcher`. -/
def buildLoggerWithSlowLog (m : Mode) (normal : Format) (slow : Option Format)
    (config : ServiceConfig) (env : Option (List String)) : Option (Logger × Nat) :=
  buildLogger m (.dispatcher normal slow) config env

/-! ### The level gates -/

theorem isAtLeast_iff (record : Record) (level : Level) :
    record.level.isAtLeast level = true ↔ record.level.asUsize ≤ level.asUsize := by
  simp [Level.isAtLeast]

/-- `LOG_LEVEL` after a run of `set_log_level` is the last level set. -/
theorem setLogLevels_eq (logLevel : Nat) (levels : List Level) :
    setLogLevels logLevel levels = (levels.getLast?.map Level.asUsize).getD logLevel := by
  induction levels generalizing logLevel with
  | nil => rfl
  | cons l levels ih =>
    rw [setLogLevels, List.foldl_cons, ← setLogLevels, ih, List.getLast?_cons]
    cases levels.getLast? <;> rfl

theorem Format.log_of_le {logLevel : Nat} {record : Record} (f : Format)
    (h : record.level.asUsize ≤ logLevel) : f.log logLevel record = true := by
  cases f <;> simp [Format.log, h]

/-- Every drain writes a record at least as severe as `LOG_LEVEL`. -/
theorem Drain.log_of_le {logLevel : Nat} {record : Record} (drain : Drain)
    (h : record.level.asUsize ≤ logLevel) : drain.log logLevel record = true := by
  cases drain with
  | format f => exact f.log_of_le h
  | dispatcher normal slow =>
    cases slow with
    | none => exact normal.log_of_le h
    | some s =>
      simp only [Drain.log]
      split
      · exact s.log_of_le h
      · exact normal.log_of_le h

theorem slowLogFilter_of_pass {threshold : Nat} {record : Record} (inner : Record → Bool)
    (h : slowLogFilter threshold (fun _ => true) record = true) :
    slowLogFilter threshold inner record = inner record := by
  unfold slowLogFilter at h ⊢
  by_cases htag : record.tag = "slow_log"
  · -- only a slow log with a cost at most the threshold is dropped
    rw [if_pos htag] at h ⊢
    cases hcost : slowCost record.kv with
    | none => rfl
    | some cost =>
      rw [hcost] at h
      by_cases hle : cost ≤ threshold <;> simp_all
  · rw [if_neg htag]

theorem logAndFuse_iff (drain : Drain) (logLevel : Nat) (record : Record) :
    logAndFuse logLevel (fun r => drain.log logLevel r) record = true ↔
      record.level.asUsize ≤ logLevel := by
  by_cases hlog : record.level.asUsize ≤ logLevel <;> simp [logAndFuse, hlog, drain.log_of_le]

/-- Both orders of `filter_level` and `LogAndFuse` write a record exactly when it is
at least as severe as the level of `filter_level` and as `LOG_LEVEL`. -/
theorem gates_iff (filterLevel : LevelFilter) (drain : Drain) (level : Level) (logLevel : Nat)
    (record : Record) :
    (filterLevel.apply level (logAndFuse logLevel fun r => drain.log logLevel r) record = true ↔
      record.level.isAtLeast level = true ∧ record.level.asUsize ≤ logLevel) ∧
    (logAndFuse logLevel (filterLevel.apply level fun r => drain.log logLevel r) record = true ↔
      record.level.isAtLeast level = true ∧ record.level.asUsize ≤ logLevel) := by
  constructor
  · rw [filterLevel.apply_iff, logAndFuse_iff]
  · by_cases hlog : record.level.asUsize ≤ logLevel
    · rw [logAndFuse, if_pos hlog, filterLevel.apply_iff, drain.log_of_le hlog]
      simp [hlog]
    · simp [logAndFuse, hlog]

/-- A record that the disabled targets and the slow-log threshold let through is
written exactly when it is at least as severe as the last level set and as the
level `init_log` was given, on both paths of `init_log`. -/
theorem written_iff_both_levels (filterLevel : LevelFilter) (drain : Drain) (level : Level)
    (useAsync : Bool) (targets : List String) (threshold : Nat) (env : Option (List String))
    (levels : List Level)
    (record : Record) (hfilter : (initLog drain level useAsync targets threshold env).1.filter record = true)
    (hslow : slowLogFilter threshold (fun _ => true) record = true) :
    (initLog drain level useAsync targets threshold env).1.log filterLevel
        (setLogLevels (initLog drain level useAsync targets threshold env).2 levels) record = true ↔
      record.level.isAtLeast (levels.getLast?.getD level) = true ∧
        record.level.isAtLeast level = true := by
  have hlast : setLogLevels level.asUsize levels = (levels.getLast?.getD level).asUsize := by
    rw [setLogLevels_eq]
    cases levels.getLast? <;> rfl
  have hgates := gates_iff filterLevel drain level (levels.getLast?.getD level).asUsize record
  simp only [initLog] at hfilter ⊢
  rw [hlast, Logger.log, hfilter, Bool.true_and, slowLogFilter_of_pass _ hslow, isAtLeast_iff record
    (levels.getLast?.getD level)]
  cases useAsync with
  | true => rw [if_pos rfl, hgates.1, and_comm]
  | false => rw [if_neg Bool.false_ne_true, hgates.2, and_comm]

def debugRecord : Record := ⟨.debug, "fastjob_components_worker::worker_manager", "", []⟩

/-- Raising the verbosity from `Info` to `Debug` at runtime: a debug record is as
severe as the level set, and is not written. -/
theorem written_iff_both_levels_on_raisedVerbosity :
    debugRecord.level.isAtLeast .debug = true ∧
    (initLog (.format .text) .info true [] 0 none).1.log LevelFilter.levelFirst
      (setLogLevels (initLog (.format .text) .info true [] 0 none).2 [.debug]) debugRecord = false := by
  have h := written_iff_both_levels LevelFilter.levelFirst (.format .text) .info true [] 0 none
    [.debug] debugRecord rfl rfl
  refine ⟨rfl, ?_⟩
  have hinfo : debugRecord.level.isAtLeast .info = false := rfl
  simpa [hinfo] using h

/-! ### The slow-log threshold -/

/-- The slow-log threshold of `build_logger`: the configured duration in whole
milliseconds when that fits a `u64`; beyond it, a debug build panics and a
release build keeps the milliseconds modulo `2 ^ 64`. `SlowLogFilter` drops a
`slow_log` record of cost `c` exactly when `c` is at most the threshold. -/
theorem slow_threshold_wraps (drain : Drain) (config : ServiceConfig) (env : Option (List String)) :
    (buildLogger .panic drain config env).map (·.1.slowThreshold) =
      (if config.slowLogThreshold.asNanos / 1000000 < 2 ^ 64 then
        some (config.slowLogThreshold.asNanos / 1000000) else none) ∧
    (buildLogger .wrap drain config env).map (·.1.slowThreshold) =
      some (config.slowLogThreshold.asNanos / 1000000 % 2 ^ 64) ∧
    ∀ threshold record cost, record.tag = "slow_log" → slowCost record.kv = some cost →
      (slowLogFilter threshold (fun _ => true) record = false ↔ cost ≤ threshold) := by
  refine ⟨?_, ?_, fun threshold record cost htag hcost => ?_⟩
  · rw [buildLogger, durationToMs_panic]
    split <;> rfl
  · rw [buildLogger, durationToMs_wrap]
    rfl
  · by_cases hle : cost ≤ threshold <;> simp [slowLogFilter, htag, hcost, hle]

/-- A threshold of `2 ^ 63` seconds, meant to keep every slow log out. -/
def hugeConfig : ServiceConfig := ⟨.info, ⟨2 ^ 63, 0, by decide, Nat.zero_lt_succ _⟩⟩

def slowRecord : Record := ⟨.warning, "fastjob::server", "slow_log", [("takes", .u64 1)]⟩

/-- Under `2 ^ 63` seconds: a debug build panics in `build_logger`, and a release
build's threshold is zero, so a slow log of one millisecond is written. -/
theorem slow_threshold_wraps_on_hugeConfig :
    buildLogger .panic (.format .text) hugeConfig none = none ∧
    (buildLogger .wrap (.format .text) hugeConfig none).map (·.1.slowThreshold) = some 0 ∧
    slowLogFilter 0 (fun _ => true) slowRecord = true := by
  obtain ⟨hpanic, hwrap, hfilter⟩ := slow_threshold_wraps (.format .text) hugeConfig none
  have hms : hugeConfig.slowLogThreshold.asNanos / 1000000 = 2 ^ 63 * 1000 := rfl
  rw [hms, if_neg (by norm_num), Option.map_eq_none_iff] at hpanic
  rw [hms] at hwrap
  refine ⟨hpanic, by rw [hwrap]; norm_num, ?_⟩
  have := (hfilter 0 slowRecord 1 rfl rfl).not
  simpa using this

end LogDrain
