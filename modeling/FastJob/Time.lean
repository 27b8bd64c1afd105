import FastJob.Overflow
import FastJob.FileLog

/-!
# Clocks and elapsed time (`utils::time`) and the pool ticker (`yatp_pool::TickerWrapper`)

An `Instant` is a reading of the monotonic clock or of its coarse variant, each
a `time::Timespec` of whole seconds and nanoseconds. `elapsed_duration`
subtracts two readings exactly and panics when the clock went back;
`elapsed_duration_coarse` truncates both readings to milliseconds in `i64` and
clamps a negative difference to zero. The `i64` and `u64` arithmetic of this
file is taken under both overflow behaviours of `Overflow`; the subtraction of
`Timespec`s and its `to_std` are exact.

`TickerWrapper` is the ticker each cloned `YatpPoolRunner` keeps: after every
task it reads the coarse clock and calls the ticker's `on_tick` when a second
has passed since its last tick. `std::time::Duration` is `FileLog.Duration`.
-/

namespace FileLog.Duration

/-- `Duration::from_millis`. -/
def fromMillis (millis : UInt64) : Duration :=
  ⟨millis.toNat / 1000, millis.toNat % 1000 * 1000000,
    by have := millis.toNat_lt; omega, by omega⟩

/-- The derived order of `Duration`: seconds, then nanoseconds. -/
instance : LT Duration := ⟨fun a b => a.secs < b.secs ∨ a.secs = b.secs ∧ a.nanos < b.nanos⟩

instance (a b : Duration) : Decidable (a < b) := inferInstanceAs (Decidable (_ ∨ _))

@[simp] theorem asNanos_fromMillis (millis : UInt64) :
    (fromMillis millis).asNanos = millis.toNat * 1000000 := by
  simp only [fromMillis, asNanos]
  omega

theorem lt_iff_asNanos_lt {a b : Duration} : a < b ↔ a.asNanos < b.asNanos := by
  have := a.nanos_lt
  have := b.nanos_lt
  show a.secs < b.secs ∨ a.secs = b.secs ∧ a.nanos < b.nanos ↔ _
  unfold asNanos
  constructor
  · rintro (h | ⟨h, h'⟩)
    · nlinarith
    · rw [h]
      omega
  · intro h
    rcases Nat.lt_trichotomy a.secs b.secs with hs | hs | hs
    · exact .inl hs
    · rw [hs] at h
      exact .inr ⟨hs, by omega⟩
    · nlinarith

end FileLog.Duration

namespace Time

open Overflow
open FileLog (Duration)

/-- `time::Timespec`: whole seconds (`i64`) and nanoseconds (`i32`). -/
structure Timespec where
  sec : Int
  nsec : Int
  deriving DecidableEq, Repr

namespace Timespec

/-- The derived order of `Timespec`: seconds, then nanoseconds. -/
instance : LE Timespec := ⟨fun a b => a.sec < b.sec ∨ a.sec = b.sec ∧ a.nsec ≤ b.nsec⟩

instance : LT Timespec := ⟨fun a b => a.sec < b.sec ∨ a.sec = b.sec ∧ a.nsec < b.nsec⟩

instance (a b : Timespec) : Decidable (a ≤ b) := inferInstanceAs (Decidable (_ ∨ _))

instance (a b : Timespec) : Decidable (a < b) := inferInstanceAs (Decidable (_ ∨ _))

/-- What `Timespec::new` asserts of the nanoseconds. -/
def Normalized (t : Timespec) : Prop := 0 ≤ t.nsec ∧ t.nsec < 1000000000

def nanos (t : Timespec) : Int := t.sec * 1000000000 + t.nsec

/-- The instant truncated to whole milliseconds. -/
def floorMs (t : Timespec) : Int := t.nanos / 1000000

theorem floorMs_mul_mem (t : Timespec) :
    t.floorMs * 1000000 ≤ t.nanos ∧ t.nanos < t.floorMs * 1000000 + 1000000 := by
  unfold floorMs
  omega

theorem floorMs_le_floorMs {a b : Timespec} (h : a.nanos ≤ b.nanos) : a.floorMs ≤ b.floorMs :=
  Int.ediv_le_ediv (by decide) h

theorem le_iff_nanos_le {a b : Timespec} (ha : a.Normalized) (hb : b.Normalized) :
    a ≤ b ↔ a.nanos ≤ b.nanos := by
  obtain ⟨ha0, ha1⟩ := ha
  obtain ⟨hb0, hb1⟩ := hb
  show a.sec < b.sec ∨ a.sec = b.sec ∧ a.nsec ≤ b.nsec ↔ _
  unfold nanos
  omega

theorem lt_iff_not_le (a b : Timespec) : a < b ↔ ¬b ≤ a := by
  show (a.sec < b.sec ∨ a.sec = b.sec ∧ a.nsec < b.nsec) ↔
    ¬(b.sec < a.sec ∨ b.sec = a.sec ∧ b.nsec ≤ a.nsec)
  omega

end Timespec

/-- `MILLISECOND_PER_SECOND`. -/
def millisecondPerSecond : Int := 1000

/-- `NANOSECONDS_PER_MILLISECOND`. -/
def nanosecondsPerMillisecond : Int := 1000000

/-- `Duration::new` from a count of nanoseconds; `none` beyond `u64` seconds. -/
def durationOfNanos (n : Nat) : Option Duration :=
  if h : n / 1000000000 < 2 ^ 64 then
    some ⟨n / 1000000000, n % 1000000000, h, Nat.mod_lt _ (by norm_num)⟩
  else none

theorem durationOfNanos_of_lt {n : Nat} (h : n / 1000000000 < 2 ^ 64) :
    ∃ d, durationOfNanos n = some d ∧ d.asNanos = n := by
  refine ⟨⟨n / 1000000000, n % 1000000000, h, Nat.mod_lt _ (by norm_num)⟩, ?_, ?_⟩
  · simp only [durationOfNanos, dif_pos h]
  · simp only [Duration.asNanos]
    omega

/-- `Instant::elapsed_duration`: `(later - earlier).to_std().unwrap()` when the clock
did not go back, and a panic (`none`) when it did. -/
def elapsedDuration (later earlier : Timespec) : Option Duration :=
  if earlier ≤ later then durationOfNanos (later.nanos - earlier.nanos).toNat else none

/-- A reading in milliseconds, as `elapsed_duration_coarse` computes it in `i64`. -/
def coarseMs (m : Mode) (t : Timespec) : Option Int := do
  let ms ← fitInt 64 m (t.sec * millisecondPerSecond)
  fitInt 64 m (ms + t.nsec.tdiv nanosecondsPerMillisecond)

/-- `Instant::elapsed_duration_coarse`. -/
def elapsedDurationCoarse (m : Mode) (later earlier : Timespec) : Option Duration := do
  let laterMs ← coarseMs m later
  let earlierMs ← coarseMs m earlier
  let dur ← fitInt 64 m (laterMs - earlierMs)
  pure (if 0 ≤ dur then Duration.fromMillis (UInt64.ofNat dur.toNat) else Duration.fromMillis 0)

/-- `utils::time::Instant`. -/
inductive Instant where
  | monotonic (t : Timespec)
  | monotonicCoarse (t : Timespec)
  deriving DecidableEq, Repr

/-- `Instant::duration_since`; `none` is a panic, also that of instants of two kinds. -/
def Instant.durationSince (m : Mode) : Instant → Instant → Option Duration
  | .monotonic later, .monotonic earlier => elapsedDuration later earlier
  | .monotonicCoarse later, .monotonicCoarse earlier => elapsedDurationCoarse m later earlier
  | _, _ => none

/-- `Instant::elapsed`, with `now` the reading of the instant's own clock. -/
def Instant.elapsed (m : Mode) (self : Instant) (now : Timespec) : Option Duration :=
  match self with
  | .monotonic t => elapsedDuration now t
  | .monotonicCoarse t => elapsedDurationCoarse m now t

/-- `duration_to_ms`: `d.as_secs() * 1_000 + (nanos / 1_000_000)` in `u64`. -/
def durationToMs (m : Mode) (d : Duration) : Option Nat := do
  let ms ← fitNat 64 m (d.secs * 1000)
  fitNat 64 m (ms + d.nanos / 1000000)

/-! ### Readings of the monotonic clocks -/

/-- `i64::MAX / 1000 - 1`. -/
def secMax : Int := 9223372036854775807 / 1000 - 1

/-- A reading of a monotonic clock, as `get_time` builds it with `Timespec::new`:
normalized, counting from boot, and below `secMax` seconds. -/
structure Reading where
  toTimespec : Timespec
  normalized : toTimespec.Normalized
  sec_nonneg : 0 ≤ toTimespec.sec
  sec_le : toTimespec.sec ≤ secMax

namespace Reading

variable (r : Reading)

theorem floorMs_eq : r.toTimespec.floorMs = r.toTimespec.sec * 1000 + r.toTimespec.nsec / 1000000 := by
  have := r.normalized.1
  unfold Timespec.floorMs Timespec.nanos
  omega

theorem floorMs_mem : 0 ≤ r.toTimespec.floorMs ∧ r.toTimespec.floorMs ≤ secMax * 1000 + 999 := by
  have := r.normalized
  have := r.sec_nonneg
  have := r.sec_le
  rw [floorMs_eq]
  unfold Timespec.Normalized at *
  omega

theorem nanos_mem : 0 ≤ r.toTimespec.nanos ∧ r.toTimespec.nanos < (secMax + 1) * 1000000000 := by
  have := r.normalized
  have := r.sec_nonneg
  have := r.sec_le
  unfold Timespec.Normalized Timespec.nanos at *
  omega

@[simp] theorem coarseMs_eq (m : Mode) : coarseMs m r.toTimespec = some r.toTimespec.floorMs := by
  have hn := r.normalized.1
  have hs := r.sec_nonneg
  have hle := r.sec_le
  have hsec : -2 ^ (64 - 1) ≤ r.toTimespec.sec * 1000 ∧ r.toTimespec.sec * 1000 < 2 ^ (64 - 1) := by
    unfold secMax at hle
    omega
  have hms := r.floorMs_mem
  rw [floorMs_eq] at hms
  unfold secMax at hms
  simp only [coarseMs, millisecondPerSecond, nanosecondsPerMillisecond, fitInt_of_mem hsec.1 hsec.2,
    Option.bind_eq_bind, Option.bind_some, Int.tdiv_eq_ediv_of_nonneg hn]
  rw [fitInt_of_mem (by omega) (by omega), floorMs_eq]

end Reading

/-- Between two readings, the coarse elapsed time is the difference of the readings
truncated to milliseconds, clamped at zero. -/
theorem elapsedDurationCoarse_reading (m : Mode) (later earlier : Reading) :
    elapsedDurationCoarse m later.toTimespec earlier.toTimespec =
      some (Duration.fromMillis (UInt64.ofNat
        (later.toTimespec.floorMs - earlier.toTimespec.floorMs).toNat)) := by
  have hl := later.floorMs_mem
  have he := earlier.floorMs_mem
  unfold secMax at hl he
  simp only [elapsedDurationCoarse, Reading.coarseMs_eq, Option.bind_eq_bind, Option.bind_some]
  rw [fitInt_of_mem (by omega) (by omega)]
  simp only [Option.bind_some, Option.pure_def]
  split
  · rfl
  · next hneg =>
    rw [Int.toNat_of_nonpos (by omega)]
    rfl

theorem asNanos_elapsedDurationCoarse (later earlier : Reading) :
    ((Duration.fromMillis (UInt64.ofNat
        (later.toTimespec.floorMs - earlier.toTimespec.floorMs).toNat)).asNanos : Int) =
      max 0 (later.toTimespec.floorMs - earlier.toTimespec.floorMs) * 1000000 := by
  have hl := later.floorMs_mem
  have he := earlier.floorMs_mem
  unfold secMax at hl he
  rw [Duration.asNanos_fromMillis, UInt64.toNat_ofNat', Nat.mod_eq_of_lt (by omega)]
  push_cast
  omega

theorem elapsedDuration_reading {later earlier : Reading}
    (h : earlier.toTimespec ≤ later.toTimespec) :
    ∃ exact, elapsedDuration later.toTimespec earlier.toTimespec = some exact ∧
      (exact.asNanos : Int) = later.toTimespec.nanos - earlier.toTimespec.nanos := by
  have hl := later.nanos_mem
  have he := earlier.nanos_mem
  have hle := (Timespec.le_iff_nanos_le earlier.normalized later.normalized).1 h
  unfold secMax at hl he
  have hfit : (later.toTimespec.nanos - earlier.toTimespec.nanos).toNat / 1000000000 < 2 ^ 64 := by
    omega
  obtain ⟨exact, hexact, hnanos⟩ := durationOfNanos_of_lt hfit
  refine ⟨exact, by rw [elapsedDuration, if_pos h, hexact], ?_⟩
  omega

/-- Coarse and exact elapsed time between two readings: the coarse one is the
difference of the readings truncated to milliseconds and less than a millisecond
from the exact one; when the clock went back, the coarse one is zero and the
exact one panics. -/
theorem coarse_elapsed_within_ms (m : Mode) (later earlier : Reading) :
    (earlier.toTimespec ≤ later.toTimespec →
      ∃ coarse exact, elapsedDurationCoarse m later.toTimespec earlier.toTimespec = some coarse ∧
        elapsedDuration later.toTimespec earlier.toTimespec = some exact ∧
        (coarse.asNanos : Int) = (later.toTimespec.floorMs - earlier.toTimespec.floorMs) * 1000000 ∧
        |(exact.asNanos : Int) - coarse.asNanos| < 1000000) ∧
    (later.toTimespec < earlier.toTimespec →
      elapsedDurationCoarse m later.toTimespec earlier.toTimespec = some (Duration.fromMillis 0) ∧
      elapsedDuration later.toTimespec earlier.toTimespec = none) := by
  have hl := later.nanos_mem
  have he := earlier.nanos_mem
  constructor
  · intro h
    have hle := (Timespec.le_iff_nanos_le earlier.normalized later.normalized).1 h
    obtain ⟨exact, hexact, hnanos⟩ := elapsedDuration_reading h
    have hcoarse := asNanos_elapsedDurationCoarse later earlier
    have hmono := Timespec.floorMs_le_floorMs hle
    have hfl := later.toTimespec.floorMs_mul_mem
    have hfe := earlier.toTimespec.floorMs_mul_mem
    refine ⟨_, exact, elapsedDurationCoarse_reading m later earlier, hexact, ?_, ?_⟩
    · rw [hcoarse, max_eq_right (by omega)]
    · rw [hcoarse, hnanos, abs_lt]
      omega
  · intro h
    have hlt : later.toTimespec.nanos < earlier.toTimespec.nanos := by
      rw [Timespec.lt_iff_not_le, Timespec.le_iff_nanos_le earlier.normalized later.normalized] at h
      omega
    have hfloor : later.toTimespec.floorMs - earlier.toTimespec.floorMs ≤ 0 :=
      Int.sub_nonpos_of_le (Timespec.floorMs_le_floorMs hlt.le)
    refine ⟨?_, ?_⟩
    · rw [elapsedDurationCoarse_reading, Int.toNat_of_nonpos hfloor]
      rfl
    · rw [Timespec.lt_iff_not_le] at h
      simp only [elapsedDuration, if_neg h]

/-- A reading just before a second's boundary. -/
def beforeBoundary : Reading := ⟨⟨3, 999999999⟩, ⟨by decide, by decide⟩, by decide, by decide⟩

def afterBoundary : Reading := ⟨⟨4, 499999⟩, ⟨by decide, by decide⟩, by decide, by decide⟩

theorem coarse_elapsed_within_ms_across_boundary :
    beforeBoundary.toTimespec ≤ afterBoundary.toTimespec ∧
    (∃ coarse exact,
      elapsedDurationCoarse .panic afterBoundary.toTimespec beforeBoundary.toTimespec = some coarse ∧
      elapsedDuration afterBoundary.toTimespec beforeBoundary.toTimespec = some exact ∧
      (coarse.asNanos : Int) =
        (afterBoundary.toTimespec.floorMs - beforeBoundary.toTimespec.floorMs) * 1000000 ∧
      |(exact.asNanos : Int) - coarse.asNanos| < 1000000) ∧
    beforeBoundary.toTimespec < afterBoundary.toTimespec ∧
    (elapsedDurationCoarse .panic beforeBoundary.toTimespec afterBoundary.toTimespec =
        some (Duration.fromMillis 0) ∧
      elapsedDuration beforeBoundary.toTimespec afterBoundary.toTimespec = none) := by
  have hle : beforeBoundary.toTimespec ≤ afterBoundary.toTimespec := by decide
  have hlt : beforeBoundary.toTimespec < afterBoundary.toTimespec := by decide
  exact ⟨hle, (coarse_elapsed_within_ms .panic afterBoundary beforeBoundary).1 hle, hlt,
    (coarse_elapsed_within_ms .panic beforeBoundary afterBoundary).2 hlt⟩

/-- Two normalized timespecs `secMax` seconds either side of zero. -/
def farLater : Timespec := ⟨secMax, 0⟩

def farEarlier : Timespec := ⟨-secMax, 0⟩

/-- With `|sec| ≤ secMax` alone, the difference of two readings in milliseconds
overflows `i64`: a debug build panics, and a release build finds the clock gone
back in one order and a few seconds elapsed in the other. -/
theorem coarse_elapsed_overflows_far_apart :
    farLater.Normalized ∧ farEarlier.Normalized ∧ |farLater.sec| ≤ secMax ∧
    |farEarlier.sec| ≤ secMax ∧ farEarlier ≤ farLater ∧
    farLater.floorMs - farEarlier.floorMs = 18446744073709548000 ∧
    elapsedDurationCoarse .panic farLater farEarlier = none ∧
    elapsedDurationCoarse .wrap farLater farEarlier = some (Duration.fromMillis 0) ∧
    elapsedDurationCoarse .panic farEarlier farLater = none ∧
    elapsedDurationCoarse .wrap farEarlier farLater = some (Duration.fromMillis 3616) := by
  refine ⟨⟨by decide, by decide⟩, ⟨by decide, by decide⟩, by decide, by decide, by decide, by decide,
    rfl, rfl, rfl, rfl⟩

theorem asNanos_div_ms (d : Duration) : d.asNanos / 1000000 = d.secs * 1000 + d.nanos / 1000000 := by
  unfold Duration.asNanos
  omega

/-- A release build's `duration_to_ms` is the duration in whole milliseconds, modulo
`2 ^ 64`. -/
theorem durationToMs_wrap (d : Duration) :
    durationToMs .wrap d = some (d.asNanos / 1000000 % 2 ^ 64) := by
  rw [durationToMs, fitNat_wrap, Option.bind_eq_bind, Option.bind_some, fitNat_wrap,
    Nat.mod_add_mod, asNanos_div_ms]

/-- A debug build's `duration_to_ms` is the duration in whole milliseconds, and panics
when that does not fit a `u64`. -/
theorem durationToMs_panic (d : Duration) :
    durationToMs .panic d =
      if d.asNanos / 1000000 < 2 ^ 64 then some (d.asNanos / 1000000) else none := by
  rw [asNanos_div_ms, durationToMs, fitNat_panic, Option.bind_eq_bind]
  by_cases hsecs : d.secs * 1000 < 2 ^ 64
  · rw [if_pos hsecs, Option.bind_some, fitNat_panic]
  · have hms : ¬d.secs * 1000 + d.nanos / 1000000 < 2 ^ 64 :=
      Nat.not_lt.2 (le_trans (Nat.not_lt.1 hsecs) (Nat.le_add_right _ _))
    rw [if_neg hsecs, if_neg hms, Option.bind_none]

/-! ### The pool ticker -/

/-- `TICK_INTERVAL`. -/
def tickInterval : Duration := ⟨1, 0, by norm_num, by norm_num⟩

/-- `TickerWrapper`: the ticker and the instant of its last tick. -/
structure TickerWrapper (T : Type) where
  ticker : T
  lastTickTime : Instant

variable {T : Type}

/-- `TickerWrapper::new`, with `now` the coarse clock's reading. -/
def TickerWrapper.new (ticker : T) (now : Timespec) : TickerWrapper T :=
  ⟨ticker, .monotonicCoarse now⟩

/-- `try_tick` at the coarse clock's reading `now`, with the ticker's `on_tick`: the
wrapper after it and whether `on_tick` ran; `none` is a panic. -/
def TickerWrapper.tryTick (m : Mode) (onTick : T → T) (w : TickerWrapper T) (now : Timespec) :
    Option (TickerWrapper T × Bool) := do
  let now := Instant.monotonicCoarse now
  let d ← now.durationSince m w.lastTickTime
  if d < tickInterval then pure (w, false) else pure (⟨onTick w.ticker, now⟩, true)

/-- `try_tick` at each reading in turn: the wrapper after them, and the readings
at which `on_tick` ran. -/
def TickerWrapper.tryTicks (m : Mode) (onTick : T → T) :
    TickerWrapper T → List Timespec → Option (TickerWrapper T × List Timespec)
  | w, [] => some (w, [])
  | w, now :: rest => do
    let (w', ticked) ← w.tryTick m onTick now
    let (w'', ticks) ← w'.tryTicks m onTick rest
    pure (w'', if ticked then now :: ticks else ticks)

/-- One `try_tick` after a tick at the reading `last`: `on_tick` runs exactly when a
second has passed between the readings truncated to milliseconds. -/
theorem tryTick_reading (m : Mode) (onTick : T → T) (ticker : T) (last now : Reading) :
    (TickerWrapper.mk ticker (.monotonicCoarse last.toTimespec)).tryTick m onTick now.toTimespec =
      if now.toTimespec.floorMs - last.toTimespec.floorMs < 1000 then
        some (⟨ticker, .monotonicCoarse last.toTimespec⟩, false)
      else some (⟨onTick ticker, .monotonicCoarse now.toTimespec⟩, true) := by
  have hd := asNanos_elapsedDurationCoarse now last
  have hlt : Duration.fromMillis (UInt64.ofNat
        (now.toTimespec.floorMs - last.toTimespec.floorMs).toNat) < tickInterval ↔
      now.toTimespec.floorMs - last.toTimespec.floorMs < 1000 := by
    rw [Duration.lt_iff_asNanos_lt]
    have : tickInterval.asNanos = 1000000000 := rfl
    omega
  simp only [TickerWrapper.tryTick, Instant.durationSince, elapsedDurationCoarse_reading,
    Option.bind_eq_bind, Option.bind_some, Option.pure_def]
  by_cases h : now.toTimespec.floorMs - last.toTimespec.floorMs < 1000
  · rw [if_pos (hlt.2 h), if_pos h]
  · rw [if_neg (mt hlt.1 h), if_neg h]

/-- Consecutive ticks: a second apart truncated to milliseconds, more than 999 ms
apart exactly. -/
def TickGap (a b : Timespec) : Prop := a.floorMs + 1000 ≤ b.floorMs ∧ a.nanos + 999000000 < b.nanos

theorem tickGap_of_floorMs {a b : Timespec} (h : a.floorMs + 1000 ≤ b.floorMs) : TickGap a b := by
  have ha := a.floorMs_mul_mem
  have hb := b.floorMs_mul_mem
  refine ⟨h, ?_⟩
  omega

/-- A run of `try_tick`s after a tick at the reading `last`. -/
theorem tryTicks_from (m : Mode) (onTick : T → T) (ticker : T) (last : Reading)
    (readings : List Reading) :
    ∃ w ticks, (TickerWrapper.mk ticker (.monotonicCoarse last.toTimespec)).tryTicks m onTick
        (readings.map Reading.toTimespec) = some (w, ticks) ∧
      ticks.Sublist (readings.map Reading.toTimespec) ∧ w.ticker = onTick^[ticks.length] ticker ∧
      List.IsChain TickGap (last.toTimespec :: ticks) := by
  induction readings generalizing ticker last with
  | nil => exact ⟨_, [], rfl, List.Sublist.slnil, rfl, List.isChain_singleton _⟩
  | cons now rest ih =>
    by_cases h : now.toTimespec.floorMs - last.toTimespec.floorMs < 1000
    · obtain ⟨w, ticks, hrun, hsub, htick, hchain⟩ := ih ticker last
      refine ⟨w, ticks, ?_, hsub.cons _, htick, hchain⟩
      simp only [List.map_cons, TickerWrapper.tryTicks, tryTick_reading, if_pos h,
        Option.bind_eq_bind, Option.bind_some, hrun, Option.pure_def]
      rfl
    · obtain ⟨w, ticks, hrun, hsub, htick, hchain⟩ := ih (onTick ticker) now
      refine ⟨w, now.toTimespec :: ticks, ?_, hsub.cons_cons _, ?_, ?_⟩
      · simp only [List.map_cons, TickerWrapper.tryTicks, tryTick_reading, if_neg h,
          Option.bind_eq_bind, Option.bind_some, hrun, Option.pure_def]
        rfl
      · rw [htick, List.length_cons, Function.iterate_succ_apply]
      · exact List.IsChain.cons_cons (tickGap_of_floorMs (by omega)) hchain

/-- Ticks of a wrapper over any readings of the coarse clock: `try_tick` never
panics, `on_tick` runs once at each tick and nowhere else, and each tick comes a
second after the previous one (or the wrapper's construction), truncated to
milliseconds. -/
theorem ticks_rate_limited (m : Mode) (onTick : T → T) (ticker : T) (start : Reading)
    (readings : List Reading) :
    ∃ w ticks, (TickerWrapper.new ticker start.toTimespec).tryTicks m onTick
        (readings.map Reading.toTimespec) = some (w, ticks) ∧
      ticks.Sublist (readings.map Reading.toTimespec) ∧ w.ticker = onTick^[ticks.length] ticker ∧
      List.IsChain TickGap (start.toTimespec :: ticks) :=
  tryTicks_from m onTick ticker start readings

end Time
