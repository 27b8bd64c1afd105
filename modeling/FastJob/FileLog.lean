import FastJob.Overflow
import FastJob.Transition

/-!
# The rotating log file (`log::file_log`, `log::file_writer`)

`RotatingFileLogger` writes to the file at `path` and keeps a list of
rotators. Each write first tells every rotator how many bytes it is given, then
hands them to the file, which may take a prefix or fail. Each flush asks the
rotators in turn whether to rotate; at the first that says so, the file is
renamed to `rename(path)`, reopened empty at `path`, and every rotator is reset.
`file_writer` builds such a logger with a `RotateByTime` and a `RotateBySize`
rotator, of which the builder keeps those that report themselves enabled, and
wraps it in a `BufWriter`.

The file system maps paths to files. The open `File` of the logger is the file
at `path`: `open_log_file` creates it when missing, and a rotation reopens it
at once, so it is always there. Directories are not modelled, so opening does
not fail, and `File::flush` does nothing. Clock readings (`SystemTime::now`,
`Local::now`) are the `now` of the step, in nanoseconds, and `checked_add` on
them does not overflow. The answer of the file to a write is the label of the
step: the length of the prefix it accepted, or an error.
-/
namespace FileLog

open Transition Overflow

/-- `std::time::Duration`: whole seconds (a `u64`) and the nanoseconds below one
second. -/
structure Duration where
  secs : Nat
  nanos : Nat
  secs_lt : secs < 2 ^ 64
  nanos_lt : nanos < 1000000000

/-- `Duration::as_nanos`, a `u128`. -/
def Duration.asNanos (d : Duration) : Nat := d.secs * 1000000000 + d.nanos

theorem asNanos_lt (d : Duration) : d.asNanos < 2 ^ 128 - 1 := by
  have := d.secs_lt
  have := d.nanos_lt
  unfold Duration.asNanos
  omega

/-- The errors of the modelled I/O calls. -/
inductive IoError where
  /-- `fs::rename` of a path with no file. -/
  | notFound
  /-- `Metadata::created`/`accessed` on a platform without it. -/
  | unsupported
  /-- Any other error, of the file or of the logger's `rename`. -/
  | other (msg : String)
  deriving DecidableEq, Repr

/-- A file: its bytes and its creation and access times (`none` when the
platform does not report them). -/
structure FileData where
  contents : List UInt8
  created : Option Int
  accessed : Option Int
  deriving DecidableEq, Repr

/-- The file system: the file at each path. -/
abbrev Fs := AList (fun _ : String => FileData)

/-- `open_log_file`: open `path` for appending, creating an empty file when there
is none. -/
def openLogFile (fs : Fs) (path : String) (now : Int) : Fs :=
  if (fs.lookup path).isSome then fs else fs.insert path ⟨[], some now, some now⟩

/-- `fs::rename`: move the file at `src` to `dst`, replacing any file there. -/
def fsRename (fs : Fs) (src dst : String) : Except IoError Fs :=
  match fs.lookup src with
  | none => .error .notFound
  | some file => if src = dst then .ok fs else .ok ((fs.erase src).insert dst file)

/-- The two rotators of `file_log.rs` with their state. -/
inductive Rotator where
  | rotateByTime (rotationTimespan : Duration) (nextRotationTime : Option Int)
  | rotateBySize (rotationSize : Nat) (fileSize : Nat)

/-- `RotateByTime::new`. -/
def RotateByTime.new (rotationTimespan : Duration) : Rotator := .rotateByTime rotationTimespan none

/-- `RotateBySize::new`. -/
def RotateBySize.new (rotationSize : Nat) : Rotator := .rotateBySize rotationSize 0

/-- `RotateByTime::next_rotation_time`. -/
def RotateByTime.nextRotationTime (begin : Int) (duration : Duration) : Int :=
  begin + duration.asNanos

namespace Rotator

/-- `is_enabled`. For time, `!self.rotation_timespan.as_nanos() == 0`: the bitwise
not of the `u128` is compared with zero. -/
def isEnabled : Rotator → Bool
  | .rotateByTime rotationTimespan _ => ~~~(BitVec.ofNat 128 rotationTimespan.asNanos) == 0#128
  | .rotateBySize rotationSize _ => rotationSize != 0

/-- `prepare`: the time rotator's first rotation is a timespan after the file's
birth, the earlier of its creation and access times; the size rotator starts
from the file's length. -/
def prepare (file : FileData) : Rotator → Except IoError Rotator
  | .rotateByTime rotationTimespan _ =>
    let birth : Except IoError Int :=
      match file.created, file.accessed with
      | none, a => match a with
        | none => .error .unsupported
        | some a => .ok a
      | some c, some a => if a < c then .ok a else .ok c
      | some c, none => .ok c
    birth.map fun birth =>
      .rotateByTime rotationTimespan (some (RotateByTime.nextRotationTime birth rotationTimespan))
  | .rotateBySize rotationSize _ => .ok (.rotateBySize rotationSize file.contents.length)

/-- `should_rotator` at the clock `now`; `none` is the panic of its `assert!`. -/
def shouldRotator (now : Int) : Rotator → Option Bool
  | .rotateByTime _ nextRotationTime => nextRotationTime.map fun t => decide (t < now)
  | .rotateBySize rotationSize fileSize => some (decide (rotationSize < fileSize))

/-- `on_write`: the size rotator counts every byte it is given. -/
def onWrite (data : List UInt8) : Rotator → Rotator
  | .rotateByTime rotationTimespan nextRotationTime => .rotateByTime rotationTimespan nextRotationTime
  | .rotateBySize rotationSize fileSize => .rotateBySize rotationSize (fileSize + data.length)

/-- `on_rotator` at the clock `now`; `none` is the panic of its `assert!`. -/
def onRotator (now : Int) : Rotator → Option Rotator
  | .rotateByTime rotationTimespan nextRotationTime =>
    nextRotationTime.map fun _ =>
      .rotateByTime rotationTimespan (some (RotateByTime.nextRotationTime now rotationTimespan))
  | .rotateBySize rotationSize _ => some (.rotateBySize rotationSize 0)

def fileSize? : Rotator → Option Nat
  | .rotateByTime _ _ => none
  | .rotateBySize _ fileSize => some fileSize

end Rotator

/-- `RotatingFileLogger`; its `File` is the file at `path`. -/
structure RotatingFileLogger where
  path : String
  rename : String → Except IoError String
  rotators : List Rotator

/-- `RotatingFileLoggerBuilder`. -/
structure RotatingFileLoggerBuilder where
  path : String
  rename : String → Except IoError String
  rotators : List Rotator

/-- `RotatingFileLoggerBuilder::builder`. -/
def RotatingFileLoggerBuilder.builder (rename : String → Except IoError String) :
    RotatingFileLoggerBuilder :=
  ⟨"", rename, []⟩

/-- `add_path`. -/
def RotatingFileLoggerBuilder.addPath (b : RotatingFileLoggerBuilder) (path : String) :
    RotatingFileLoggerBuilder :=
  { b with path }

/-- `add_rotator`: only an enabled rotator is kept. -/
def RotatingFileLoggerBuilder.addRotator (b : RotatingFileLoggerBuilder) (rotator : Rotator) :
    RotatingFileLoggerBuilder :=
  if rotator.isEnabled then { b with rotators := b.rotators ++ [rotator] } else b

/-- `build`: open the file, then prepare every rotator with it. -/
def RotatingFileLoggerBuilder.build (b : RotatingFileLoggerBuilder) (fs : Fs) (now : Int) :
    Except IoError (RotatingFileLogger × Fs) :=
  let fs := openLogFile fs b.path now
  match fs.lookup b.path with
  | none => .error .notFound
  | some file => (b.rotators.mapM (Rotator.prepare file)).map fun rotators =>
      (⟨b.path, b.rename, rotators⟩, fs)

/-- The answer of the file to one `write`: the length of the prefix it took, or
an error. -/
inductive WriteResult where
  | accepted (n : Nat)
  | failed (e : IoError)
  deriving DecidableEq, Repr

/-- `Write::write` of the logger: every rotator is told of all the bytes, then the
file takes what it takes. -/
def RotatingFileLogger.write (l : RotatingFileLogger) (fs : Fs) (bytes : List UInt8)
    (result : WriteResult) : Option (RotatingFileLogger × Fs × Except IoError Nat) :=
  let l' := { l with rotators := l.rotators.map (Rotator.onWrite bytes) }
  match fs.lookup l.path with
  | none => none
  | some file =>
    match result with
    | .accepted n =>
      some (l', fs.insert l.path { file with contents := file.contents ++ bytes.take n }, .ok n)
    | .failed e => some (l', fs, .error e)

/-- The rotators asked in turn until one says to rotate; `none` is a panic. -/
def anyShouldRotator (now : Int) : List Rotator → Option Bool
  | [] => some false
  | r :: rs =>
    match r.shouldRotator now with
    | none => none
    | some true => some true
    | some false => anyShouldRotator now rs

/-- `Write::flush` of the logger at the clock `now`; `none` is a panic. -/
def RotatingFileLogger.flush (l : RotatingFileLogger) (fs : Fs) (now : Int) :
    Option (RotatingFileLogger × Fs × Except IoError Unit) :=
  match anyShouldRotator now l.rotators with
  | none => none
  | some false => some (l, fs, .ok ())
  | some true =>
    match l.rename l.path with
    | .error e => some (l, fs, .error e)
    | .ok newPath =>
      match fsRename fs l.path newPath with
      | .error e => some (l, fs, .error e)
      | .ok fs =>
        let fs := openLogFile fs l.path now
        (l.rotators.mapM (Rotator.onRotator now)).map fun rotators =>
          ({ l with rotators }, fs, .ok ())

/-- `BufWriter` around a writer; its buffering is not modelled. -/
structure BufWriter (W : Type) where
  inner : W

/-- `file_writer`. -/
def fileWriter (path : String) (rotationTimespan : Duration) (rotationSize : Nat)
    (rename : String → Except IoError String) (fs : Fs) (now : Int) :
    Except IoError (BufWriter RotatingFileLogger × Fs) :=
  ((((RotatingFileLoggerBuilder.builder rename).addPath path).addRotator
      (RotateByTime.new rotationTimespan)).addRotator (RotateBySize.new rotationSize)).build fs now
    |>.map fun (logger, fs) => (⟨logger⟩, fs)

/-! ### Runs of the logger -/

/-- The logger and the file system. -/
structure Sys where
  logger : RotatingFileLogger
  fs : Fs

/-- Calls on the logger, each with what its environment answers. -/
inductive Label where
  /-- `write(bytes)`, which the file answers with `result`. -/
  | write (bytes : List UInt8) (result : WriteResult)
  /-- `flush()` at the clock `now`; `rotate` is whether a rotator asks for a rotation. -/
  | flush (now : Int) (rotate : Bool)
  deriving DecidableEq

/-- A file takes at most the bytes it is given. -/
def WriteResult.fits (bytes : List UInt8) : WriteResult → Bool
  | .accepted n => decide (n ≤ bytes.length)
  | .failed _ => true

/-- One call; `none` when it panics or its answer is not possible. -/
def next (s : Sys) : Label → Option Sys
  | .write bytes result =>
    if result.fits bytes then
      (s.logger.write s.fs bytes result).map fun (logger, fs, _) => ⟨logger, fs⟩
    else none
  | .flush now rotate =>
    if anyShouldRotator now s.logger.rotators = some rotate then
      (s.logger.flush s.fs now).map fun (logger, fs, _) => ⟨logger, fs⟩
    else none

def Step (s : Sys) (l : Label) (t : Sys) : Prop := next s l = some t

def Sys.fileLen (s : Sys) : Nat := ((s.fs.lookup s.logger.path).map (·.contents.length)).getD 0

/-- The bytes a call hands to the file. -/
def Label.offered : Label → Nat
  | .write bytes _ => bytes.length
  | .flush _ _ => 0

/-- The bytes the file takes in a call. -/
def Label.accepted : Label → Nat
  | .write _ (.accepted n) => n
  | _ => 0

/-- The call is a flush at which a rotator asks for a rotation. -/
def Label.rotates : Label → Bool
  | .flush _ rotate => rotate
  | .write _ _ => false

@[simp] theorem fileSize?_onWrite (bytes : List UInt8) (r : Rotator) :
    (r.onWrite bytes).fileSize? = r.fileSize?.map (· + bytes.length) := by
  cases r <;> rfl

theorem next_write {s t : Sys} {bytes : List UInt8} {result : WriteResult}
    (h : next s (.write bytes result) = some t) :
    t.logger.path = s.logger.path ∧ t.logger.rename = s.logger.rename ∧
    t.logger.rotators = s.logger.rotators.map (Rotator.onWrite bytes) ∧
    t.fileLen = s.fileLen + (Label.write bytes result).accepted := by
  simp only [next, RotatingFileLogger.write] at h
  split at h
  · next hfits =>
    split at h
    · cases h
    · next file hfile =>
      cases result with
      | accepted n =>
        simp only [WriteResult.fits, decide_eq_true_eq] at hfits
        cases h
        simp [Sys.fileLen, hfile, Label.accepted, Nat.min_eq_left hfits]
      | failed e =>
        cases h
        simp [Sys.fileLen, Label.accepted]
  · cases h

theorem next_flush_false {s t : Sys} {now : Int} (h : next s (.flush now false) = some t) :
    t = s := by
  simp only [next] at h
  split at h
  · next hno =>
    simp only [RotatingFileLogger.flush, hno, Option.map_some] at h
    cases h
    rfl
  · cases h

theorem next_flush_true {s t : Sys} {now : Int} (h : next s (.flush now true) = some t) :
    t.logger.path = s.logger.path ∧ t.logger.rename = s.logger.rename ∧
    (t.logger.rotators = s.logger.rotators ∨
      s.logger.rotators.mapM (Rotator.onRotator now) = some t.logger.rotators) := by
  simp only [next] at h
  split at h
  · next hyes =>
    simp only [RotatingFileLogger.flush, hyes] at h
    split at h
    · cases h
      exact ⟨rfl, rfl, .inl rfl⟩
    · split at h
      · cases h
        exact ⟨rfl, rfl, .inl rfl⟩
      · rw [Option.map_map] at h
        obtain ⟨rotators, hr, rfl⟩ := Option.map_eq_some_iff.mp h
        exact ⟨rfl, rfl, .inr hr⟩
  · cases h

/-- A rotation moves the file to `rename(path)`, leaves an empty file at `path`, and
resets every rotator. -/
theorem rotation_moves_file {s t : Sys} {now : Int} {newPath : String} {file : FileData}
    (h : next s (.flush now true) = some t) (hname : s.logger.rename s.logger.path = .ok newPath)
    (hne : s.logger.path ≠ newPath) (hfile : s.fs.lookup s.logger.path = some file) :
    t.fs.lookup newPath = some file ∧ t.fs.lookup s.logger.path = some ⟨[], some now, some now⟩ ∧
    s.logger.rotators.mapM (Rotator.onRotator now) = some t.logger.rotators := by
  simp only [next] at h
  split at h
  · next hyes =>
    simp only [RotatingFileLogger.flush, hyes, hname, fsRename, hfile, if_neg hne,
      Option.map_map] at h
    obtain ⟨rotators, hr, rfl⟩ := Option.map_eq_some_iff.mp h
    have hgone : ((s.fs.erase s.logger.path).insert newPath file).lookup s.logger.path = none := by
      rw [AList.lookup_insert_ne hne, AList.lookup_erase]
    refine ⟨?_, ?_, hr⟩
    · simp [openLogFile, hgone, AList.lookup_insert_ne (Ne.symm hne)]
    · simp [openLogFile, hgone]
  · cases h

/-- `RotateByTime::is_enabled` is false: the bitwise not of a timespan's nanoseconds
is never zero. -/
theorem rotateByTime_isEnabled (d : Duration) (nextRotationTime : Option Int) :
    (Rotator.rotateByTime d nextRotationTime).isEnabled = false := by
  have hlt := asNanos_lt d
  have hnat : (BitVec.ofNat 128 d.asNanos).toNat = d.asNanos := by
    rw [BitVec.toNat_ofNat]
    omega
  have hne : (~~~(BitVec.ofNat 128 d.asNanos)).toNat ≠ 0 := by
    rw [BitVec.toNat_not, hnat]
    omega
  simp only [Rotator.isEnabled, beq_eq_false_iff_ne, ne_eq]
  intro hzero
  exact hne (by rw [hzero]; rfl)

/-- With `rotation_size > 0`, `file_writer` builds the logger with the size rotator only. -/
theorem fileWriter_eq {path : String} {d : Duration} {size : Nat}
    {rename : String → Except IoError String} {fs : Fs} {now : Int} (hsize : 0 < size) :
    fileWriter path d size rename fs now =
      ((RotatingFileLoggerBuilder.mk path rename [.rotateBySize size 0]).build fs now).map
        fun (logger, fs) => (⟨logger⟩, fs) := by
  have htime : (RotateByTime.new d).isEnabled = false := rotateByTime_isEnabled d none
  have hsz : (RotateBySize.new size).isEnabled = true := by
    simp [RotateBySize.new, Rotator.isEnabled, Nat.pos_iff_ne_zero.mp hsize]
  simp only [fileWriter, RotatingFileLoggerBuilder.addRotator, htime, hsz]
  rfl

/-- `file_writer` keeps the size rotator only. -/
theorem fileWriter_rotators {path : String} {d : Duration} {size : Nat}
    {rename : String → Except IoError String} {fs : Fs} {now : Int}
    {w : BufWriter RotatingFileLogger} {fs' : Fs} (hsize : 0 < size)
    (h : fileWriter path d size rename fs now = .ok (w, fs')) :
    ∃ n, w.inner.rotators = [.rotateBySize size n] := by
  rw [fileWriter_eq hsize] at h
  simp only [RotatingFileLoggerBuilder.build] at h
  split at h
  · cases h
  · next file hfile =>
    cases h
    exact ⟨file.contents.length, rfl⟩

theorem anyShouldRotator_rotateBySize (now : Int) (size n : Nat) :
    anyShouldRotator now [.rotateBySize size n] = some (decide (size < n)) := by
  by_cases hlt : size < n <;> simp [anyShouldRotator, Rotator.shouldRotator, hlt]

theorem sizeOnly_next {size : Nat} {s t : Sys} {l : Label}
    (hs : ∃ n, s.logger.rotators = [.rotateBySize size n]) (h : next s l = some t) :
    ∃ n, t.logger.rotators = [.rotateBySize size n] := by
  obtain ⟨n, hn⟩ := hs
  cases l with
  | write bytes result =>
    obtain ⟨-, -, hr, -⟩ := next_write h
    exact ⟨n + bytes.length, by simp [hr, hn, Rotator.onWrite]⟩
  | flush now rotate =>
    cases rotate
    · rw [next_flush_false h]
      exact ⟨n, hn⟩
    · obtain ⟨-, -, hr | hr⟩ := next_flush_true h
      · exact ⟨n, hr.trans hn⟩
      · rw [hn] at hr
        simp only [List.mapM_cons, List.mapM_nil, Rotator.onRotator] at hr
        exact ⟨0, by simpa using hr.symm⟩

/-- Time rotation never happens. `RotateByTime::is_enabled` is false for every
timespan, so `file_writer` keeps only the size rotator: from the logger it builds,
along any run of writes and flushes, the logger has one rotator, a `RotateBySize`,
and at any clock a flush asks for a rotation exactly when its count exceeds
`rotation_size`, however long ago the file was born or last rotated. -/
theorem time_rotator_never_enabled :
    (∀ (d : Duration) (nextRotationTime : Option Int),
      (Rotator.rotateByTime d nextRotationTime).isEnabled = false) ∧
    ∀ (path : String) (d : Duration) (size : Nat) (rename : String → Except IoError String)
      (fs : Fs) (now : Int) (w : BufWriter RotatingFileLogger) (fs' : Fs),
      0 < size → fileWriter path d size rename fs now = .ok (w, fs') →
      ∀ ls u, Run Step ⟨w.inner, fs'⟩ ls u →
        ∃ n, u.logger.rotators = [.rotateBySize size n] ∧
          ∀ now', anyShouldRotator now' u.logger.rotators = some (decide (size < n)) := by
  refine ⟨rotateByTime_isEnabled, ?_⟩
  intro path d size rename fs now w fs' hsize h ls u hrun
  obtain ⟨n, hn⟩ := hrun.invariant (fun t => ∃ n, t.logger.rotators = [.rotateBySize size n])
    (fun _ _ _ hs hst => sizeOnly_next hs hst) (fileWriter_rotators hsize h)
  exact ⟨n, hn, fun now' => by rw [hn, anyShouldRotator_rotateBySize]⟩

def oneHour : Duration := ⟨3600, 0, by decide, by decide⟩

/-- A `rename` that appends a suffix. -/
def renameRotated (path : String) : Except IoError String := .ok (path ++ ".1")

/-- The logger `file_writer` builds on a missing file, with hourly and 100-byte rotation. -/
def hourLogger : RotatingFileLogger := ⟨"fastjob.log", renameRotated, [.rotateBySize 100 0]⟩

def emptyLogFs : Fs := (∅ : Fs).insert "fastjob.log" ⟨[], some 0, some 0⟩

/-- Two hours after the file was created, a flush does not rotate it. -/
theorem time_rotator_never_enabled_on_hourLogger :
    fileWriter "fastjob.log" oneHour 100 renameRotated ∅ 0 = .ok (⟨hourLogger⟩, emptyLogFs) ∧
    Run Step ⟨hourLogger, emptyLogFs⟩ [.flush 7200000000000 false] ⟨hourLogger, emptyLogFs⟩ ∧
    (Rotator.rotateByTime oneHour none).isEnabled = false ∧
    ∃ n, hourLogger.rotators = [.rotateBySize 100 n] ∧
      ∀ now', anyShouldRotator now' hourLogger.rotators = some (decide (100 < n)) := by
  have hw : fileWriter "fastjob.log" oneHour 100 renameRotated ∅ 0 =
      .ok (⟨hourLogger⟩, emptyLogFs) := rfl
  have hrun : Run Step ⟨hourLogger, emptyLogFs⟩ [.flush 7200000000000 false]
      ⟨hourLogger, emptyLogFs⟩ := Run.of_exec rfl
  exact ⟨hw, hrun, time_rotator_never_enabled.1 oneHour none,
    time_rotator_never_enabled.2 _ _ _ _ _ _ _ _ (by decide) hw _ _ hrun⟩

/-! ### The size count -/

theorem fileSizes_next {t t' : Sys} {l : Label} (hl : l.rotates = false)
    (hst : next t l = some t') :
    t'.logger.rotators.map Rotator.fileSize? =
      (t.logger.rotators.map Rotator.fileSize?).map (Option.map (· + l.offered)) := by
  cases l with
  | write bytes result =>
    obtain ⟨-, -, hr, -⟩ := next_write hst
    simp [hr, Function.comp_def, Label.offered]
  | flush now rotate =>
    cases rotate
    · rw [next_flush_false hst]
      simp [Label.offered]
    · cases hl

theorem fileLen_next {t t' : Sys} {l : Label} (hl : l.rotates = false)
    (hst : next t l = some t') :
    t'.logger.path = t.logger.path ∧ t'.fileLen = t.fileLen + l.accepted := by
  cases l with
  | write bytes result =>
    obtain ⟨hp, -, -, hlen⟩ := next_write hst
    exact ⟨hp, hlen⟩
  | flush now rotate =>
    cases rotate
    · rw [next_flush_false hst]
      exact ⟨rfl, rfl⟩
    · cases hl

/-- Along a run in which no rotation is asked for, every size count grows by the
bytes offered. -/
theorem fileSizes_run {s u : Sys} {ls : List Label} (hrun : Run Step s ls u)
    (hno : ∀ l ∈ ls, l.rotates = false) :
    u.logger.rotators.map Rotator.fileSize? =
      (s.logger.rotators.map Rotator.fileSize?).map (Option.map (· + (ls.map Label.offered).sum)) := by
  have hsizes := hrun.invariant_sum (fun l => l.rotates = false)
    (fun n t => t.logger.rotators.map Rotator.fileSize? =
      (s.logger.rotators.map Rotator.fileSize?).map (Option.map (· + n)))
    Label.offered (fun n t l t' hl hinv hst => by
      rw [fileSizes_next hl hst, hinv, List.map_map]
      simp [Function.comp_def, Nat.add_assoc])
    hno (n := 0) (by simp)
  simpa using hsizes

/-- The size count follows the bytes offered, not the bytes the file took. Along
any run of writes and flushes in which no rotation is asked for, whatever prefix
the file takes of each write or whether it fails, every size rotator's count
grows by the bytes handed to `write` and the file by the bytes it accepted. -/
theorem file_size_counts_offered_bytes {s u : Sys} {ls : List Label} (hrun : Run Step s ls u)
    (hno : ∀ l ∈ ls, l.rotates = false) :
    u.logger.rotators.map Rotator.fileSize? =
      (s.logger.rotators.map Rotator.fileSize?).map (Option.map (· + (ls.map Label.offered).sum)) ∧
    u.fileLen = s.fileLen + (ls.map Label.accepted).sum := by
  have hlen := hrun.invariant_sum (fun l => l.rotates = false)
    (fun n t => t.logger.path = s.logger.path ∧ t.fileLen = s.fileLen + n)
    Label.accepted (fun n t l t' hl hinv hst => by
      obtain ⟨hp, hl'⟩ := fileLen_next hl hst
      exact ⟨hp.trans hinv.1, by rw [hl', hinv.2, Nat.add_assoc]⟩)
    hno (n := 0) ⟨rfl, rfl⟩
  exact ⟨fileSizes_run hrun hno, by simpa using hlen.2⟩

def tenBytes : List UInt8 := List.replicate 10 7

def shortWritten : Sys :=
  (exec next ⟨hourLogger, emptyLogFs⟩ [.write tenBytes (.accepted 4)]).getD ⟨hourLogger, emptyLogFs⟩

/-- After one write of 10 bytes of which the file takes 4, the count is 10 and the
file holds 4 bytes. -/
theorem file_size_counts_offered_bytes_on_shortWrite :
    Run Step ⟨hourLogger, emptyLogFs⟩ [.write tenBytes (.accepted 4)] shortWritten ∧
    shortWritten.logger.rotators.map Rotator.fileSize? = [some 10] ∧ shortWritten.fileLen = 4 := by
  have hrun : Run Step ⟨hourLogger, emptyLogFs⟩ [.write tenBytes (.accepted 4)] shortWritten :=
    Run.of_exec rfl
  obtain ⟨hsize, hlen⟩ := file_size_counts_offered_bytes hrun (by decide)
  exact ⟨hrun, hsize, hlen⟩

/-! ### The count as a `u64` -/

/-- `on_write` as the source computes it: `file_size` is a `u64`, and its `+=` under the
build's behaviour `m`; `none` is the overflow panic. -/
def Rotator.onWriteU64 (m : Mode) (data : List UInt8) : Rotator → Option Rotator
  | .rotateByTime rotationTimespan nextRotationTime =>
    some (.rotateByTime rotationTimespan nextRotationTime)
  | .rotateBySize rotationSize fileSize =>
    (fitNat 64 m (fileSize + data.length)).map (.rotateBySize rotationSize)

theorem onWriteU64_eq (m : Mode) (data : List UInt8) (r : Rotator)
    (h : ∀ n, r.fileSize? = some n → n + data.length < 2 ^ 64) :
    r.onWriteU64 m data = some (r.onWrite data) := by
  cases r with
  | rotateByTime => rfl
  | rotateBySize size n => simp [Rotator.onWriteU64, Rotator.onWrite, fitNat_of_lt (h n rfl)]

/-- A drain's line handed to the logger and flushed at the clock `now`, the file taking
every byte. `BufWriter` passes the line on in one write or several before the flush,
which the file and the count see alike. -/
def RotatingFileLogger.writeLine (l : RotatingFileLogger) (fs : Fs) (line : List UInt8)
    (now : Int) : Option (RotatingFileLogger × Fs × Except IoError Unit) :=
  (l.write fs line (.accepted line.length)).bind fun (l, fs, _) => l.flush fs now

/-- The file at a rotating log's path after a line is written and flushed, as rotation
by size keeps it: the line is appended, and once the file holds more than `size`
bytes, for `size > 0`, it is moved away and an empty file takes its place. -/
def rotateAfter {α : Type} (size : Nat) (file line : List α) : List α :=
  if 0 < size ∧ size < (file ++ line).length then [] else file ++ line

/-- Over the lines of a list of items, the file of `rotateAfter` holds the lines of the
items since the last rotation, after what it held at the start when there was none. -/
theorem foldl_rotateAfter {α β : Type} (size : Nat) (base : List α) (f : β → List α)
    (items : List β) :
    ∃ dropped kept, items = dropped ++ kept ∧
      (items.map f).foldl (rotateAfter size) base =
        (if dropped = [] then base else []) ++ kept.flatMap f := by
  induction items generalizing base with
  | nil => exact ⟨[], [], rfl, by simp⟩
  | cons item items ih =>
    obtain ⟨dropped, kept, rfl, hfold⟩ := ih (rotateAfter size base (f item))
    rw [List.map_cons, List.foldl_cons, hfold]
    by_cases hd : dropped = []
    · subst hd
      rw [if_pos rfl]
      by_cases hrot : 0 < size ∧ size < (base ++ f item).length
      · refine ⟨[item], kept, rfl, ?_⟩
        rw [rotateAfter, if_pos hrot, if_neg (List.cons_ne_nil _ _)]
      · refine ⟨[], item :: kept, rfl, ?_⟩
        rw [rotateAfter, if_neg hrot, if_pos rfl, List.flatMap_cons, List.append_assoc]
    · exact ⟨item :: dropped, kept, rfl, by rw [if_neg hd, if_neg (List.cons_ne_nil _ _)]⟩

/-- A logger with the rotators `file_writer` keeps for `size`, whose size count is the
length of its file. -/
def Tracks (size : Nat) (l : RotatingFileLogger) (fs : Fs) : Prop :=
  ∃ file, fs.lookup l.path = some file ∧
    l.rotators = if size = 0 then [] else [.rotateBySize size file.contents.length]

theorem Tracks.congr {size : Nat} {l : RotatingFileLogger} {fs fs' : Fs} (h : Tracks size l fs)
    (hpath : fs'.lookup l.path = fs.lookup l.path) : Tracks size l fs' := by
  rw [Tracks, hpath]
  exact h

theorem write_accepted {l : RotatingFileLogger} {fs : Fs} {file : FileData}
    (hfile : fs.lookup l.path = some file) (line : List UInt8) :
    l.write fs line (.accepted line.length) =
      some ({ l with rotators := l.rotators.map (Rotator.onWrite line) },
        fs.insert l.path { file with contents := file.contents ++ line }, .ok line.length) := by
  simp [RotatingFileLogger.write, hfile]

theorem flush_of_stay {l : RotatingFileLogger} {fs : Fs} {now : Int}
    (h : anyShouldRotator now l.rotators = some false) : l.flush fs now = some (l, fs, .ok ()) := by
  simp [RotatingFileLogger.flush, h]

theorem flush_of_rotate {l : RotatingFileLogger} {fs : Fs} {now : Int} {newPath : String}
    {file : FileData} {rotators : List Rotator} (h : anyShouldRotator now l.rotators = some true)
    (hname : l.rename l.path = .ok newPath) (hne : l.path ≠ newPath)
    (hfile : fs.lookup l.path = some file)
    (hreset : l.rotators.mapM (Rotator.onRotator now) = some rotators) :
    l.flush fs now = some ({ l with rotators },
      ((fs.erase l.path).insert newPath file).insert l.path ⟨[], some now, some now⟩, .ok ()) := by
  have hgone : ((fs.erase l.path).insert newPath file).lookup l.path = none := by
    rw [AList.lookup_insert_ne hne, AList.lookup_erase]
  simp [RotatingFileLogger.flush, h, hname, fsRename, hfile, hne, openLogFile, hgone, hreset]

/-- A line written and flushed. From a logger that tracks its file, with a `rename` that
moves the file elsewhere, the call succeeds; the logger still tracks its file, which
is now what `rotateAfter` gives, and no file but the two the rotation names changes. -/
theorem writeLine_tracks {size : Nat} {l : RotatingFileLogger} {fs : Fs} (hl : Tracks size l fs)
    {newPath : String} (hname : l.rename l.path = .ok newPath) (hne : l.path ≠ newPath)
    (line : List UInt8) (now : Int) :
    ∃ l' fs', l.writeLine fs line now = some (l', fs', .ok ()) ∧ l'.path = l.path ∧
      l'.rename = l.rename ∧ Tracks size l' fs' ∧
      (fs'.lookup l.path).map FileData.contents =
        (fs.lookup l.path).map (fun file => rotateAfter size file.contents line) ∧
      ∀ p, p ≠ l.path → p ≠ newPath → fs'.lookup p = fs.lookup p := by
  obtain ⟨file, hfile, hrot⟩ := hl
  let written : FileData := { file with contents := file.contents ++ line }
  have hwritten : (fs.insert l.path written).lookup l.path = some written := AList.lookup_insert _
  rw [RotatingFileLogger.writeLine, write_accepted hfile, Option.bind_some]
  by_cases hsize : size = 0
  · have hstay : anyShouldRotator now (l.rotators.map (Rotator.onWrite line)) = some false := by
      simp [hrot, hsize, anyShouldRotator]
    refine ⟨_, _, flush_of_stay hstay, rfl, rfl, ⟨written, hwritten, by simp [hrot, hsize]⟩,
      by simp [hwritten, hfile, rotateAfter, hsize, written], fun p hp _ => ?_⟩
    exact AList.lookup_insert_ne hp
  have hcount : l.rotators.map (Rotator.onWrite line) =
      [.rotateBySize size written.contents.length] := by
    simp [hrot, hsize, Rotator.onWrite, written]
  by_cases hgrow : size < written.contents.length
  · have hyes : anyShouldRotator now (l.rotators.map (Rotator.onWrite line)) = some true := by
      rw [hcount, anyShouldRotator_rotateBySize, decide_eq_true hgrow]
    have hreset : (l.rotators.map (Rotator.onWrite line)).mapM (Rotator.onRotator now) =
        some [.rotateBySize size 0] := by
      rw [hcount]
      rfl
    refine ⟨_, _, flush_of_rotate hyes hname hne hwritten hreset, rfl, rfl,
      ⟨_, AList.lookup_insert _, by simp [hsize]⟩, ?_, fun p hp hq => ?_⟩
    · simp only [AList.lookup_insert, hfile, Option.map_some, rotateAfter]
      rw [if_pos ⟨Nat.pos_of_ne_zero hsize, hgrow⟩]
    · simp [AList.lookup_insert_ne hp, AList.lookup_insert_ne hq, AList.lookup_erase_ne hp]
  · have hstay : anyShouldRotator now (l.rotators.map (Rotator.onWrite line)) = some false := by
      rw [hcount, anyShouldRotator_rotateBySize, decide_eq_false hgrow]
    refine ⟨_, _, flush_of_stay hstay, rfl, rfl, ⟨written, hwritten, by simp [hcount, hsize]⟩,
      ?_, fun p hp _ => AList.lookup_insert_ne hp⟩
    simp only [AList.lookup_insert, hfile, Option.map_some, rotateAfter]
    rw [if_neg fun h => hgrow h.2]

theorem lookup_openLogFile (fs : Fs) (path : String) (now : Int) :
    ∃ file, (openLogFile fs path now).lookup path = some file ∧
      file.contents = ((fs.lookup path).map FileData.contents).getD [] ∧
      ∀ p, p ≠ path → (openLogFile fs path now).lookup p = fs.lookup p := by
  unfold openLogFile
  cases hfile : fs.lookup path with
  | none => exact ⟨_, AList.lookup_insert _, rfl, fun p hp => by simp [AList.lookup_insert_ne hp]⟩
  | some file => exact ⟨file, by simp [hfile], rfl, fun p _ => by simp⟩

/-- `file_writer` opens a logger that tracks its file: the file already at `path`, or
an empty one, and no other file changes. -/
theorem fileWriter_tracks (path : String) (d : Duration) (size : Nat)
    (rename : String → Except IoError String) (fs : Fs) (now : Int) :
    ∃ w fs', fileWriter path d size rename fs now = .ok (w, fs') ∧ w.inner.path = path ∧
      w.inner.rename = rename ∧ Tracks size w.inner fs' ∧
      (fs'.lookup path).map FileData.contents =
        some (((fs.lookup path).map FileData.contents).getD []) ∧
      ∀ p, p ≠ path → fs'.lookup p = fs.lookup p := by
  obtain ⟨file, hfile, hcontents, hframe⟩ := lookup_openLogFile fs path now
  have htime : (RotateByTime.new d).isEnabled = false := rotateByTime_isEnabled d none
  refine ⟨⟨⟨path, rename, if size = 0 then [] else [.rotateBySize size file.contents.length]⟩⟩,
    openLogFile fs path now, ?_, rfl, rfl, ⟨file, hfile, rfl⟩, by simp [hfile, hcontents], hframe⟩
  have hbuilder : (((RotatingFileLoggerBuilder.builder rename).addPath path).addRotator
      (RotateByTime.new d)).addRotator (RotateBySize.new size) =
      ⟨path, rename, if size = 0 then [] else [RotateBySize.new size]⟩ := by
    have hsz : (RotateBySize.new size).isEnabled = (size != 0) := rfl
    simp only [RotatingFileLoggerBuilder.addRotator, htime, hsz, Bool.false_eq_true, if_false,
      RotatingFileLoggerBuilder.builder, RotatingFileLoggerBuilder.addPath]
    by_cases hsize : size = 0 <;> simp [hsize]
  rw [fileWriter, hbuilder]
  simp only [RotatingFileLoggerBuilder.build, hfile]
  by_cases hsize : size = 0 <;> simp [hsize, RotateBySize.new, Rotator.prepare] <;> rfl

end FileLog
