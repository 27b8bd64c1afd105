import FastJob.FileLog

/-!
# A rotation that fails part-way (`RotatingFileLogger::flush`)

`FileLog` takes the file-system steps of `flush` to succeed. Here each of them
can fail: `File::flush` of the open file, the logger's `rename`, `fs::rename`
and `open_log_file(path)`. `open_log_file` fails with its own message when
`path` has no parent, and otherwise when creating the directory or opening the
file fails. What the environment answers to one call is its `Faults`.

The open `File` is a handle to a file, not to a path. It is named here by the
path its file lives under, `none` once that file has no name: `fs::rename`
moves the file and the handle with it, and `self.file = open_log_file(&self.path)?`
assigns the new handle only when the reopen succeeds. A write lands in the
handle's file, wherever that file now lives.
-/
namespace LogRotation

open Transition
open FileLog (Fs FileData IoError Rotator RotatingFileLogger WriteResult anyShouldRotator
  openLogFile fsRename)

/-- The answers of the environment to the steps of one `flush` that can fail. -/
structure Faults where
  /-- `File::flush` of the open file. -/
  fileFlush : Option IoError
  /-- `fs::rename` of a path with a file, such as a denied permission. -/
  rename : Option IoError
  /-- `create_dir_all` or `OpenOptions::open` in `open_log_file(path)`. -/
  reopen : Option IoError
  deriving DecidableEq, Repr

def noFaults : Faults := ⟨none, none, none⟩

/-- The result of an I/O step that answered `fault`. -/
def ofFault : Option IoError → Except IoError Unit
  | some e => .error e
  | none => .ok ()

/-- Whether `Path::parent` is some: a path that is empty or has only slashes has
no parent. -/
def hasParent (path : String) : Bool := path.toList.any (· != '/')

/-- `open_log_file(path)`, whose directory and open steps answer `fault`. -/
def openLogFileChecked (fault : Option IoError) (fs : Fs) (path : String) (now : Int) :
    Except IoError Fs :=
  if !hasParent path then .error (.other "Unable to get parent directory of log file")
  else match fault with
    | some e => .error e
    | none => .ok (openLogFile fs path now)

/-- `fs::rename(src, dst)`, which answers `fault` when the source is there. -/
def fsRenameChecked (fault : Option IoError) (fs : Fs) (src dst : String) : Except IoError Fs :=
  match fault with
  | some e => .error e
  | none => fsRename fs src dst

/-- The name of a handle's file after `fs::rename(src, dst)`: the file at `src` is
now at `dst`, and the file that was at `dst` has no name. -/
def followRename (src dst : String) : Option String → Option String
  | some file => if file = src then some dst else if file = dst then none else some file
  | none => none

/-- A `RotatingFileLogger` with its open `File`, named by where its file lives. -/
structure OpenLogger where
  logger : RotatingFileLogger
  file : Option String

/-- The logger of `FileLog`, whose `File` is the file at `path`. -/
def ofLogger (logger : RotatingFileLogger) : OpenLogger := ⟨logger, some logger.path⟩

/-- `Write::flush` at the clock `now` under `faults`; `none` is a panic. -/
def OpenLogger.flush (l : OpenLogger) (fs : Fs) (now : Int) (faults : Faults) :
    Option (OpenLogger × Fs × Except IoError Unit) :=
  match anyShouldRotator now l.logger.rotators with
  | none => none
  | some false => some (l, fs, ofFault faults.fileFlush)
  | some true =>
    match faults.fileFlush with
    | some e => some (l, fs, .error e)
    | none =>
      match l.logger.rename l.logger.path with
      | .error e => some (l, fs, .error e)
      | .ok newPath =>
        match fsRenameChecked faults.rename fs l.logger.path newPath with
        | .error e => some (l, fs, .error e)
        | .ok moved =>
          -- the handle moved with its file; `?` returns before it is replaced
          let l := { l with file := followRename l.logger.path newPath l.file }
          match openLogFileChecked faults.reopen moved l.logger.path now with
          | .error e => some (l, moved, .error e)
          | .ok fs =>
            (l.logger.rotators.mapM (Rotator.onRotator now)).map fun rotators =>
              (⟨{ l.logger with rotators }, some l.logger.path⟩, fs, .ok ())

/-- `Write::write`: every rotator is told of all the bytes, then the handle's file
takes what it takes. -/
def OpenLogger.write (l : OpenLogger) (fs : Fs) (bytes : List UInt8) (result : WriteResult) :
    OpenLogger × Fs × Except IoError Nat :=
  let l' := { l with logger := { l.logger with rotators := l.logger.rotators.map (Rotator.onWrite bytes) } }
  match result with
  | .failed e => (l', fs, .error e)
  | .accepted n =>
    match l.file.bind fs.lookup, l.file with
    | some data, some file =>
      (l', fs.insert file { data with contents := data.contents ++ bytes.take n }, .ok n)
    | _, _ => (l', fs, .ok n)

/-! ### The file-system steps -/

@[simp] theorem write_logger (l : OpenLogger) (fs : Fs) (bytes : List UInt8) (result : WriteResult) :
    (l.write fs bytes result).1 =
      { l with logger := { l.logger with rotators := l.logger.rotators.map (Rotator.onWrite bytes) } } := by
  unfold OpenLogger.write
  cases result with
  | failed e => rfl
  | accepted n =>
    dsimp only
    split <;> rfl

@[simp] theorem followRename_src (src dst : String) : followRename src dst (some src) = some dst := by
  simp [followRename]

theorem fsRename_of_checked {fault : Option IoError} {fs moved : Fs} {src dst : String}
    (h : fsRenameChecked fault fs src dst = .ok moved) : fault = none ∧ fsRename fs src dst = .ok moved := by
  cases fault with
  | none => exact ⟨rfl, h⟩
  | some e => cases h

theorem openLogFile_of_checked {fault : Option IoError} {fs fs' : Fs} {path : String} {now : Int}
    (h : openLogFileChecked fault fs path now = .ok fs') :
    hasParent path = true ∧ fault = none ∧ fs' = openLogFile fs path now := by
  unfold openLogFileChecked at h
  split at h
  · cases h
  · next hpath =>
    cases fault with
    | none =>
      cases h
      exact ⟨by simpa using hpath, rfl, rfl⟩
    | some e => cases h

theorem lookup_fsRename_src {fs moved : Fs} {src dst : String} (hne : src ≠ dst)
    (h : fsRename fs src dst = .ok moved) : moved.lookup src = none := by
  unfold fsRename at h
  split at h
  · cases h
  · rw [if_neg hne] at h
    cases h
    rw [AList.lookup_insert_ne hne, AList.lookup_erase]

/-- `fs::rename` fails on a path with no file. -/
theorem fsRename_of_missing {fs : Fs} {src dst : String} (h : fs.lookup src = none) :
    fsRename fs src dst = .error .notFound := by
  simp [fsRename, h]

/-! ### What one flush does -/

/-- Every outcome of `flush`: nothing changes, or the file was renamed and then the
reopen failed, or the rotation completed. -/
theorem flush_cases {l l' : OpenLogger} {fs fs' : Fs} {now : Int} {faults : Faults}
    {r : Except IoError Unit} (h : l.flush fs now faults = some (l', fs', r)) :
    (l' = l ∧ fs' = fs) ∨
    ∃ newPath moved, faults.fileFlush = none ∧ l.logger.rename l.logger.path = .ok newPath ∧
      fsRenameChecked faults.rename fs l.logger.path newPath = .ok moved ∧
      ((∃ e, openLogFileChecked faults.reopen moved l.logger.path now = .error e ∧ r = .error e ∧
          fs' = moved ∧ l' = { l with file := followRename l.logger.path newPath l.file }) ∨
        (∃ rotators, openLogFileChecked faults.reopen moved l.logger.path now = .ok fs' ∧
          l.logger.rotators.mapM (Rotator.onRotator now) = some rotators ∧ r = .ok () ∧
          l' = ⟨{ l.logger with rotators }, some l.logger.path⟩)) := by
  unfold OpenLogger.flush at h
  split at h
  · cases h
  · cases h
    exact .inl ⟨rfl, rfl⟩
  · split at h
    · cases h
      exact .inl ⟨rfl, rfl⟩
    · next hflush =>
      split at h
      · cases h
        exact .inl ⟨rfl, rfl⟩
      · next newPath hname =>
        split at h
        · cases h
          exact .inl ⟨rfl, rfl⟩
        · next moved hmoved =>
          refine .inr ⟨newPath, moved, hflush, hname, hmoved, ?_⟩
          dsimp only at h
          split at h
          · next e hopen =>
            cases h
            exact .inl ⟨e, hopen, rfl, rfl, rfl⟩
          · next fs'' hopen =>
            obtain ⟨rotators, hr, hl⟩ := Option.map_eq_some_iff.mp h
            cases hl
            exact .inr ⟨rotators, hopen, hr, rfl, rfl⟩

/-- What one `flush` does from a logger whose `File` is the file at `path`. It
changes nothing (no rotation asked for, or a failure before `fs::rename`); or it
completes a rotation: the old file moved to the new name, `path` reopened and
held by the logger, every rotator reset; or the reopen fails after the rename,
and `flush` returns an error with the rotators as they were and the logger
holding the renamed file. -/
theorem flush_outcomes {l l' : OpenLogger} {fs fs' : Fs} {now : Int} {faults : Faults}
    {r : Except IoError Unit} (hfile : l.file = some l.logger.path)
    (h : l.flush fs now faults = some (l', fs', r)) :
    (l' = l ∧ fs' = fs) ∨
    ∃ newPath moved, l.logger.rename l.logger.path = .ok newPath ∧
      fsRename fs l.logger.path newPath = .ok moved ∧
      ((r = .ok () ∧ fs' = openLogFile moved l.logger.path now ∧ l'.file = some l.logger.path ∧
          l'.logger.path = l.logger.path ∧
          l.logger.rotators.mapM (Rotator.onRotator now) = some l'.logger.rotators) ∨
        ((∃ e, r = .error e) ∧ fs' = moved ∧ l'.file = some newPath ∧ l'.logger = l.logger)) := by
  rcases flush_cases h with hsame | ⟨newPath, moved, -, hname, hmoved, hrest⟩
  · exact .inl hsame
  · have hrename := (fsRename_of_checked hmoved).2
    refine .inr ⟨newPath, moved, hname, hrename, ?_⟩
    rcases hrest with ⟨e, -, rfl, rfl, rfl⟩ | ⟨rotators, hopen, hr, rfl, rfl⟩
    · -- the reopen failed: the handle followed its file to the new name
      exact .inr ⟨⟨e, rfl⟩, rfl, by simp [hfile], rfl⟩
    · exact .inl ⟨rfl, (openLogFile_of_checked hopen).2.2, rfl, rfl, hr⟩

/-- A logger at `fastjob.log` with one size rotator over its limit. -/
def fullLogger : OpenLogger :=
  ⟨⟨"fastjob.log", FileLog.renameRotated, [.rotateBySize 100 150]⟩, some "fastjob.log"⟩

def fullLogFs : Fs := (∅ : Fs).insert "fastjob.log" ⟨List.replicate 150 7, some 0, some 0⟩

/-- A flush whose reopen of `fastjob.log` is refused. -/
def reopenDenied : Faults := ⟨none, none, some (.other "Permission denied")⟩

/-- The logger after the refused reopen: it holds the renamed file. -/
def strandedLogger : OpenLogger := { fullLogger with file := some "fastjob.log.1" }

def strandedFs : Fs :=
  (fullLogFs.erase "fastjob.log").insert "fastjob.log.1" ⟨List.replicate 150 7, some 0, some 0⟩

/-- The reopen is refused after the rename: `flush` returns an error with the
rotators unchanged, the logger's file is the renamed `fastjob.log.1`, and no file
is at `fastjob.log`. -/
theorem flush_outcomes_on_reopenDenied :
    fullLogger.file = some fullLogger.logger.path ∧
    fullLogger.flush fullLogFs 10 reopenDenied =
      some (strandedLogger, strandedFs, .error (.other "Permission denied")) ∧
    strandedLogger.file = some "fastjob.log.1" ∧ strandedFs.lookup "fastjob.log" = none ∧
    strandedLogger.logger = fullLogger.logger := by
  have hfile : fullLogger.file = some fullLogger.logger.path := rfl
  have hflush : fullLogger.flush fullLogFs 10 reopenDenied =
      some (strandedLogger, strandedFs, .error (.other "Permission denied")) := rfl
  rcases flush_outcomes hfile hflush with
    ⟨hsame, -⟩ | ⟨newPath, moved, hname, hmoved, ⟨hok, -⟩ | ⟨-, rfl, hnew, hlogger⟩⟩
  · have := congrArg OpenLogger.file hsame
    simp [strandedLogger, fullLogger] at this
  · cases hok
  · have hpath : newPath = "fastjob.log.1" := by
      simp only [fullLogger, FileLog.renameRotated, Except.ok.injEq] at hname
      rw [← hname]
      rfl
    subst hpath
    exact ⟨hfile, hflush, hnew, lookup_fsRename_src (by decide) hmoved, hlogger⟩

/-! ### A stranded logger

After the reopen fails, the logger holds its file under the new name and no file
is at `path`. Every later rotation then fails at `fs::rename` with `NotFound`, and
every write goes to the renamed file: the logger never writes to `path` again. -/

/-- The logger holds its file under `held`, another name than `path`, and no file
is at `path`. -/
def Stranded (held : String) (l : OpenLogger) (fs : Fs) : Prop :=
  l.file = some held ∧ held ≠ l.logger.path ∧ fs.lookup l.logger.path = none

theorem flush_of_stranded {l l' : OpenLogger} {fs fs' : Fs} {now : Int} {faults : Faults}
    {r : Except IoError Unit} {held : String} (hs : Stranded held l fs)
    (h : l.flush fs now faults = some (l', fs', r)) : l' = l ∧ fs' = fs := by
  rcases flush_cases h with hsame | ⟨newPath, moved, -, -, hmoved, -⟩
  · exact hsame
  · have hrename := (fsRename_of_checked hmoved).2
    rw [fsRename_of_missing hs.2.2] at hrename
    cases hrename

theorem flush_error_of_stranded {l : OpenLogger} {fs : Fs} {now : Int} {held : String}
    (faults : Faults) (hs : Stranded held l fs)
    (hrotate : anyShouldRotator now l.logger.rotators = some true) :
    ∃ e, l.flush fs now faults = some (l, fs, .error e) := by
  unfold OpenLogger.flush
  rw [hrotate]
  cases faults.fileFlush with
  | some e => exact ⟨e, rfl⟩
  | none =>
    cases hname : l.logger.rename l.logger.path with
    | error e => exact ⟨e, rfl⟩
    | ok newPath =>
      cases hfault : faults.rename with
      | some e => exact ⟨e, by simp [fsRenameChecked]⟩
      | none => exact ⟨.notFound, by simp [fsRenameChecked, fsRename_of_missing hs.2.2]⟩

theorem write_of_stranded {l : OpenLogger} {fs : Fs} {held : String} {data : FileData}
    (bytes : List UInt8) (n : Nat) (hs : Stranded held l fs) (hheld : fs.lookup held = some data) :
    (l.write fs bytes (.accepted n)).2.1 =
      fs.insert held { data with contents := data.contents ++ bytes.take n } := by
  simp [OpenLogger.write, hs.1, hheld]

theorem stranded_write {l : OpenLogger} {fs : Fs} {held : String} {data : FileData}
    (bytes : List UInt8) (result : WriteResult) (hs : Stranded held l fs)
    (hheld : fs.lookup held = some data) :
    Stranded held (l.write fs bytes result).1 (l.write fs bytes result).2.1 ∧
      ((l.write fs bytes result).2.1.lookup held).isSome := by
  cases result with
  | failed e => exact ⟨by simpa [Stranded, OpenLogger.write] using hs, by simp [OpenLogger.write, hheld]⟩
  | accepted n =>
    rw [write_of_stranded bytes n hs hheld, write_logger]
    obtain ⟨hfile, hne, hpath⟩ := hs
    refine ⟨⟨hfile, hne, ?_⟩, by simp⟩
    rw [AList.lookup_insert_ne (Ne.symm hne)]
    exact hpath

/-- The logger and the file system. -/
structure Sys where
  logger : OpenLogger
  fs : Fs

/-- Calls on the logger, each with what its environment answers. -/
inductive Label where
  /-- `write(bytes)`, which the file answers with `result`. -/
  | write (bytes : List UInt8) (result : WriteResult)
  /-- `flush()` at the clock `now`, whose fallible steps answer `faults`. -/
  | flush (now : Int) (faults : Faults)

/-- One call; `none` when it panics or its answer is not possible. -/
def next (s : Sys) : Label → Option Sys
  | .write bytes result =>
    if result.fits bytes then
      let (logger, fs, _) := s.logger.write s.fs bytes result
      some ⟨logger, fs⟩
    else none
  | .flush now faults => (s.logger.flush s.fs now faults).map fun (logger, fs, _) => ⟨logger, fs⟩

def Step (s : Sys) (l : Label) (t : Sys) : Prop := next s l = some t

theorem path_next {s t : Sys} {a : Label} (h : next s a = some t) :
    t.logger.logger.path = s.logger.logger.path := by
  cases a with
  | write bytes result =>
    simp only [next] at h
    split at h
    · cases h
      simp
    · cases h
  | flush now faults =>
    simp only [next, Option.map_eq_some_iff] at h
    obtain ⟨⟨l', fs', r⟩, hflush, rfl⟩ := h
    rcases flush_cases hflush with ⟨rfl, -⟩ | ⟨-, -, -, -, -, ⟨-, -, -, -, rfl⟩ | ⟨-, -, -, -, rfl⟩⟩ <;> rfl

theorem held_next {s t : Sys} {a : Label} {held : String} {data : FileData}
    (hs : Stranded held s.logger s.fs) (hheld : s.fs.lookup held = some data)
    (h : next s a = some t) : Stranded held t.logger t.fs ∧ (t.fs.lookup held).isSome := by
  have hpath := path_next h
  cases a with
  | write bytes result =>
    simp only [next] at h
    split at h
    · cases h
      exact stranded_write bytes result hs hheld
    · cases h
  | flush now faults =>
    simp only [next, Option.map_eq_some_iff] at h
    obtain ⟨⟨l', fs', r⟩, hflush, rfl⟩ := h
    obtain ⟨rfl, rfl⟩ := flush_of_stranded hs hflush
    exact ⟨hs, by simp [hheld]⟩

/-- Once stranded, always stranded: along every run of writes and flushes, under
any faults, no file is at `path` again, the logger holds the same file, and a
flush that asks for a rotation fails and changes nothing. -/
theorem stranded_run {s t : Sys} {ls : List Label} {held : String}
    (hs : Stranded held s.logger s.fs) (hheld : (s.fs.lookup held).isSome)
    (h : Run Step s ls t) :
    Stranded held t.logger t.fs ∧ t.logger.logger.path = s.logger.logger.path ∧
      ∀ now faults, anyShouldRotator now t.logger.logger.rotators = some true →
        ∃ e, t.logger.flush t.fs now faults = some (t.logger, t.fs, .error e) := by
  have hinv := h.invariant
    (fun u => (Stranded held u.logger u.fs ∧ (u.fs.lookup held).isSome) ∧
      u.logger.logger.path = s.logger.logger.path)
    (fun u a v ⟨⟨hu, hu'⟩, hp⟩ huv => by
      obtain ⟨data, hdata⟩ := Option.isSome_iff_exists.mp hu'
      exact ⟨held_next hu hdata huv, (path_next huv).trans hp⟩)
    ⟨⟨hs, hheld⟩, rfl⟩
  exact ⟨hinv.1.1, hinv.2, fun now faults hrotate => flush_error_of_stranded faults hinv.1.1 hrotate⟩

/-! ### Refinement of `FileLog` -/

/-- With no faults and a path with a parent, `flush` is the flush of `FileLog`. -/
theorem flush_refines (logger : RotatingFileLogger) (fs : Fs) (now : Int)
    (hpath : hasParent logger.path = true) :
    (ofLogger logger).flush fs now noFaults =
      (logger.flush fs now).map fun (logger', fs', r) => (ofLogger logger', fs', r) := by
  unfold OpenLogger.flush RotatingFileLogger.flush
  simp only [ofLogger, noFaults, ofFault, fsRenameChecked, openLogFileChecked, hpath]
  cases hrot : anyShouldRotator now logger.rotators with
  | none => rfl
  | some rotate =>
    cases rotate with
    | false => rfl
    | true =>
      cases hname : logger.rename logger.path with
      | error e => rfl
      | ok newPath =>
        dsimp only
        cases hmoved : fsRename fs logger.path newPath with
        | error e => rfl
        | ok moved => simp [Option.map_map, Function.comp_def]

theorem write_refines {logger logger' : RotatingFileLogger} {fs fs' : Fs} {bytes : List UInt8}
    {result : WriteResult} {r : Except IoError Nat}
    (h : logger.write fs bytes result = some (logger', fs', r)) :
    (ofLogger logger).write fs bytes result = (ofLogger logger', fs', r) := by
  unfold RotatingFileLogger.write at h
  split at h
  · cases h
  · next file hfile =>
    cases result with
    | accepted n =>
      cases h
      simp [OpenLogger.write, ofLogger, hfile]
    | failed e =>
      cases h
      rfl

def liftSys (s : FileLog.Sys) : Sys := ⟨ofLogger s.logger, s.fs⟩

def liftLabel : FileLog.Label → Label
  | .write bytes result => .write bytes result
  | .flush now _ => .flush now noFaults

theorem step_refines {s t : FileLog.Sys} {a : FileLog.Label}
    (hpath : hasParent s.logger.path = true) (h : FileLog.Step s a t) :
    Step (liftSys s) (liftLabel a) (liftSys t) := by
  cases a with
  | write bytes result =>
    simp only [FileLog.Step, FileLog.next] at h
    split at h
    · next hfits =>
      obtain ⟨⟨logger', fs', r⟩, hw, rfl⟩ := Option.map_eq_some_iff.mp h
      simp [Step, next, liftSys, liftLabel, hfits, write_refines hw]
    · cases h
  | flush now rotate =>
    simp only [FileLog.Step, FileLog.next] at h
    split at h
    · obtain ⟨⟨logger', fs', r⟩, hf, rfl⟩ := Option.map_eq_some_iff.mp h
      simp [Step, next, liftSys, liftLabel, flush_refines _ _ _ hpath, hf]
    · cases h

/-- Every run of `FileLog` is a run of the fault model in which nothing fails. -/
theorem run_refines {s t : FileLog.Sys} {ls : List FileLog.Label}
    (hpath : hasParent s.logger.path = true) (h : Run FileLog.Step s ls t) :
    Run Step (liftSys s) (ls.map liftLabel) (liftSys t) := by
  induction h with
  | nil => exact .nil _
  | @cons s t u a as hst _ ih =>
    have hpath' : hasParent t.logger.path = true := by
      cases a with
      | write bytes result => rw [(FileLog.next_write hst).1]; exact hpath
      | flush now rotate =>
        cases rotate
        · rw [FileLog.next_flush_false hst]; exact hpath
        · rw [(FileLog.next_flush_true hst).1]; exact hpath
    exact .cons (step_refines hpath hst) (ih hpath')

end LogRotation
