import FastJob.FileLog
import FastJob.Formatter
import FastJob.LogDrain
import FastJob.Transition

/-!
# The text log line of `FastJobFormat` and the files of `initial_logger`

`FastJobFormat::log` writes a record it accepts as one line,

    [time] [LEVEL] [file:line] [msg] [key=value] ... [key=value]

and a line break. `write_log_header` writes the time as chrono formats
`TIMESTAMP_FORMAT`, the level as `get_unified_log_level` names it, and the name of
the record's source file through `write_file_name` followed by the line number,
or `[<unknown>]` when `Path::file_name` finds no name in the path.
`write_log_msg` writes the message and the `Serializer` each field as
`emit_arguments` does, both through `write_escaped_str`, whose
`serde_json::to_writer` is the encoder `toWriter`, known by its contract. The time
is the text chrono gives, a parameter of each record here; the fields are the
key-value pairs the serializer is handed, the record's and then the logger's, each
with the text its value displays as (`emit_none` displays `None`).

`initial_logger` opens the log file and the slow-log file with `file_writer`, whose
`RotatingFileLogger` rotates them by size. With the `Text` format the logger writes
the records its gates pass to the log file (the terminal when none is configured)
or, those tagged `slow_log`, to the slow-log file, flushing after each; a failed
flush is reported on the terminal by `LogAndFuse`.

The reading side (`readLine`, `readLines`) is a specification: how a reader of
these files splits a line into its parts.
-/
namespace TextFormat

open JsonString Formatter LogDrain FileLog Transition Overflow

variable (toWriter : Encoder)

/-! ### Writing a line -/

/-- `get_unified_log_level`. -/
def getUnifiedLogLevel : Level → String
  | .critical => "FATAL"
  | .error => "ERROR"
  | .warning => "WARN"
  | .info => "INFO"
  | .debug => "DEBUG"
  | .trace => "TRACE"

/-- `Path::file_name` of a Unix path: its last component, unless that is `..` or
there is none; empty and `.` components are not components. -/
def fileName (path : String) : Option String :=
  match ((path.toList.splitOn '/').filter fun c => c != [] && c != ['.']).getLast? with
  | some c => if c = ['.', '.'] then none else some (String.ofList c)
  | none => none

example : fileName "src/components/log/src/lib.rs" = some "lib.rs" ∧
    fileName "foo.txt/." = some "foo.txt" ∧ fileName "foo.txt/.." = none ∧
    fileName "/" = none := by
  decide

/-- `{}` of a `u32`: its decimal digits. -/
def decimal (n : Nat) : List UInt8 := (Nat.toDigits 10 n).map Char.toUInt8

theorem toUInt8_toNat_of_isDigit {c : Char} (h : c.isDigit = true) : c.toUInt8.toNat = c.toNat := by
  rw [Char.isDigit_iff_toNat] at h
  have hlt : c.toNat < 256 := by simp at h; omega
  rw [← Char.toUInt8_val, UInt32.toNat_toUInt8, Char.toNat_val]
  exact Nat.mod_eq_of_lt hlt

theorem isDigit_of_mem_decimal {n : Nat} {b : UInt8} (hb : b ∈ decimal n) :
    0x30 ≤ b ∧ b ≤ 0x39 := by
  obtain ⟨c, hc, rfl⟩ := List.mem_map.mp hb
  have hdigit := Nat.isDigit_of_mem_toDigits (by decide) (by decide) hc
  have hnat := toUInt8_toNat_of_isDigit hdigit
  rw [Char.isDigit_iff_toNat] at hdigit
  simp only [UInt8.le_iff_toNat_le, hnat]
  exact hdigit

/-- `write_log_header`: `[time] [LEVEL] [file:line]`, or `[<unknown>]` in place of the
file; `none` is a panic of `write_file_name`. -/
def writeLogHeader (timestamp : List UInt8) (level : Level) (file : String) (line : Nat) :
    Option (List UInt8) :=
  let head := 0x5B :: timestamp ++ [0x5D, 0x20, 0x5B] ++ asBytes (getUnifiedLogLevel level) ++
    [0x5D, 0x20]
  match fileName file with
  | some path =>
    (writeFileName path).map fun name => head ++ 0x5B :: name ++ 0x3A :: decimal line ++ [0x5D]
  | none => some (head ++ asBytes "[<unknown>]")

/-- `write_log_msg`: ` [msg]`, the message escaped. -/
def writeLogMsg (msg : String) : List UInt8 :=
  [0x20, 0x5B] ++ writeEscapedStr toWriter msg ++ [0x5D]

/-- `write_log_fields`: each pair as `Serializer::emit_arguments` writes it. -/
def writeLogFields (fields : List (String × String)) : List UInt8 :=
  fields.flatMap fun (key, value) => emitArguments toWriter key value

/-- A record as `FastJobFormat` reads it: what the drains read of it, the source file
and line of the logging call, the message, and the fields the serializer is handed,
each value as the text it displays as. -/
structure TextRecord where
  record : Record
  file : String
  line : Nat
  msg : String
  fields : List (String × String)
  deriving DecidableEq, Repr

/-- A record logged: the clock at the call (`SystemTime::now`, in nanoseconds), the text
chrono gives for the time, and the record. -/
structure Event where
  now : Int
  timestamp : List UInt8
  record : TextRecord
  deriving DecidableEq, Repr

/-- The line `FastJobFormat::log` writes for a record at the time `timestamp`: header,
message, fields, and the line break of `writeln!`. -/
def formatLine (timestamp : List UInt8) (r : TextRecord) : Option (List UInt8) :=
  (writeLogHeader timestamp r.record.level r.file r.line).map fun header =>
    header ++ writeLogMsg toWriter r.msg ++ writeLogFields toWriter r.fields ++ [0x0A]

/-- `FastJobFormat::log` while `LOG_LEVEL` is `logLevel`: the line of a record at least
that severe, which is written and flushed, and nothing, not even a flush, for
another; `none` is a panic. -/
def fastJobFormatLog (logLevel : Nat) (timestamp : List UInt8) (r : TextRecord) :
    Option (Option (List UInt8)) :=
  if r.record.level.asUsize ≤ logLevel then (formatLine toWriter timestamp r).map some
  else some none

/-! ### Reading a line back -/

/-- What a reader takes from a line: the time, the level, the file name and line
number as written (`none` for `[<unknown>]`), the message and the fields. -/
structure Entry where
  timestamp : List UInt8
  level : Level
  source : Option (List UInt8 × Nat)
  msg : String
  fields : List (String × String)
  deriving DecidableEq, Repr

/-- The level a unified level name stands for. -/
def levelOfUnified (name : List UInt8) : Option Level :=
  [Level.critical, .error, .warning, .info, .debug, .trace].find? fun l =>
    asBytes (getUnifiedLogLevel l) == name

/-- A decimal number: one digit or more. -/
def readDecimal (digits : List UInt8) : Option Nat :=
  if digits ≠ [] ∧ ∀ b ∈ digits, 0x30 ≤ b ∧ b ≤ 0x39 then
    some (digits.foldl (fun n b => 10 * n + (b.toNat - 0x30)) 0)
  else none

/-- The bytes before the first `]`, and what follows that `]`. -/
def readBracket (bytes : List UInt8) : Option (List UInt8 × List UInt8) :=
  (expect [0x5D] (bytes.dropWhile (· != 0x5D))).map fun rest => (bytes.takeWhile (· != 0x5D), rest)

/-- The part of a header between the brackets of its source: `<unknown>`, or a file
name, a `:` and a line number. -/
def readSource (part : List UInt8) : Option (Option (List UInt8 × Nat)) :=
  if part = asBytes "<unknown>" then some none
  else do
    let digits ← expect [0x3A] (part.dropWhile (· != 0x3A))
    let line ← readDecimal digits
    pure (some (part.takeWhile (· != 0x3A), line))

/-- The fields of a line up to its line break, for at most `fuel` fields. -/
def readFields : Nat → List UInt8 → Option (List (String × String) × List UInt8)
  | 0, _ => none
  | fuel + 1, bytes =>
    match expect [0x0A] bytes with
    | some rest => some ([], rest)
    | none => do
      let (field, rest) ← readField bytes
      let (fields, rest) ← readFields fuel rest
      pure (field :: fields, rest)

/-- The header of a line: its time, level and source, and what follows it. -/
def readHeader (bytes : List UInt8) :
    Option ((List UInt8 × Level × Option (List UInt8 × Nat)) × List UInt8) := do
  let rest ← expect [0x5B] bytes
  let (timestamp, rest) ← readBracket rest
  let rest ← expect [0x20, 0x5B] rest
  let (name, rest) ← readBracket rest
  let level ← levelOfUnified name
  let rest ← expect [0x20, 0x5B] rest
  let (part, rest) ← readBracket rest
  let source ← readSource part
  pure ((timestamp, level, source), rest)

/-- The message after a header, ` [msg]`, and what follows it. -/
def readMsg (bytes : List UInt8) : Option (String × List UInt8) := do
  let rest ← expect [0x20, 0x5B] bytes
  let (msg, rest) ← readEscaped 0x5D rest
  let rest ← expect [0x5D] rest
  let msg ← decodeBytes msg
  pure (msg, rest)

/-- A reader's split of a line: its entry, and what follows its line break. -/
def readLine (bytes : List UInt8) : Option (Entry × List UInt8) := do
  let ((timestamp, level, source), rest) ← readHeader bytes
  let (msg, rest) ← readMsg rest
  let (fields, rest) ← readFields rest.length rest
  pure (⟨timestamp, level, source, msg, fields⟩, rest)

/-- The lines of a file, for at most `fuel` lines. -/
def readLinesFuel : Nat → List UInt8 → Option (List Entry)
  | _, [] => some []
  | 0, _ :: _ => none
  | fuel + 1, b :: bytes => do
    let (entry, rest) ← readLine (b :: bytes)
    let entries ← readLinesFuel fuel rest
    pure (entry :: entries)

/-- The lines of a file; each line takes a byte at least, so the length of the file is
fuel enough. -/
def readLines (bytes : List UInt8) : Option (List Entry) := readLinesFuel bytes.length bytes

/-! ### A written line reads back -/

/-- What the header writes between the brackets of the source. -/
def sourceText (file : String) (line : Nat) : List UInt8 :=
  match fileName file with
  | some path => (asBytes path).filter isFileNameByte ++ 0x3A :: decimal line
  | none => asBytes "<unknown>"

/-- What a line says of its source: the file name as `write_file_name` keeps it and the
line number, or nothing for a path with no file name. -/
def source (file : String) (line : Nat) : Option (List UInt8 × Nat) :=
  (fileName file).map fun path => ((asBytes path).filter isFileNameByte, line)

/-- The bytes `write_log_header` writes. -/
def headerText (timestamp : List UInt8) (level : Level) (file : String) (line : Nat) :
    List UInt8 :=
  0x5B :: timestamp ++ [0x5D, 0x20, 0x5B] ++ asBytes (getUnifiedLogLevel level) ++
    [0x5D, 0x20, 0x5B] ++ sourceText file line ++ [0x5D]

/-- The bytes `formatLine` writes before the line break. -/
def lineBody (timestamp : List UInt8) (r : TextRecord) : List UInt8 :=
  headerText timestamp r.record.level r.file r.line ++ writeLogMsg toWriter r.msg ++
    writeLogFields toWriter r.fields

/-- The line a text drain writes for an event. -/
def Event.line (e : Event) : List UInt8 := lineBody toWriter e.timestamp e.record ++ [0x0A]

/-- What a line written for `r` at `timestamp` says of it. -/
def TextRecord.entry (r : TextRecord) (timestamp : List UInt8) : Entry :=
  ⟨timestamp, r.record.level, source r.file r.line, r.msg, r.fields⟩

/-- What the line of an event says of it. -/
def Event.entry (e : Event) : Entry := e.record.entry e.timestamp

theorem expect_pair (a b : UInt8) (l : List UInt8) : expect [a, b] (a :: b :: l) = some l := by
  simp [expect]

theorem readBracket_append {part : List UInt8} (h : 0x5D ∉ part) (rest : List UInt8) :
    readBracket (part ++ 0x5D :: rest) = some (part, rest) := by
  have hne : ∀ b ∈ part, b ≠ (0x5D : UInt8) := fun b hb hbs => h (hbs ▸ hb)
  obtain ⟨ht, hd⟩ := takeWhile_dropWhile_stop rest hne
  rw [readBracket, hd, ht, expect_cons, Option.map_some]

theorem levelOfUnified_getUnifiedLogLevel (level : Level) :
    levelOfUnified (asBytes (getUnifiedLogLevel level)) = some level := by
  cases level <;> decide

theorem bracket_not_mem_getUnifiedLogLevel (level : Level) :
    (0x5D : UInt8) ∉ asBytes (getUnifiedLogLevel level) := by
  cases level <;> decide

theorem readDecimal_decimal (n : Nat) : readDecimal (decimal n) = some n := by
  have hne : decimal n ≠ [] := by simp [decimal, Nat.toDigits_ne_nil]
  rw [readDecimal, if_pos ⟨hne, fun b hb => isDigit_of_mem_decimal hb⟩, decimal, List.foldl_map]
  -- each digit byte has the value of its character
  have hfold : (Nat.toDigits 10 n).foldl (fun acc c => 10 * acc + (c.toUInt8.toNat - 0x30)) 0 =
      Nat.ofDigitChars 10 (Nat.toDigits 10 n) 0 := by
    rw [Nat.ofDigitChars_eq_foldl]
    apply List.foldl_ext
    intro acc c hc
    rw [toUInt8_toNat_of_isDigit (Nat.isDigit_of_mem_toDigits (by decide) (by decide) hc)]
    rfl
  rw [hfold, Nat.ofDigitChars_ten_toDigits]

/-- A byte `write_file_name` keeps is no delimiter of the line, and no control byte. -/
theorem isFileNameByte_delimiters :
    ∀ b : UInt8, isFileNameByte b = true → b ≠ 0x3A ∧ b ≠ 0x5D ∧ 0x20 ≤ b.toNat := by
  decide +kernel

theorem readSource_sourceText (file : String) (line : Nat) :
    readSource (sourceText file line) = some (source file line) := by
  unfold sourceText source
  cases fileName file with
  | none => simp [readSource]
  | some path =>
    have hname : ∀ b ∈ (asBytes path).filter isFileNameByte, b ≠ 0x3A :=
      fun b hb => (isFileNameByte_delimiters b (List.mem_filter.mp hb).2).1
    obtain ⟨ht, hd⟩ := takeWhile_dropWhile_stop (decimal line) hname
    -- a file name and its line hold a `:`, which `<unknown>` does not
    have hunknown : (asBytes path).filter isFileNameByte ++ 0x3A :: decimal line ≠
        asBytes "<unknown>" := by
      intro h
      have hmem : (0x3A : UInt8) ∈ asBytes "<unknown>" := h ▸ List.mem_append_right _ List.mem_cons_self
      exact absurd hmem (by decide)
    simp only [readSource, if_neg hunknown, hd, ht, expect_cons, readDecimal_decimal,
      Option.bind_eq_bind, Option.bind_some, Option.pure_def, Option.map_some]

theorem bracket_not_mem_sourceText (file : String) (line : Nat) : 0x5D ∉ sourceText file line := by
  unfold sourceText
  cases fileName file with
  | none => exact (by decide : (0x5D : UInt8) ∉ asBytes "<unknown>")
  | some path =>
    intro h
    rcases List.mem_append.mp h with h | h
    · exact (isFileNameByte_delimiters _ (List.mem_filter.mp h).2).2.1 rfl
    · rcases List.mem_cons.mp h with h | h
      · exact absurd h (by decide)
      · exact absurd (isDigit_of_mem_decimal h).2 (by decide)

theorem writeLogHeader_eq (timestamp : List UInt8) (level : Level) (file : String) (line : Nat) :
    writeLogHeader timestamp level file line = some (headerText timestamp level file line) := by
  unfold writeLogHeader headerText sourceText
  cases fileName file with
  | none =>
    have hunknown : asBytes "[<unknown>]" = [0x5B] ++ asBytes "<unknown>" ++ [0x5D] := by decide
    simp [hunknown]
  | some path =>
    -- `write_file_name` keeps the bytes of the name it allows
    have hname : writeFileName path = some ((asBytes path).filter isFileNameByte) :=
      writeFileNameFrom_eq (isChain_asBytes path) _ [] 0 rfl le_rfl (by simp)
    simp [hname]

theorem formatLine_eq (timestamp : List UInt8) (r : TextRecord) :
    formatLine toWriter timestamp r = some (lineBody toWriter timestamp r ++ [0x0A]) := by
  simp [formatLine, writeLogHeader_eq, lineBody]

theorem readFields_writeLogFields (fields : List (String × String)) (rest : List UInt8)
    {fuel : Nat} (hfuel : fields.length < fuel) :
    readFields fuel (writeLogFields toWriter fields ++ 0x0A :: rest) = some (fields, rest) := by
  induction fields generalizing fuel with
  | nil =>
    obtain ⟨fuel, rfl⟩ := Nat.exists_eq_add_one_of_ne_zero (Nat.ne_zero_of_lt hfuel)
    simp [readFields, writeLogFields, expect_cons]
  | cons field fields ih =>
    obtain ⟨fuel, rfl⟩ := Nat.exists_eq_add_one_of_ne_zero (Nat.ne_zero_of_lt hfuel)
    have hnot : expect [0x0A]
        (emitArguments toWriter field.1 field.2 ++ (writeLogFields toWriter fields ++ 0x0A :: rest)) =
        none := by
      simp [emitArguments, expect]
    simp only [List.length_cons, Nat.add_lt_add_iff_right] at hfuel
    simp only [readFields, writeLogFields, List.flatMap_cons, List.append_assoc] at hnot ⊢
    rw [hnot]
    simp only [readField_emitArguments, Option.bind_eq_bind, Option.bind_some]
    simp only [writeLogFields] at ih
    rw [ih hfuel]
    rfl

theorem readHeader_headerText {timestamp : List UInt8} (hts : 0x5D ∉ timestamp) (level : Level)
    (file : String) (line : Nat) (rest : List UInt8) :
    readHeader (headerText timestamp level file line ++ rest) =
      some ((timestamp, level, source file line), rest) := by
  simp only [headerText, List.append_assoc, List.cons_append, List.nil_append]
  simp only [readHeader, expect_cons, readBracket_append hts, expect_pair, Option.bind_eq_bind,
    Option.bind_some, readBracket_append (bracket_not_mem_getUnifiedLogLevel _),
    levelOfUnified_getUnifiedLogLevel, readBracket_append (bracket_not_mem_sourceText _ _),
    readSource_sourceText, Option.pure_def]

theorem readMsg_writeLogMsg (msg : String) (rest : List UInt8) :
    readMsg (writeLogMsg toWriter msg ++ rest) = some (msg, rest) := by
  simp only [writeLogMsg, List.append_assoc, List.cons_append, List.nil_append]
  simp only [readMsg, expect_pair, Option.bind_eq_bind, Option.bind_some,
    readEscaped_writeEscapedStr toWriter (.inr rfl), expect_cons, decodeBytes_asBytes,
    Option.pure_def]

theorem readLine_lineBody {timestamp : List UInt8} (hts : 0x5D ∉ timestamp) (r : TextRecord)
    (rest : List UInt8) :
    readLine (lineBody toWriter timestamp r ++ 0x0A :: rest) = some (r.entry timestamp, rest) := by
  have hfuel : r.fields.length ≤ (writeLogFields toWriter r.fields).length :=
    length_le_length_flatMap fun field _ => by simp [emitArguments]
  simp only [lineBody, List.append_assoc]
  simp only [readLine, readHeader_headerText hts, readMsg_writeLogMsg, Option.bind_eq_bind,
    Option.bind_some]
  rw [readFields_writeLogFields toWriter _ _ (by simp; omega)]
  rfl

theorem readLinesFuel_flatMap {lines : List (List UInt8 × Entry)}
    (hlines : ∀ p ∈ lines, p.1 ≠ [] ∧ ∀ rest, readLine (p.1 ++ rest) = some (p.2, rest))
    {fuel : Nat} (hfuel : lines.length ≤ fuel) :
    readLinesFuel fuel (lines.flatMap Prod.fst) = some (lines.map Prod.snd) := by
  induction lines generalizing fuel with
  | nil => cases fuel <;> rfl
  | cons p lines ih =>
    obtain ⟨hne, hread⟩ := hlines p List.mem_cons_self
    obtain ⟨fuel, rfl⟩ :=
      Nat.exists_eq_add_one_of_ne_zero (Nat.ne_zero_of_lt (Nat.lt_of_succ_le hfuel))
    obtain ⟨b, bytes, hp⟩ := List.exists_cons_of_ne_nil hne
    have hrest := ih (fun q hq => hlines q (List.mem_cons_of_mem _ hq)) (by simpa using hfuel)
    rw [List.flatMap_cons, hp, List.cons_append, readLinesFuel, ← List.cons_append, ← hp, hread]
    simp [hrest]

/-- The lines written for events, each with no `]` in its time, read back as the
events' entries. -/
theorem readLines_lines {events : List Event} (hts : ∀ e ∈ events, 0x5D ∉ e.timestamp) :
    readLines (events.flatMap (Event.line toWriter)) = some (events.map Event.entry) := by
  let lines := events.map fun e => (e.line toWriter, e.entry)
  have hlines : ∀ p ∈ lines, p.1 ≠ [] ∧ ∀ rest, readLine (p.1 ++ rest) = some (p.2, rest) := by
    intro p hp
    obtain ⟨e, he, rfl⟩ := List.mem_map.mp hp
    refine ⟨by simp [Event.line], fun rest => ?_⟩
    rw [Event.line, List.append_assoc, List.singleton_append]
    exact readLine_lineBody toWriter (hts e he) e.record rest
  have hflat : events.flatMap (Event.line toWriter) = lines.flatMap Prod.fst := by
    simp [lines, List.flatMap_map]
  rw [readLines, hflat, readLinesFuel_flatMap hlines
    (length_le_length_flatMap fun p hp => (hlines p hp).1)]
  simp [lines]

/-! ### The writers of `initial_logger` -/

/-- The drains of `initial_logger`: the log file's (the terminal's when none is
configured) and the slow-log file's. -/
inductive Sink where
  | normal
  | slow
  deriving DecidableEq, Repr

/-- The drain a record reaches and its format: `LogDispatcher::log` sends a record whose
tag starts with `slow_log` to the slow-log drain when there is one; a single format
drain takes every record. -/
def dispatch (drain : Drain) (record : Record) : Sink × Format :=
  match drain with
  | .format f => (.normal, f)
  | .dispatcher normal slow =>
    match slow with
    | some s => if record.tag.startsWith "slow_log" then (.slow, s) else (.normal, normal)
    | none => (.normal, normal)

/-- What the drain of format `f` does with a record: `FastJobFormat::log` for
`text_format`; `json_format` writes and flushes the line `jsonLine` gives, slog_json's
layout, which is left as a parameter. -/
def drainLine (jsonLine : List UInt8 → TextRecord → List UInt8) (logLevel : Nat)
    (timestamp : List UInt8) (r : TextRecord) : Format → Option (Option (List UInt8))
  | .text => fastJobFormatLog toWriter logLevel timestamp r
  | .json => some (some (jsonLine timestamp r))

/-- Whether a drain is a `LogDispatcher`, whose `log` prints the record's tag with
`println!` before it passes the record on. -/
def printsTag : Drain → Bool
  | .format _ => false
  | .dispatcher _ _ => true

/-- A writer `initial_logger` hands a drain: stderr (`term_writer`), or the rotating log
file `file_writer` opens. -/
inductive Writer where
  | term
  | file (w : BufWriter RotatingFileLogger)

/-- What a logger writes to: the writer of the log file's drain and that of the
slow-log drain when there is one, the file system, stderr and stdout. -/
structure Output where
  normal : Writer
  slow : Option Writer
  fs : Fs
  stderr : List UInt8
  stdout : List UInt8

def Output.writer (out : Output) : Sink → Option Writer
  | .normal => some out.normal
  | .slow => out.slow

def Output.setWriter (out : Output) : Sink → Writer → Output
  | .normal, w => { out with normal := w }
  | .slow, w => { out with slow := some w }

def Output.print (out : Output) (bytes : List UInt8) : Output :=
  { out with stdout := out.stdout ++ bytes ++ [0x0A] }

/-- A drain's line written to its writer and flushed at the clock `now`: stderr takes it
at once, a log file through its `RotatingFileLogger`. The answer carries the result of
the flush; `none` is a panic, or a drain with no writer, which `LogDispatcher` never
chooses. -/
def Output.emit (out : Output) (sink : Sink) (line : List UInt8) (now : Int) :
    Option (Output × Except IoError Unit) :=
  match out.writer sink with
  | none => none
  | some .term => some ({ out with stderr := out.stderr ++ line }, .ok ())
  | some (.file w) =>
    (w.inner.writeLine out.fs line now).map fun (logger, fs, result) =>
      ({ out.setWriter sink (.file ⟨logger⟩) with fs }, result)

/-- The record `slog_crit!` logs on the terminal when a drain fails:
`logger encountered error`, with the error as `display` shows it under `err`. -/
def encounteredError (display : IoError → String) (e : IoError) : TextRecord :=
  ⟨⟨.critical, "fastjob_components_log", "", []⟩, "components/log/src/lib.rs", 316,
    "logger encountered error", [("err", display e)]⟩

/-- `LogAndFuse` when its drain fails with `e`: `text_format(term_writer())` logs the
record on stderr, then the record `encounteredError`; the result of both is ignored. -/
def Output.fuse (display : IoError → String) (logLevel : Nat) (timestamp : List UInt8)
    (r : TextRecord) (e : IoError) (out : Output) : Option Output := do
  let first ← fastJobFormatLog toWriter logLevel timestamp r
  let second ← fastJobFormatLog toWriter logLevel timestamp (encounteredError display e)
  pure { out with stderr := out.stderr ++ first.getD [] ++ second.getD [] }

variable (filterLevel : LevelFilter)

/-- An event logged while `LOG_LEVEL` is `logLevel`: what the logger writes to after it.
A record the logger's gates pass reaches its drain: a `LogDispatcher` prints its tag,
and the drain `dispatch` chooses writes its line and flushes, a failed flush going to
`LogAndFuse`; `none` is a panic. -/
def logRecord (jsonLine : List UInt8 → TextRecord → List UInt8) (display : IoError → String)
    (l : Logger) (logLevel : Nat) (out : Output) (e : Event) : Option Output :=
  if l.log filterLevel logLevel e.record.record then
    let out := if printsTag l.drain then out.print (asBytes e.record.record.tag) else out
    let (sink, format) := dispatch l.drain e.record.record
    match drainLine toWriter jsonLine logLevel e.timestamp e.record format with
    | none => none
    | some none => some out
    | some (some line) =>
      match out.emit sink line e.now with
      | none => none
      | some (out, .ok ()) => some out
      | some (out, .error err) => out.fuse toWriter display logLevel e.timestamp e.record err
  else some out

/-- The fields of `ServiceConfig` that `initial_logger` reads; `log_format` names the
format of the drains it builds. -/
structure LogConfig extends ServiceConfig where
  logFile : String
  logFormat : Format
  slowLogFile : String
  logRotationTimespan : Duration
  logRotationSize : Nat

/-- `initial_logger` on the file system `fs` at the clock `now`: a logger on the terminal
when `log_file` is empty, otherwise a `LogDispatcher` to the log file and, when
`slow_log_file` is set, the slow-log file, each opened by `file_writer`, whose rotated
files `renameByTimestamp` names. `none` is the exit of `fatal!` or a panic. -/
def initialLogger (m : Mode) (config : LogConfig) (env : Option (List String))
    (renameByTimestamp : String → Except IoError String) (fs : Fs) (now : Int) :
    Option (Logger × Nat × Output) :=
  if config.logFile.isEmpty then
    (buildLogger m (.format config.logFormat) config.toServiceConfig env).map fun (l, level) =>
      (l, level, ⟨.term, none, fs, [], []⟩)
  else
    match fileWriter config.logFile config.logRotationTimespan config.logRotationSize
        renameByTimestamp fs now with
    | .error _ => none
    | .ok (writer, fs) =>
      if config.slowLogFile.isEmpty then
        (buildLoggerWithSlowLog m config.logFormat none config.toServiceConfig env).map
          fun (l, level) => (l, level, ⟨.file writer, none, fs, [], []⟩)
      else
        match fileWriter config.slowLogFile config.logRotationTimespan config.logRotationSize
            renameByTimestamp fs now with
        | .error _ => none
        | .ok (slowWriter, fs) =>
          (buildLoggerWithSlowLog m config.logFormat (some config.logFormat)
              config.toServiceConfig env).map
            fun (l, level) => (l, level, ⟨.file writer, some (.file slowWriter), fs, [], []⟩)

/-! ### The gates and the drains of a text logger -/

theorem inner_of_slowLogFilter {threshold : Nat} {inner : Record → Bool} {record : Record}
    (h : slowLogFilter threshold inner record = true) : inner record = true := by
  unfold slowLogFilter at h
  split at h
  · split at h
    · split at h
      · cases h
      · exact h
    · exact h
  · exact h

theorem le_of_logAndFuse {logLevel : Nat} {inner : Record → Bool} {record : Record}
    (h : logAndFuse logLevel inner record = true) :
    record.level.asUsize ≤ logLevel ∧ inner record = true := by
  unfold logAndFuse at h
  split at h
  · exact ⟨‹_›, h⟩
  · cases h

/-- A record the logger writes is at least as severe as `LOG_LEVEL`, on both paths of
`init_log`. -/
theorem asUsize_le_of_log {l : Logger} {logLevel : Nat} {record : Record}
    (h : l.log filterLevel logLevel record = true) : record.level.asUsize ≤ logLevel := by
  simp only [Logger.log, Bool.and_eq_true] at h
  have hinner := inner_of_slowLogFilter h.2
  split at hinner
  · exact (le_of_logAndFuse ((filterLevel.apply_iff _ _ _).mp hinner).2).1
  · exact (le_of_logAndFuse hinner).1

theorem drain_of_buildLogger {m : Mode} {drain : Drain} {config : ServiceConfig}
    {env : Option (List String)} {o : Output} {l : Logger} {logLevel : Nat} {out : Output}
    (h : (buildLogger m drain config env).map (fun p => (p.1, p.2, o)) = some (l, logLevel, out)) :
    l.drain = drain ∧ out = o := by
  obtain ⟨_, hb, he⟩ := Option.map_eq_some_iff.mp h
  obtain ⟨_, -, hl⟩ := Option.map_eq_some_iff.mp hb
  cases hl
  cases he
  exact ⟨rfl, rfl⟩

/-- The drain of the logger `initial_logger` builds. -/
theorem drain_initialLogger {m : Mode} {config : LogConfig} {env : Option (List String)}
    {renameByTimestamp : String → Except IoError String} {fs : Fs} {now : Int} {l : Logger}
    {logLevel : Nat} {out : Output}
    (h : initialLogger m config env renameByTimestamp fs now = some (l, logLevel, out)) :
    l.drain = if config.logFile.isEmpty then .format config.logFormat
      else .dispatcher config.logFormat
        (if config.slowLogFile.isEmpty then none else some config.logFormat) := by
  unfold initialLogger buildLoggerWithSlowLog at h
  split at h
  · next hempty => rw [(drain_of_buildLogger h).1, if_pos hempty]
  · next hempty =>
    rw [if_neg hempty]
    split at h
    · cases h
    · split at h
      · next hslow => rw [(drain_of_buildLogger h).1, if_pos hslow]
      · next hslow =>
        split at h
        · cases h
        · rw [(drain_of_buildLogger h).1, if_neg hslow]

/-- Every drain of a logger `initial_logger` builds for the `Text` format writes text. -/
theorem text_of_initialLogger {m : Mode} {config : LogConfig} (htext : config.logFormat = .text)
    {env : Option (List String)} {renameByTimestamp : String → Except IoError String} {fs : Fs}
    {now : Int} {l : Logger} {logLevel : Nat} {out : Output}
    (h : initialLogger m config env renameByTimestamp fs now = some (l, logLevel, out))
    (record : Record) : (dispatch l.drain record).2 = .text := by
  rw [drain_initialLogger h]
  split
  · exact htext
  · cases config.slowLogFile.isEmpty
    · simp only [dispatch, Bool.false_eq_true, if_false]
      split <;> exact htext
    · exact htext

/-- The records of a run that a logger writes and sends to `sink`, in order. -/
def sentTo (l : Logger) (logLevel : Nat) (sink : Sink) (events : List Event) : List Event :=
  events.filter fun e =>
    l.log filterLevel logLevel e.record.record && (dispatch l.drain e.record.record).1 == sink

theorem sentTo_cons (l : Logger) (logLevel : Nat) (sink : Sink) (e : Event) (events : List Event) :
    sentTo filterLevel l logLevel sink (e :: events) =
      if l.log filterLevel logLevel e.record.record = true ∧
          (dispatch l.drain e.record.record).1 = sink
      then e :: sentTo filterLevel l logLevel sink events
      else sentTo filterLevel l logLevel sink events := by
  by_cases h : l.log filterLevel logLevel e.record.record = true ∧
      (dispatch l.drain e.record.record).1 = sink <;>
    simp_all [sentTo]

/-! ### The log files of a text logger -/

/-- The path of the file each drain of `initial_logger` writes to: the log file when one
is configured, and the slow-log file when that is configured too. -/
def logPath (config : LogConfig) : Sink → Option String
  | .normal => if config.logFile.isEmpty then none else some config.logFile
  | .slow =>
    if config.logFile.isEmpty || config.slowLogFile.isEmpty then none else some config.slowLogFile

def contentsAt (fs : Fs) (path : String) : Option (List UInt8) :=
  (fs.lookup path).map FileData.contents

/-- The writers of a logger with log files: the writer of each drain with a path is the
rotating file at that path, which tracks its file and names a rotated file with
`rename`. -/
def Writes (size : Nat) (rename : String → Except IoError String) (paths : Sink → Option String)
    (out : Output) : Prop :=
  ∀ sink path, paths sink = some path →
    ∃ w, out.writer sink = some (.file w) ∧ w.inner.path = path ∧ w.inner.rename = rename ∧
      Tracks size w.inner out.fs

section Files

variable {size : Nat} {rename : String → Except IoError String} {paths : Sink → Option String}

theorem writer_setWriter (out : Output) (sink sink' : Sink) (w : Writer) (fs : Fs) :
    { out.setWriter sink w with fs }.writer sink' = if sink' = sink then some w else out.writer sink' := by
  cases sink <;> cases sink' <;> rfl

theorem writes_print {out : Output} (h : Writes size rename paths out) (bytes : List UInt8) :
    Writes size rename paths (out.print bytes) := by
  intro sink path hsink
  obtain ⟨w, hw, hrest⟩ := h sink path hsink
  exact ⟨w, by cases sink <;> exact hw, hrest⟩

/-- A line emitted to a drain whose writer tracks its file: the file becomes what
`rotateAfter` gives and every other drain's file stays as it was, as long as a rotated
file never takes the place of a log file and no two drains share a file. -/
theorem emit_writes
    (hrename : ∀ p, ∃ q, rename p = .ok q ∧ ∀ sink path, paths sink = some path → q ≠ path)
    (hdistinct : ∀ sink sink' path, paths sink = some path → paths sink' = some path → sink = sink')
    {out : Output} (hout : Writes size rename paths out) {sink : Sink} {path : String}
    (hsink : paths sink = some path) (line : List UInt8) (now : Int) :
    ∃ out', out.emit sink line now = some (out', .ok ()) ∧ Writes size rename paths out' ∧
      ∀ sink' path', paths sink' = some path' →
        contentsAt out'.fs path' = if sink' = sink
          then (contentsAt out.fs path').map (rotateAfter size · line) else contentsAt out.fs path' := by
  obtain ⟨w, hw, hwpath, hwrename, htracks⟩ := hout sink path hsink
  obtain ⟨q, hq, hqne⟩ := hrename path
  have hname : w.inner.rename w.inner.path = .ok q := by rw [hwrename, hwpath, hq]
  have hne : w.inner.path ≠ q := hwpath ▸ (hqne sink path hsink).symm
  obtain ⟨logger, fs', hline, hlpath, hlrename, htracks', hcontents, hframe⟩ :=
    writeLine_tracks htracks hname hne line now
  -- the file of every other drain is neither the written file nor the rotated one
  have hother : ∀ sink' path', paths sink' = some path' → sink' ≠ sink →
      fs'.lookup path' = out.fs.lookup path' := fun sink' path' hsink' hs =>
    hframe path' (fun heq => hs (hdistinct sink' sink path' hsink' (by rw [heq, hwpath]; exact hsink)))
      (hqne sink' path' hsink').symm
  refine ⟨{ out.setWriter sink (.file ⟨logger⟩) with fs := fs' },
    by simp [Output.emit, hw, hline], fun sink' path' hsink' => ?_, fun sink' path' hsink' => ?_⟩
  · rw [writer_setWriter]
    by_cases hs : sink' = sink
    · subst hs
      rw [hsink] at hsink'
      cases hsink'
      exact ⟨⟨logger⟩, if_pos rfl, hlpath.trans hwpath, hlrename.trans hwrename, htracks'⟩
    · obtain ⟨w', hw', hw'path, hw'rename, htracks''⟩ := hout sink' path' hsink'
      refine ⟨w', by rw [if_neg hs, hw'], hw'path, hw'rename, htracks''.congr ?_⟩
      rw [hw'path]
      exact hother sink' path' hsink' hs
  · by_cases hs : sink' = sink
    · subst hs
      rw [hsink] at hsink'
      cases hsink'
      rw [if_pos rfl, contentsAt, contentsAt, ← hwpath, hcontents, Option.map_map]
      rfl
    · unfold contentsAt
      rw [if_neg hs, hother sink' path' hsink' hs]

/-- One event through a text logger whose drains all have a log file: the line of a
record the logger writes goes, through `rotateAfter`, to the file of the drain
`dispatch` chooses, and no other file changes. -/
theorem logRecord_writes
    (hrename : ∀ p, ∃ q, rename p = .ok q ∧ ∀ sink path, paths sink = some path → q ≠ path)
    (hdistinct : ∀ sink sink' path, paths sink = some path → paths sink' = some path → sink = sink')
    {jsonLine : List UInt8 → TextRecord → List UInt8} {display : IoError → String} {l : Logger}
    (htext : ∀ record, (dispatch l.drain record).2 = .text)
    (hpath : ∀ record, (paths (dispatch l.drain record).1).isSome)
    {out : Output} (hout : Writes size rename paths out) (logLevel : Nat) (e : Event) :
    ∃ out', logRecord toWriter filterLevel jsonLine display l logLevel out e = some out' ∧
      Writes size rename paths out' ∧
      ∀ sink path, paths sink = some path →
        contentsAt out'.fs path = if l.log filterLevel logLevel e.record.record = true ∧
            (dispatch l.drain e.record.record).1 = sink
          then (contentsAt out.fs path).map (rotateAfter size · (e.line toWriter))
          else contentsAt out.fs path := by
  unfold logRecord
  by_cases hlog : l.log filterLevel logLevel e.record.record = true
  · rw [if_pos hlog]
    generalize hout₀ : (if printsTag l.drain then out.print (asBytes e.record.record.tag) else out) =
      out₀
    have hfs : out₀.fs = out.fs := by rw [← hout₀]; split <;> rfl
    have hwrites₀ : Writes size rename paths out₀ := by
      rw [← hout₀]
      split
      · exact writes_print hout _
      · exact hout
    obtain ⟨sink, hd⟩ : ∃ sink, dispatch l.drain e.record.record = (sink, .text) :=
      ⟨_, Prod.ext rfl (htext _)⟩
    obtain ⟨path, hsink⟩ := Option.isSome_iff_exists.mp (hd ▸ hpath e.record.record)
    have hline : drainLine toWriter jsonLine logLevel e.timestamp e.record .text =
        some (some (e.line toWriter)) := by
      simp [drainLine, fastJobFormatLog, asUsize_le_of_log filterLevel hlog, formatLine_eq,
        Event.line]
    obtain ⟨out', hemit, hwrites, hcontents⟩ :=
      emit_writes hrename hdistinct hwrites₀ hsink (e.line toWriter) e.now
    refine ⟨out', by simp only [hd, hline, hemit], hwrites, fun sink' path' hsink' => ?_⟩
    rw [hcontents sink' path' hsink', hfs, hd]
    by_cases hs : sink' = sink
    · subst hs
      simp [hlog]
    · have hs' : ¬sink = sink' := fun h => hs h.symm
      simp [hlog, hs, hs']
  · rw [if_neg hlog]
    exact ⟨out, rfl, hout, fun _ _ _ => by simp [hlog]⟩

/-- Over a run of a text logger whose drains all have a log file, the file of each drain
is what `rotateAfter` makes of it over the lines of the records sent to it, in order. -/
theorem exec_logRecord_writes
    (hrename : ∀ p, ∃ q, rename p = .ok q ∧ ∀ sink path, paths sink = some path → q ≠ path)
    (hdistinct : ∀ sink sink' path, paths sink = some path → paths sink' = some path → sink = sink')
    {jsonLine : List UInt8 → TextRecord → List UInt8} {display : IoError → String} {l : Logger}
    (htext : ∀ record, (dispatch l.drain record).2 = .text)
    (hpath : ∀ record, (paths (dispatch l.drain record).1).isSome) (logLevel : Nat)
    (events : List Event) {out : Output} (hout : Writes size rename paths out) :
    ∃ out', exec (logRecord toWriter filterLevel jsonLine display l logLevel) out events = some out' ∧
      Writes size rename paths out' ∧
      ∀ sink path, paths sink = some path →
        contentsAt out'.fs path = (contentsAt out.fs path).map fun base =>
          ((sentTo filterLevel l logLevel sink events).map (Event.line toWriter)).foldl
            (rotateAfter size) base := by
  induction events generalizing out with
  | nil => exact ⟨out, rfl, hout, fun _ _ _ => by simp [sentTo]⟩
  | cons e events ih =>
    obtain ⟨out₁, hstep, hout₁, hc₁⟩ :=
      logRecord_writes toWriter filterLevel hrename hdistinct htext hpath hout logLevel e
    obtain ⟨out', hrun, hout', hc'⟩ := ih hout₁
    refine ⟨out', by rw [exec, hstep, Option.bind_some, hrun], hout', fun sink path hsink => ?_⟩
    rw [hc' sink path hsink, hc₁ sink path hsink, sentTo_cons]
    split <;> simp [Option.map_map, Function.comp_def]

end Files

/-- `initial_logger` opens each log file with a writer that tracks it, holding what was
there, and no two drains share a file when the slow-log file is not the log file. -/
theorem initialLogger_writes {m : Mode} {config : LogConfig} {env : Option (List String)}
    {renameByTimestamp : String → Except IoError String} {fs : Fs} {now : Int} {l : Logger}
    {logLevel : Nat} {out : Output}
    (h : initialLogger m config env renameByTimestamp fs now = some (l, logLevel, out))
    (hslow : config.slowLogFile.isEmpty = true ∨ config.logFile ≠ config.slowLogFile) :
    Writes config.logRotationSize renameByTimestamp (logPath config) out ∧
      ∀ sink path, logPath config sink = some path →
        contentsAt out.fs path = some ((contentsAt fs path).getD []) := by
  unfold initialLogger buildLoggerWithSlowLog at h
  split at h
  · next hempty =>
    have hnone : ∀ sink, logPath config sink = none := by
      intro sink
      cases sink <;> simp [logPath, hempty]
    exact ⟨fun sink path hsink => by simp [hnone] at hsink,
      fun sink path hsink => by simp [hnone] at hsink⟩
  · next hempty =>
    obtain ⟨w, fs₁, hw, hwpath, hwrename, htracks, hcontents, hframe⟩ :=
      fileWriter_tracks config.logFile config.logRotationTimespan config.logRotationSize
        renameByTimestamp fs now
    rw [hw] at h
    simp only at h
    split at h
    · next hslowEmpty =>
      obtain ⟨-, rfl⟩ := drain_of_buildLogger h
      have hslowPath : logPath config .slow = none := by simp [logPath, hslowEmpty]
      refine ⟨fun sink path hsink => ?_, fun sink path hsink => ?_⟩ <;> cases sink <;>
        simp [logPath, hempty, hslowEmpty] at hsink
      · subst hsink
        exact ⟨w, rfl, hwpath, hwrename, htracks⟩
      · subst hsink
        exact hcontents
    · next hslowSet =>
      have hne : config.logFile ≠ config.slowLogFile := by
        rcases hslow with h' | h'
        · exact absurd h' hslowSet
        · exact h'
      obtain ⟨w₂, fs₂, hw₂, hw₂path, hw₂rename, htracks₂, hcontents₂, hframe₂⟩ :=
        fileWriter_tracks config.slowLogFile config.logRotationTimespan config.logRotationSize
          renameByTimestamp fs₁ now
      rw [hw₂] at h
      obtain ⟨-, rfl⟩ := drain_of_buildLogger h
      have hkeep : fs₂.lookup config.logFile = fs₁.lookup config.logFile := hframe₂ _ hne
      refine ⟨fun sink path hsink => ?_, fun sink path hsink => ?_⟩ <;> cases sink <;>
        simp [logPath, hempty, hslowSet] at hsink <;> subst hsink
      · exact ⟨w, rfl, hwpath, hwrename, htracks.congr (hwpath ▸ hkeep)⟩
      · exact ⟨w₂, rfl, hw₂path, hw₂rename, htracks₂⟩
      · unfold contentsAt
        rw [hkeep]
        exact hcontents
      · unfold contentsAt
        rw [hcontents₂, hframe _ (Ne.symm hne)]

theorem logPath_dispatch {m : Mode} {config : LogConfig} {env : Option (List String)}
    {renameByTimestamp : String → Except IoError String} {fs : Fs} {now : Int} {l : Logger}
    {logLevel : Nat} {out : Output}
    (h : initialLogger m config env renameByTimestamp fs now = some (l, logLevel, out))
    (hfile : config.logFile.isEmpty = false) (record : Record) :
    (logPath config (dispatch l.drain record).1).isSome := by
  rw [drain_initialLogger h, hfile]
  cases hslow : config.slowLogFile.isEmpty
  · simp only [Bool.false_eq_true, if_false, dispatch]
    split <;> simp [logPath, hfile, hslow]
  · simp [dispatch, logPath, hfile]

/-- The files of a text logger with a log file. Over a run, the file of each drain is
what `rotateAfter` makes of what was there at the start over the lines of the records
sent to it; it holds the lines of the records sent since its last rotation, after
what it held at the start when it has not rotated. -/
theorem text_log_files {m : Mode} {config : LogConfig} (htext : config.logFormat = .text)
    (hfile : config.logFile.isEmpty = false)
    (hslow : config.slowLogFile.isEmpty = true ∨ config.logFile ≠ config.slowLogFile)
    {renameByTimestamp : String → Except IoError String}
    (hrename : ∀ p, ∃ q, renameByTimestamp p = .ok q ∧ q ≠ config.logFile ∧ q ≠ config.slowLogFile)
    {env : Option (List String)} {fs : Fs} {now : Int} {l : Logger} {initialLevel : Nat}
    {out : Output} (hinit : initialLogger m config env renameByTimestamp fs now = some (l, initialLevel, out))
    (jsonLine : List UInt8 → TextRecord → List UInt8) (display : IoError → String) (logLevel : Nat)
    (events : List Event) :
    ∃ out', exec (logRecord toWriter filterLevel jsonLine display l logLevel) out events = some out' ∧
      ∀ sink path, logPath config sink = some path →
        contentsAt out'.fs path = some (((sentTo filterLevel l logLevel sink events).map
          (Event.line toWriter)).foldl (rotateAfter config.logRotationSize) ((contentsAt fs path).getD [])) ∧
        ∃ dropped kept, sentTo filterLevel l logLevel sink events = dropped ++ kept ∧
          contentsAt out'.fs path = some ((if dropped = [] then (contentsAt fs path).getD [] else []) ++
            kept.flatMap (Event.line toWriter)) := by
  have hpaths : ∀ sink path, logPath config sink = some path →
      path = config.logFile ∨ path = config.slowLogFile := by
    intro sink path hsink
    cases sink <;> simp only [logPath] at hsink <;> split at hsink <;> cases hsink <;> simp
  have hrename' : ∀ p, ∃ q, renameByTimestamp p = .ok q ∧
      ∀ sink path, logPath config sink = some path → q ≠ path := by
    intro p
    obtain ⟨q, hq, hq₁, hq₂⟩ := hrename p
    refine ⟨q, hq, fun sink path hsink => ?_⟩
    rcases hpaths sink path hsink with rfl | rfl
    · exact hq₁
    · exact hq₂
  have hdistinct : ∀ sink sink' path, logPath config sink = some path →
      logPath config sink' = some path → sink = sink' := by
    intro sink sink' path h₁ h₂
    cases sink <;> cases sink' <;> simp only [logPath] at h₁ h₂ <;>
      split at h₁ <;> split at h₂ <;> simp_all
  obtain ⟨hwrites, hstart⟩ := initialLogger_writes hinit hslow
  obtain ⟨out', hrun, -, hfiles⟩ := exec_logRecord_writes toWriter filterLevel hrename' hdistinct
    (text_of_initialLogger htext hinit) (logPath_dispatch hinit hfile) logLevel events hwrites
  refine ⟨out', hrun, fun sink path hsink => ?_⟩
  rw [hfiles sink path hsink, hstart sink path hsink, Option.map_some]
  obtain ⟨dropped, kept, hsplit, hfold⟩ := foldl_rotateAfter config.logRotationSize
    ((contentsAt fs path).getD []) (Event.line toWriter) (sentTo filterLevel l logLevel sink events)
  exact ⟨rfl, dropped, kept, hsplit, by rw [hfold]⟩

/-- The text log files read back. Take the logger `initial_logger` builds for the `Text`
format with a log file, any `LOG_LEVEL` and any run of records logged at times whose
text holds no `]`, with `rename_by_timestamp` naming rotated files other than the log
files. The log file and the slow-log file each hold what rotation by
`log_rotation_size` leaves of the lines of the records the logger sends to it: the
lines of those sent since its last rotation, after its old contents when it has not
rotated. Those lines read back as the entries of exactly these records, in the order
they were logged: each with its time, its level, its file name as `write_file_name`
keeps it with its line number (or `<unknown>`), its message and its fields. -/
theorem text_log_reads_back {m : Mode} {config : LogConfig} (htext : config.logFormat = .text)
    (hfile : config.logFile.isEmpty = false)
    (hslow : config.slowLogFile.isEmpty = true ∨ config.logFile ≠ config.slowLogFile)
    {renameByTimestamp : String → Except IoError String}
    (hrename : ∀ p, ∃ q, renameByTimestamp p = .ok q ∧ q ≠ config.logFile ∧ q ≠ config.slowLogFile)
    {env : Option (List String)} {fs : Fs} {now : Int} {l : Logger} {initialLevel : Nat}
    {out : Output} (hinit : initialLogger m config env renameByTimestamp fs now = some (l, initialLevel, out))
    (jsonLine : List UInt8 → TextRecord → List UInt8) (display : IoError → String) (logLevel : Nat)
    (events : List Event) (hts : ∀ e ∈ events, 0x5D ∉ e.timestamp) :
    ∃ out', exec (logRecord toWriter filterLevel jsonLine display l logLevel) out events = some out' ∧
      ∀ sink path, logPath config sink = some path →
        contentsAt out'.fs path = some (((sentTo filterLevel l logLevel sink events).map
          (Event.line toWriter)).foldl (rotateAfter config.logRotationSize) ((contentsAt fs path).getD [])) ∧
        ∃ dropped kept, sentTo filterLevel l logLevel sink events = dropped ++ kept ∧
          contentsAt out'.fs path = some ((if dropped = [] then (contentsAt fs path).getD [] else []) ++
            kept.flatMap (Event.line toWriter)) ∧
          readLines (kept.flatMap (Event.line toWriter)) = some (kept.map Event.entry) := by
  obtain ⟨out', hrun, hfiles⟩ := text_log_files toWriter filterLevel htext hfile hslow hrename hinit
    jsonLine display logLevel events
  refine ⟨out', hrun, fun sink path hsink => ?_⟩
  obtain ⟨hfold, dropped, kept, hsplit, hkept⟩ := hfiles sink path hsink
  have hts' : ∀ e ∈ kept, 0x5D ∉ e.timestamp := fun e he =>
    hts e (List.mem_of_mem_filter (hsplit ▸ List.mem_append_right dropped he))
  exact ⟨hfold, dropped, kept, hsplit, hkept, readLines_lines toWriter hts'⟩

/-! ### No line breaks inside a line -/

theorem noControl_sourceText (file : String) (line : Nat) : NoControl (sourceText file line) := by
  unfold sourceText
  cases fileName file with
  | none => exact noControl_of_all (by decide : (asBytes "<unknown>").all _ = true)
  | some path =>
    refine .append (fun b hb => (isFileNameByte_delimiters _ (List.mem_filter.mp hb).2).2.2)
      (.cons (by decide) fun b hb => ?_)
    have := (isDigit_of_mem_decimal hb).1
    rw [UInt8.le_iff_toNat_le] at this
    simp only [UInt8.toNat_ofNat] at this
    omega

theorem noControl_writeLogFields (fields : List (String × String)) :
    NoControl (writeLogFields toWriter fields) := by
  intro b hb
  obtain ⟨⟨key, value⟩, -, hb⟩ := List.mem_flatMap.mp hb
  have hfield : NoControl (emitArguments toWriter key value) :=
    .append (.append (.append (noControl_of_all (by decide)) (noControl_writeEscapedStr toWriter key))
      (.cons (by decide) (noControl_writeEscapedStr toWriter value))) (noControl_of_all (by decide))
  exact hfield b hb

/-- A line holds no control byte before its line break when its time holds none,
whatever its message, file name and fields hold. -/
theorem noControl_lineBody {timestamp : List UInt8} (hts : NoControl timestamp) (r : TextRecord) :
    NoControl (lineBody toWriter timestamp r) := by
  have hlevel : NoControl (asBytes (getUnifiedLogLevel r.record.level)) := by
    cases r.record.level <;> exact noControl_of_all (by decide)
  have hbrackets : NoControl [0x5D, 0x20, 0x5B] := noControl_of_all (by decide)
  have hclose : NoControl [0x5D] := noControl_of_all (by decide)
  have hheader : NoControl (headerText timestamp r.record.level r.file r.line) :=
    .cons (by decide) (.append (.append (.append (.append (.append hts hbrackets) hlevel) hbrackets)
      (noControl_sourceText _ _)) hclose)
  have hmsg : NoControl (writeLogMsg toWriter r.msg) :=
    .append (.append (noControl_of_all (by decide)) (noControl_writeEscapedStr toWriter r.msg)) hclose
  exact .append (.append hheader hmsg) (noControl_writeLogFields toWriter r.fields)

theorem splitOn_flatMap_append {α : Type} [BEq α] [LawfulBEq α] {x : α} {lines : List (List α)}
    (h : ∀ line ∈ lines, x ∉ line) : (lines.flatMap (· ++ [x])).splitOn x = lines ++ [[]] := by
  induction lines with
  | nil => rfl
  | cons line lines ih =>
    rw [List.flatMap_cons, List.append_assoc, List.singleton_append,
      List.splitOn_append_cons_self_of_not_mem (h line List.mem_cons_self),
      ih fun l hl => h l (List.mem_cons_of_mem _ hl), List.cons_append]

/-- One line per record. Take the logger `initial_logger` builds for the `Text` format
with a log file, any `LOG_LEVEL` and any run of records logged at times whose text
holds no control byte, with `rename_by_timestamp` naming rotated files other than the
log files. No line of a record the logger sends to a file holds a control byte, so no
message, file name or field can break a line or forge another; and what a file holds
of the records sent since its last rotation splits at its line breaks into their
lines, one per record, in order, with an empty rest after the last line break. -/
theorem text_log_one_line_per_record {m : Mode} {config : LogConfig}
    (htext : config.logFormat = .text) (hfile : config.logFile.isEmpty = false)
    (hslow : config.slowLogFile.isEmpty = true ∨ config.logFile ≠ config.slowLogFile)
    {renameByTimestamp : String → Except IoError String}
    (hrename : ∀ p, ∃ q, renameByTimestamp p = .ok q ∧ q ≠ config.logFile ∧ q ≠ config.slowLogFile)
    {env : Option (List String)} {fs : Fs} {now : Int} {l : Logger} {initialLevel : Nat}
    {out : Output} (hinit : initialLogger m config env renameByTimestamp fs now = some (l, initialLevel, out))
    (jsonLine : List UInt8 → TextRecord → List UInt8) (display : IoError → String) (logLevel : Nat)
    (events : List Event) (hts : ∀ e ∈ events, NoControl e.timestamp) :
    ∃ out', exec (logRecord toWriter filterLevel jsonLine display l logLevel) out events = some out' ∧
      ∀ sink path, logPath config sink = some path →
        (∀ e ∈ sentTo filterLevel l logLevel sink events,
          NoControl (lineBody toWriter e.timestamp e.record)) ∧
        ∃ dropped kept, sentTo filterLevel l logLevel sink events = dropped ++ kept ∧
          contentsAt out'.fs path = some ((if dropped = [] then (contentsAt fs path).getD [] else []) ++
            kept.flatMap (Event.line toWriter)) ∧
          (kept.flatMap (Event.line toWriter)).splitOn 0x0A =
            kept.map (fun e => lineBody toWriter e.timestamp e.record) ++ [[]] := by
  obtain ⟨out', hrun, hfiles⟩ := text_log_files toWriter filterLevel htext hfile hslow hrename hinit
    jsonLine display logLevel events
  refine ⟨out', hrun, fun sink path hsink => ?_⟩
  obtain ⟨-, dropped, kept, hsplit, hkept⟩ := hfiles sink path hsink
  have hlines : ∀ e ∈ sentTo filterLevel l logLevel sink events,
      NoControl (lineBody toWriter e.timestamp e.record) :=
    fun e he => noControl_lineBody toWriter (hts e (List.mem_of_mem_filter he)) e.record
  -- a line break is a control byte, so none stands inside a line
  have hbreak : ∀ line ∈ kept.map (fun e => lineBody toWriter e.timestamp e.record),
      (0x0A : UInt8) ∉ line := by
    intro line hline hmem
    obtain ⟨e, he, rfl⟩ := List.mem_map.mp hline
    exact absurd (hlines e (hsplit ▸ List.mem_append_right dropped he) 0x0A hmem) (by decide)
  refine ⟨hlines, dropped, kept, hsplit, hkept, ?_⟩
  rw [← splitOn_flatMap_append hbreak, List.flatMap_map]
  rfl

/-! ### A run of a logger with a slow-log file -/

/-- A text logger writing to `fastjob.log`, with `slow.log` for slow logs of more than a
second, both rotated past 200 bytes. -/
def fileConfig : LogConfig :=
  { logLevel := .info, slowLogThreshold := Duration.fromMillis 1000,
    logFile := "fastjob.log", logFormat := .text, slowLogFile := "slow.log",
    logRotationTimespan := oneHour, logRotationSize := 200 }

/-- The logger `initial_logger` builds for `fileConfig`. -/
def fileLogger : Logger := ⟨.dispatcher .text (some .text), .info, true, [], 1000⟩

def fileFs : Fs :=
  ((∅ : Fs).insert "fastjob.log" ⟨[], some 0, some 0⟩).insert "slow.log" ⟨[], some 0, some 0⟩

/-- The writers `initial_logger` opens for `fileConfig` on an empty file system. -/
def fileOutput : Output :=
  ⟨.file ⟨⟨"fastjob.log", renameRotated, [.rotateBySize 200 0]⟩⟩,
    some (.file ⟨⟨"slow.log", renameRotated, [.rotateBySize 200 0]⟩⟩), fileFs, [], []⟩

def sampleTime : List UInt8 := asBytes "2026/11/11 10:00:00.000 +08:00"

/-- A record for the log file, one for the slow-log file, and a debug record that
`LOG_LEVEL` drops. -/
def sampleEvents : List Event :=
  [⟨0, sampleTime, ⟨⟨.info, "fastjob::server", "", []⟩, "src/fastjob/src/server.rs", 42,
      "server started", [("addr", "127.0.0.1:9090")]⟩⟩,
    ⟨0, sampleTime, ⟨⟨.warning, "fastjob::server", "slow_log", [("takes", .u64 2000)]⟩,
      "src/fastjob/src/server.rs", 57, "slow query", [("takes", "2000")]⟩⟩,
    ⟨0, sampleTime, ⟨⟨.debug, "fastjob::server", "", []⟩, "src/fastjob/src/server.rs", 60,
      "detail", []⟩⟩]

theorem initialLogger_fileConfig :
    initialLogger .wrap fileConfig none renameRotated ∅ 0 = some (fileLogger, 4, fileOutput) := by
  have hms : Time.durationToMs .wrap fileConfig.slowLogThreshold = some 1000 := by
    rw [Time.durationToMs_wrap]
    simp [fileConfig]
  simp only [initialLogger, buildLoggerWithSlowLog, buildLogger, hms, Option.map_some, initLog]
  rfl

theorem renameRotated_avoids :
    ∀ p, ∃ q, renameRotated p = .ok q ∧ q ≠ fileConfig.logFile ∧ q ≠ fileConfig.slowLogFile := by
  intro p
  refine ⟨p ++ ".1", rfl, ?_, ?_⟩ <;> intro h <;>
  · have hlast := congrArg (fun s : String => s.toList.getLast?) h
    simp [fileConfig] at hlast

theorem text_log_reads_back_on_sampleEvents :
    fileConfig.logFormat = .text ∧ fileConfig.logFile.isEmpty = false ∧
      (fileConfig.slowLogFile.isEmpty = true ∨ fileConfig.logFile ≠ fileConfig.slowLogFile) ∧
      (∀ p, ∃ q, renameRotated p = .ok q ∧ q ≠ fileConfig.logFile ∧ q ≠ fileConfig.slowLogFile) ∧
      initialLogger .wrap fileConfig none renameRotated ∅ 0 = some (fileLogger, 4, fileOutput) ∧
      (∀ e ∈ sampleEvents, 0x5D ∉ e.timestamp) ∧
      ∃ out', exec (logRecord escapeAll LevelFilter.levelFirst (fun _ _ => []) (fun _ => "")
          fileLogger 4) fileOutput sampleEvents = some out' ∧
        ∀ sink path, logPath fileConfig sink = some path →
          contentsAt out'.fs path = some (((sentTo LevelFilter.levelFirst fileLogger 4 sink
            sampleEvents).map (Event.line escapeAll)).foldl (rotateAfter fileConfig.logRotationSize)
              ((contentsAt ∅ path).getD [])) ∧
          ∃ dropped kept, sentTo LevelFilter.levelFirst fileLogger 4 sink sampleEvents =
              dropped ++ kept ∧
            contentsAt out'.fs path = some ((if dropped = [] then (contentsAt ∅ path).getD [] else []) ++
              kept.flatMap (Event.line escapeAll)) ∧
            readLines (kept.flatMap (Event.line escapeAll)) = some (kept.map Event.entry) := by
  have hts : ∀ e ∈ sampleEvents, 0x5D ∉ e.timestamp := by
    simp only [sampleEvents, List.forall_mem_cons, List.not_mem_nil, IsEmpty.forall_iff,
      implies_true, and_true, and_self]
    decide
  exact ⟨rfl, rfl, .inr (by decide), renameRotated_avoids, initialLogger_fileConfig, hts,
    text_log_reads_back escapeAll LevelFilter.levelFirst rfl rfl (.inr (by decide))
      renameRotated_avoids initialLogger_fileConfig (fun _ _ => []) (fun _ => "") 4 sampleEvents hts⟩

theorem text_log_one_line_per_record_on_sampleEvents :
    fileConfig.logFormat = .text ∧ fileConfig.logFile.isEmpty = false ∧
      (fileConfig.slowLogFile.isEmpty = true ∨ fileConfig.logFile ≠ fileConfig.slowLogFile) ∧
      (∀ p, ∃ q, renameRotated p = .ok q ∧ q ≠ fileConfig.logFile ∧ q ≠ fileConfig.slowLogFile) ∧
      initialLogger .wrap fileConfig none renameRotated ∅ 0 = some (fileLogger, 4, fileOutput) ∧
      (∀ e ∈ sampleEvents, NoControl e.timestamp) ∧
      ∃ out', exec (logRecord escapeAll LevelFilter.levelFirst (fun _ _ => []) (fun _ => "")
          fileLogger 4) fileOutput sampleEvents = some out' ∧
        ∀ sink path, logPath fileConfig sink = some path →
          (∀ e ∈ sentTo LevelFilter.levelFirst fileLogger 4 sink sampleEvents,
            NoControl (lineBody escapeAll e.timestamp e.record)) ∧
          ∃ dropped kept, sentTo LevelFilter.levelFirst fileLogger 4 sink sampleEvents =
              dropped ++ kept ∧
            contentsAt out'.fs path = some ((if dropped = [] then (contentsAt ∅ path).getD [] else []) ++
              kept.flatMap (Event.line escapeAll)) ∧
            (kept.flatMap (Event.line escapeAll)).splitOn 0x0A =
              kept.map (fun e => lineBody escapeAll e.timestamp e.record) ++ [[]] := by
  have htime : NoControl sampleTime := noControl_of_all (by decide)
  have hts : ∀ e ∈ sampleEvents, NoControl e.timestamp := by
    simp only [sampleEvents, List.forall_mem_cons, List.not_mem_nil, IsEmpty.forall_iff,
      implies_true, and_true]
    exact ⟨htime, htime, htime⟩
  exact ⟨rfl, rfl, .inr (by decide), renameRotated_avoids, initialLogger_fileConfig, hts,
    text_log_one_line_per_record escapeAll LevelFilter.levelFirst rfl rfl (.inr (by decide))
      renameRotated_avoids initialLogger_fileConfig (fun _ _ => []) (fun _ => "") 4 sampleEvents hts⟩

end TextFormat
