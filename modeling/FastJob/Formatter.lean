import FastJob.JsonString

/-!
# Writing file names and escaped fields of a log line (`log::formatter`)

`write_file_name` writes the name of a record's source file keeping only the
bytes `[A-Za-z0-9]`, `.`, `-` and `_`. It scans the bytes with `start`, the
first byte of the current run of kept bytes, and writes each run as the slice
`file_name[start..index]` of the `&str`, which panics unless both ends are
character boundaries.

`write_escaped_str` writes a value as it is when none of its bytes is a space,
a control byte or a delimiter of the log format (`"`, `=`, `[`, `]`), and as a
JSON string otherwise. `serde_json::to_writer` is not part of this repository: it
is an `Encoder`, known only by its law that it writes a JSON string literal of its
input. `Serializer::emit_arguments` writes a field as ` [key=value]`, both sides
so escaped, through a `PlainDecorator` whose `start_*` calls write nothing.

Strings are Lean `String`s; their bytes are the UTF-8 encoding of their
characters, `String.utf8EncodeChar`. Writers take every byte. The reading side
(`readField`) is a specification: the split of a field that a reader of the
format does, with the JSON string decoder of `JsonString`.
-/
namespace Formatter

open JsonString

/-- `str::as_bytes`. -/
def asBytes (s : String) : List UInt8 := s.toList.flatMap String.utf8EncodeChar

theorem toByteArray_asBytes (s : String) : (asBytes s).toByteArray = s.toByteArray :=
  String.utf8Encode_toList

theorem asBytes_injective : Function.Injective asBytes := by
  intro s t h
  rw [← String.toByteArray_inj, ← toByteArray_asBytes, ← toByteArray_asBytes, h]

theorem fromUTF8?_asBytes (s : String) : String.fromUTF8? (asBytes s).toByteArray = some s := by
  rw [toByteArray_asBytes, String.fromUTF8?, dif_pos s.isValidUTF8]
  rfl

/-! ### Character boundaries -/

/-- The byte test of `str::is_char_boundary`, `(b as i8) >= -0x40`: the byte does
not continue a character. -/
def startsChar (b : UInt8) : Bool := b < 0x80 || 0xC0 ≤ b

/-- `str::is_char_boundary` on the bytes of a string. -/
def isCharBoundary (bytes : List UInt8) (index : Nat) : Bool :=
  index == 0 ||
    match bytes[index]? with
    | none => index == bytes.length
    | some b => startsChar b

/-- `&s[start..stop]` on the bytes of `s`; `none` is its panic. -/
def slice (bytes : List UInt8) (start stop : Nat) : Option (List UInt8) :=
  if start ≤ stop ∧ isCharBoundary bytes start ∧ isCharBoundary bytes stop then
    some ((bytes.drop start).take (stop - start))
  else none

/-- `&s[start..]` on the bytes of `s`; `none` is its panic. -/
def sliceFrom (bytes : List UInt8) (start : Nat) : Option (List UInt8) :=
  if isCharBoundary bytes start then some (bytes.drop start) else none

/-- In UTF-8 the byte after an ASCII byte starts a character. -/
def AsciiThenStart (a b : UInt8) : Prop := a < 0x80 → startsChar b = true

theorem isChain_of_high {l : List UInt8} (h : ∀ b ∈ l, 0x80 ≤ b) :
    List.IsChain AsciiThenStart l := by
  induction l with
  | nil => exact .nil
  | cons a l ih =>
    cases l with
    | nil => exact .singleton a
    | cons b l =>
      refine .cons_cons (fun ha => ?_) (ih fun x hx => h x (List.mem_cons_of_mem a hx))
      have := h a List.mem_cons_self
      rw [UInt8.le_iff_toNat_le] at this
      rw [UInt8.lt_iff_toNat_lt] at ha
      exact absurd ha (by simp only [UInt8.toNat_ofNat] at this ⊢; omega)

theorem high_or (y : UInt8) :
    0x80 ≤ y ||| 0x80 ∧ 0x80 ≤ y ||| 0xc0 ∧ 0x80 ≤ y ||| 0xe0 ∧ 0x80 ≤ y ||| 0xf0 := by
  revert y
  decide +kernel

theorem startsChar_of_isUTF8FirstByte : ∀ b : UInt8, b.IsUTF8FirstByte → startsChar b = true := by
  decide +kernel

theorem isChain_utf8EncodeChar (c : Char) :
    List.IsChain AsciiThenStart (String.utf8EncodeChar c) := by
  match h : c.utf8Size, c.utf8Size_pos, c.utf8Size_le_four with
  | 1, _, _ =>
    rw [String.utf8EncodeChar_eq_singleton h]
    exact .singleton _
  | 2, _, _ =>
    rw [String.utf8EncodeChar_eq_cons_cons h]
    exact isChain_of_high (by simp [high_or])
  | 3, _, _ =>
    rw [String.utf8EncodeChar_eq_cons_cons_cons h]
    exact isChain_of_high (by simp [high_or])
  | 4, _, _ =>
    rw [String.utf8EncodeChar_eq_cons_cons_cons_cons h]
    exact isChain_of_high (by simp [high_or])

theorem startsChar_head_utf8EncodeChar (c : Char) :
    ∀ b ∈ (String.utf8EncodeChar c).head?, startsChar b = true := by
  intro b hb
  obtain ⟨x, xs, hx⟩ := List.exists_cons_of_ne_nil (String.utf8EncodeChar_ne_nil (c := c))
  have hfirst := UInt8.isUTF8FirstByte_getElem_zero_utf8EncodeChar (c := c)
  simp only [hx, List.head?_cons, Option.mem_def, Option.some.injEq] at hb
  simp only [hx, List.getElem_cons_zero] at hfirst
  exact hb ▸ startsChar_of_isUTF8FirstByte x hfirst

theorem isChain_asBytes (s : String) : List.IsChain AsciiThenStart (asBytes s) := by
  unfold asBytes
  induction s.toList with
  | nil => exact .nil
  | cons c l ih =>
    rw [List.flatMap_cons, List.isChain_append]
    refine ⟨isChain_utf8EncodeChar c, ih, fun a _ b hb _ => ?_⟩
    cases l with
    | nil => simp at hb
    | cons c' l =>
      rw [List.flatMap_cons, List.head?_append] at hb
      obtain ⟨x, xs, hx⟩ := List.exists_cons_of_ne_nil (String.utf8EncodeChar_ne_nil (c := c'))
      rw [hx, List.head?_cons, Option.some_or] at hb
      exact startsChar_head_utf8EncodeChar c' b (by rw [hx]; exact hb)

/-! ### `write_file_name` -/

/-- The bytes `write_file_name` keeps: `[A-Za-z0-9]`, `.`, `-` and `_`. -/
def isFileNameByte (b : UInt8) : Bool :=
  ('A'.toUInt8 ≤ b && b ≤ 'Z'.toUInt8) || ('a'.toUInt8 ≤ b && b ≤ 'z'.toUInt8) ||
    ('0'.toUInt8 ≤ b && b ≤ '9'.toUInt8) || b == '.'.toUInt8 || b == '-'.toUInt8 || b == '_'.toUInt8

/-- The bytes kept are exactly those of `A`-`Z`, `a`-`z`, `0`-`9`, `.`, `-` and `_`. -/
theorem isFileNameByte_iff : ∀ b : UInt8, isFileNameByte b = true ↔
    b ∈ "ABCDEFGHIJKLMNOPQRSTUVWXYZabcdefghijklmnopqrstuvwxyz0123456789.-_".toList.map Char.toUInt8 := by
  decide +kernel

theorem lt_of_isFileNameByte : ∀ b : UInt8, isFileNameByte b = true → b < 0x80 := by
  decide +kernel

/-- The loop of `write_file_name` from byte `index` on, with `start` the first byte
of the current run of kept bytes: what it writes, or `none` when a slice panics. -/
def writeFileNameFrom (fileName : List UInt8) : List UInt8 → Nat → Nat → Option (List UInt8)
  | [], _, start =>
    if start < fileName.length then sliceFrom fileName start else some []
  | b :: rest, index, start =>
    if isFileNameByte b then writeFileNameFrom fileName rest (index + 1) start
    else if start < index then do
      let run ← slice fileName start index
      let written ← writeFileNameFrom fileName rest (index + 1) (index + 1)
      pure (run ++ written)
    else writeFileNameFrom fileName rest (index + 1) (index + 1)

/-- `write_file_name`: the bytes it writes, or `none` when it panics. -/
def writeFileName (fileName : String) : Option (List UInt8) :=
  writeFileNameFrom (asBytes fileName) (asBytes fileName) 0 0

theorem isCharBoundary_of_kept {bytes : List UInt8} {i : Nat} (hi : i < bytes.length)
    (hkept : isFileNameByte bytes[i] = true) : isCharBoundary bytes i = true := by
  have := lt_of_isFileNameByte _ hkept
  simp [isCharBoundary, List.getElem?_eq_getElem hi, startsChar, this]

theorem isCharBoundary_after_kept {pre rest : List UInt8} {b : UInt8}
    (hchain : List.IsChain AsciiThenStart (pre ++ b :: rest)) (hpre : pre ≠ [])
    (hlast : ∀ x ∈ pre.getLast?, isFileNameByte x = true) :
    isCharBoundary (pre ++ b :: rest) pre.length = true := by
  obtain ⟨x, hx⟩ := Option.ne_none_iff_exists'.1 (mt List.getLast?_eq_none_iff.1 hpre)
  have hjoin := (List.isChain_append.1 hchain).2.2 x hx b rfl
  have hb := hjoin (lt_of_isFileNameByte x (hlast x hx))
  simp [isCharBoundary, hb]

theorem writeFileNameFrom_eq {bytes : List UInt8} (hchain : List.IsChain AsciiThenStart bytes)
    (rest pre : List UInt8) (start : Nat) (hsplit : bytes = pre ++ rest)
    (hstart : start ≤ pre.length) (hrun : ∀ b ∈ pre.drop start, isFileNameByte b = true) :
    writeFileNameFrom bytes rest pre.length start = some ((bytes.drop start).filter isFileNameByte) := by
  induction rest generalizing pre start with
  | nil =>
    rw [List.append_nil] at hsplit
    subst hsplit
    simp only [writeFileNameFrom]
    by_cases hlt : start < bytes.length
    · have hkept : isFileNameByte bytes[start] = true :=
        hrun _ (by rw [List.drop_eq_getElem_cons hlt]; exact List.mem_cons_self)
      rw [if_pos hlt, sliceFrom, if_pos (isCharBoundary_of_kept hlt hkept),
        List.filter_eq_self.2 hrun]
    · rw [if_neg hlt, List.drop_eq_nil_of_le (by omega)]
      rfl
  | cons b rest ih =>
    subst hsplit
    have hnext := ih (pre ++ [b])
    simp only [List.append_assoc, List.cons_append, List.nil_append, List.length_append,
      List.length_singleton, true_implies] at hnext
    simp only [writeFileNameFrom]
    by_cases hkeep : isFileNameByte b = true
    · -- the byte extends the current run
      rw [if_pos hkeep]
      refine hnext start (by omega) fun x hx => ?_
      rw [List.drop_append_of_le_length hstart, List.mem_append, List.mem_singleton] at hx
      rcases hx with hx | rfl
      · exact hrun x hx
      · exact hkeep
    rw [if_neg hkeep]
    have hrest : (pre ++ b :: rest).drop (pre.length + 1) = rest := by
      rw [List.drop_append, List.drop_eq_nil_of_le (by omega), List.nil_append,
        Nat.add_sub_cancel_left]
      rfl
    have hdrop : ((pre ++ b :: rest).drop start).filter isFileNameByte =
        pre.drop start ++ ((pre ++ b :: rest).drop (pre.length + 1)).filter isFileNameByte := by
      rw [List.drop_append_of_le_length hstart, List.filter_append, List.filter_eq_self.2 hrun,
        List.filter_cons_of_neg hkeep, hrest]
    by_cases hlt : start < pre.length
    · -- the run `start..index` ends here and is written
      rw [if_pos hlt]
      have hdropne : pre.drop start ≠ [] := by
        rw [Ne, List.drop_eq_nil_iff]
        omega
      have hlast : ∀ x ∈ pre.getLast?, isFileNameByte x = true := by
        intro x hx
        rw [← List.take_append_drop start pre, List.getLast?_append_of_ne_nil _ hdropne] at hx
        exact hrun x (List.mem_of_getLast? hx)
      have hpre : pre ≠ [] := by
        rintro rfl
        simp at hlt
      have hkept : isFileNameByte pre[start] = true :=
        hrun _ (by rw [List.drop_eq_getElem_cons hlt]; exact List.mem_cons_self)
      have hstartB : isCharBoundary (pre ++ b :: rest) start = true :=
        isCharBoundary_of_kept (by simp; omega) (by rw [List.getElem_append_left hlt]; exact hkept)
      have hstopB := isCharBoundary_after_kept hchain hpre hlast
      have hslice : slice (pre ++ b :: rest) start pre.length = some (pre.drop start) := by
        rw [slice, if_pos ⟨hstart, hstartB, hstopB⟩, List.drop_append_of_le_length hstart,
          List.take_append_of_le_length (by simp), List.take_of_length_le (by simp)]
      rw [hslice, hnext (pre.length + 1) (by omega) (by simp)]
      simp only [Option.bind_eq_bind, Option.bind_some, Option.pure_def, hdrop]
    · have hnil : pre.drop start = [] := List.drop_eq_nil_of_le (by omega)
      rw [if_neg hlt, hnext (pre.length + 1) (by omega) (by simp), hdrop, hnil]
      rfl

/-- `write_file_name` never panics, and writes exactly the kept bytes of the name
in their order. -/
theorem write_file_name_filters (fileName : String) :
    writeFileName fileName = some ((asBytes fileName).filter isFileNameByte) :=
  writeFileNameFrom_eq (isChain_asBytes fileName) _ [] 0 rfl le_rfl (by simp)

example : writeFileName "+=!@#$%^&*()\x7b\x7d|:\"<>/?\u000f 老虎 tiger 🐅\r\n\\-_1234567890.rs" =
    some (asBytes "tiger-_1234567890.rs") := by
  decide

/-! ### `write_escaped_str` -/

/-- `need_json_encode`: a byte up to the space, or `"`, `=`, `[` or `]`. -/
def needJsonEncode (bytes : List UInt8) : Bool :=
  bytes.any fun byte => byte ≤ 0x20 || byte == 0x22 || byte == 0x3D || byte == 0x5B || byte == 0x5D

/-- `write_escaped_str`, with `serde_json::to_writer` the encoder `toWriter`. -/
def writeEscapedStr (toWriter : Encoder) (value : String) : List UInt8 :=
  if !needJsonEncode (asBytes value) then asBytes value else toWriter.encode value

/-- `Serializer::emit_arguments` through a `PlainDecorator`: ` [key=value]`, the
leading space from `write_whitespace`. -/
def emitArguments (toWriter : Encoder) (key value : String) : List UInt8 :=
  [0x20, 0x5B] ++ writeEscapedStr toWriter key ++ 0x3D :: writeEscapedStr toWriter value ++ [0x5D]

/-! ### Reading a field back -/

/-- The string of UTF-8 bytes. -/
def decodeBytes (bytes : List UInt8) : Option String := String.fromUTF8? bytes.toByteArray

/-- What a reader makes of an escaped value: a JSON string when it begins with a
quote, otherwise the bytes as they are. -/
def decodeEscaped : List UInt8 → Option String
  | [] => decodeBytes []
  | b :: rest =>
    if b = 0x22 then
      (parseStringBody rest).bind fun (s, r) => if r = [] then decodeBytes s else none
    else decodeBytes (b :: rest)

/-- One side of a field: a JSON string when it begins with a quote, otherwise the
bytes before the first `stop`; and what follows. -/
def readEscaped (stop : UInt8) : List UInt8 → Option (List UInt8 × List UInt8)
  | [] => some ([], [])
  | b :: rest =>
    if b = 0x22 then parseStringBody rest
    else some ((b :: rest).takeWhile (· != stop), (b :: rest).dropWhile (· != stop))

/-- The bytes after the prefix `p`, if they begin with it. -/
def expect (p bytes : List UInt8) : Option (List UInt8) :=
  if p.isPrefixOf bytes then some (bytes.drop p.length) else none

/-- A reader's split of ` [key=value]`: the key, the value, and what follows. -/
def readField (bytes : List UInt8) : Option ((String × String) × List UInt8) := do
  let rest ← expect [0x20, 0x5B] bytes
  let (key, rest) ← readEscaped 0x3D rest
  let rest ← expect [0x3D] rest
  let (value, rest) ← readEscaped 0x5D rest
  let rest ← expect [0x5D] rest
  let key ← decodeBytes key
  let value ← decodeBytes value
  pure ((key, value), rest)

theorem asBytes_eq_utf8 (s : String) : asBytes s = utf8 s := rfl

theorem decodeBytes_asBytes (s : String) : decodeBytes (asBytes s) = some s :=
  fromUTF8?_asBytes s

theorem noDelimiter_of_needJsonEncode {bytes : List UInt8} (h : needJsonEncode bytes = false) :
    ∀ b ∈ bytes, ¬b ≤ 0x20 ∧ b ≠ 0x22 ∧ b ≠ 0x3D ∧ b ≠ 0x5B ∧ b ≠ 0x5D := by
  intro b hb
  have hb' := List.any_eq_false.1 h b hb
  simp only [Bool.or_eq_true, beq_iff_eq, decide_eq_true_eq, not_or] at hb'
  obtain ⟨⟨⟨⟨h1, h2⟩, h3⟩, h4⟩, h5⟩ := hb'
  exact ⟨h1, h2, h3, h4, h5⟩

example : needJsonEncode (asBytes "abc") = false ∧ needJsonEncode (asBytes "a b") = true ∧
    needJsonEncode (asBytes "a=b") = true ∧ needJsonEncode (asBytes "a[b") = true ∧
    needJsonEncode (asBytes "a]b") = true ∧ needJsonEncode (asBytes "\u000f") = true ∧
    needJsonEncode (asBytes "💖") = false ∧ needJsonEncode (asBytes "\u7fff\uffff") = false ∧
    needJsonEncode (asBytes "欢迎") = false ∧ needJsonEncode (asBytes "欢迎 TiKV") = true := by
  decide

section Escaped

variable (toWriter : Encoder)

theorem writeEscapedStr_eq (s : String) :
    (needJsonEncode (asBytes s) = false ∧ writeEscapedStr toWriter s = asBytes s) ∨
      (needJsonEncode (asBytes s) = true ∧ writeEscapedStr toWriter s = toWriter.encode s) := by
  cases h : needJsonEncode (asBytes s) with
  | false => exact .inl ⟨rfl, by simp [writeEscapedStr, h]⟩
  | true => exact .inr ⟨rfl, by simp [writeEscapedStr, h]⟩

/-- A value is written as it is, with no delimiter byte, or as a JSON string of it. -/
theorem writeEscapedStr_cases (s : String) :
    (writeEscapedStr toWriter s = asBytes s ∧
        ∀ b ∈ asBytes s, ¬b ≤ 0x20 ∧ b ≠ 0x22 ∧ b ≠ 0x3D ∧ b ≠ 0x5B ∧ b ≠ 0x5D) ∨
      (∃ body, writeEscapedStr toWriter s = 0x22 :: body ∧
        parseStringBody body = some (asBytes s, [])) := by
  rcases writeEscapedStr_eq toWriter s with ⟨hneed, h⟩ | ⟨-, h⟩
  · exact .inl ⟨h, noDelimiter_of_needJsonEncode hneed⟩
  · rw [h]
    exact .inr (toWriter.literal s)

/-- `write_escaped_str` writes no control byte: a value that holds one is written as a
JSON string, which escapes it. -/
theorem noControl_writeEscapedStr (s : String) : NoControl (writeEscapedStr toWriter s) := by
  rcases writeEscapedStr_eq toWriter s with ⟨hneed, h⟩ | ⟨-, h⟩
  · rw [h]
    intro b hb
    have hgt := (noDelimiter_of_needJsonEncode hneed b hb).1
    rw [UInt8.le_iff_toNat_le] at hgt
    simp only [UInt8.toNat_ofNat] at hgt
    omega
  · rw [h]
    exact toWriter.noControl s

/-- Decoding what `write_escaped_str` wrote gives the value back. -/
theorem decodeEscaped_writeEscapedStr (s : String) :
    decodeEscaped (writeEscapedStr toWriter s) = some s := by
  rcases writeEscapedStr_cases toWriter s with ⟨h, hbytes⟩ | ⟨body, h, hbody⟩
  · rw [h]
    cases hs : asBytes s with
    | nil => rw [decodeEscaped, ← hs, decodeBytes_asBytes]
    | cons b bs =>
      have h22 := (hbytes b (by rw [hs]; exact List.mem_cons_self)).2.1
      rw [decodeEscaped, if_neg h22, ← hs, decodeBytes_asBytes]
  · rw [h, decodeEscaped, if_pos rfl, hbody]
    simp [decodeBytes_asBytes]

theorem writeEscapedStr_injective : Function.Injective (writeEscapedStr toWriter) := by
  intro s t h
  have := decodeEscaped_writeEscapedStr toWriter s
  rw [h, decodeEscaped_writeEscapedStr toWriter t] at this
  exact (Option.some.inj this).symm

theorem takeWhile_dropWhile_stop {stop : UInt8} {l : List UInt8} (rest : List UInt8)
    (h : ∀ b ∈ l, b ≠ stop) :
    (l ++ stop :: rest).takeWhile (· != stop) = l ∧
      (l ++ stop :: rest).dropWhile (· != stop) = stop :: rest := by
  induction l with
  | nil => simp
  | cons a l ih =>
    have ha : (a != stop) = true := by simpa using h a List.mem_cons_self
    obtain ⟨ht, hd⟩ := ih fun b hb => h b (List.mem_cons_of_mem a hb)
    refine ⟨?_, ?_⟩
    · rw [List.cons_append, List.takeWhile_cons_of_pos (p := fun x => x != stop) ha, ht]
    · rw [List.cons_append, List.dropWhile_cons_of_pos (p := fun x => x != stop) ha, hd]

/-- One side of a field is read back up to its delimiter, `=` after a key and `]`
after a value: a JSON string ends at its own closing quote. -/
theorem readEscaped_writeEscapedStr {stop : UInt8} (hstop : stop = 0x3D ∨ stop = 0x5D)
    (s : String) (rest : List UInt8) :
    readEscaped stop (writeEscapedStr toWriter s ++ stop :: rest) = some (asBytes s, stop :: rest) := by
  rcases writeEscapedStr_eq toWriter s with ⟨hneed, h⟩ | ⟨-, h⟩
  · have hbytes := noDelimiter_of_needJsonEncode hneed
    have hne : ∀ b ∈ asBytes s, b ≠ stop := by
      intro b hb
      obtain ⟨-, -, h3D, -, h5D⟩ := hbytes b hb
      rcases hstop with rfl | rfl
      · exact h3D
      · exact h5D
    obtain ⟨ht, hd⟩ := takeWhile_dropWhile_stop rest hne
    rw [h]
    cases hs : asBytes s with
    | nil =>
      have h22 : stop ≠ 0x22 := by rcases hstop with rfl | rfl <;> decide
      simp [readEscaped, h22]
    | cons b bs =>
      have h22 := (hbytes b (by rw [hs]; exact List.mem_cons_self)).2.1
      rw [hs] at ht hd
      rw [List.cons_append, readEscaped, if_neg h22, ← List.cons_append, ht, hd]
  · obtain ⟨body, hbody, hread⟩ := toWriter.read_append s (stop :: rest)
    rw [h, hbody, List.cons_append, readEscaped, if_pos rfl, hread, asBytes_eq_utf8]

theorem expect_cons (b : UInt8) (l : List UInt8) : expect [b] (b :: l) = some l := by
  simp [expect]

theorem readField_emitArguments (key value : String) (rest : List UInt8) :
    readField (emitArguments toWriter key value ++ rest) = some ((key, value), rest) := by
  have hkey := readEscaped_writeEscapedStr toWriter (.inl rfl) key
    (writeEscapedStr toWriter value ++ 0x5D :: rest)
  have hvalue := readEscaped_writeEscapedStr toWriter (.inr rfl) value rest
  have hopen : expect [0x20, 0x5B] (emitArguments toWriter key value ++ rest) =
      some (writeEscapedStr toWriter key ++ 0x3D :: (writeEscapedStr toWriter value ++ 0x5D :: rest)) := by
    simp [emitArguments, expect]
  simp only [readField, hopen, Option.bind_eq_bind, Option.bind_some, hkey, expect_cons, hvalue,
    decodeBytes_asBytes, Option.pure_def]

/-- `write_escaped_str` loses nothing and keeps the delimiters of a field, for any
`serde_json::to_writer` that writes a JSON string literal of its input. A value is
written as its own bytes, none of them a delimiter, or as a JSON string that decodes
to it; a reader gets every value back, so no two values are written alike; and a
field ` [key=value]` splits back into its key and value. -/
theorem escaped_field_round_trip :
    (∀ s : String,
      (writeEscapedStr toWriter s = asBytes s ∧
          ∀ b ∈ asBytes s, ¬b ≤ 0x20 ∧ b ≠ 0x22 ∧ b ≠ 0x3D ∧ b ≠ 0x5B ∧ b ≠ 0x5D) ∨
        ∃ body, writeEscapedStr toWriter s = 0x22 :: body ∧
          parseStringBody body = some (asBytes s, [])) ∧
    (∀ s, decodeEscaped (writeEscapedStr toWriter s) = some s) ∧
    Function.Injective (writeEscapedStr toWriter) ∧
    ∀ key value rest, readField (emitArguments toWriter key value ++ rest) = some ((key, value), rest) :=
  ⟨writeEscapedStr_cases toWriter, decodeEscaped_writeEscapedStr toWriter,
    writeEscapedStr_injective toWriter, readField_emitArguments toWriter⟩

end Escaped

/-- A value holding both delimiters of a field, written by `escapeAll`, splits back. -/
theorem escaped_field_round_trip_on_bracketValue :
    readField (emitArguments escapeAll "tag" "a]=b" ++ []) = some (("tag", "a]=b"), []) :=
  (escaped_field_round_trip escapeAll).2.2.2 "tag" "a]=b" []

end Formatter
