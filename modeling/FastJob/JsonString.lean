import Mathlib

/-!
# JSON string literals (RFC 8259, section 7)

A string literal is a quote, a body of characters and escapes, and a closing
quote. `parseStringBody` reads a body after its opening quote, answering the
UTF-8 bytes it stands for and what follows its closing quote; an unescaped
control byte is refused.

An `Encoder` is a writer of string literals known only by its law: for every
string it writes a quote and then a body that reads back to the string's UTF-8
bytes, up to its closing quote. A literal ends at its own closing quote, so
whatever is written after it is left over, and it holds no control byte.
`escapeAll`, which writes every quote, backslash and control byte as a
`\u00XX` escape, meets the law.
-/
namespace JsonString

/-- The UTF-8 bytes of a string. -/
def utf8 (s : String) : List UInt8 := s.toList.flatMap String.utf8EncodeChar

/-- No byte of the list is a control byte. -/
def NoControl (bytes : List UInt8) : Prop := ∀ b ∈ bytes, 0x20 ≤ b.toNat

theorem NoControl.append {l₁ l₂ : List UInt8} (h₁ : NoControl l₁) (h₂ : NoControl l₂) :
    NoControl (l₁ ++ l₂) :=
  List.forall_mem_append.mpr ⟨h₁, h₂⟩

theorem NoControl.cons {b : UInt8} {l : List UInt8} (hb : 0x20 ≤ b.toNat) (h : NoControl l) :
    NoControl (b :: l) :=
  List.forall_mem_cons.mpr ⟨hb, h⟩

theorem noControl_of_all {bytes : List UInt8}
    (h : bytes.all (fun b => decide (0x20 ≤ b.toNat)) = true) : NoControl bytes := by
  simpa [NoControl] using h

/-! ### Reading a body -/

def hexValue (b : UInt8) : Option Nat :=
  if '0'.toUInt8 ≤ b ∧ b ≤ '9'.toUInt8 then some (b - '0'.toUInt8).toNat
  else if 'a'.toUInt8 ≤ b ∧ b ≤ 'f'.toUInt8 then some ((b - 'a'.toUInt8).toNat + 10)
  else if 'A'.toUInt8 ≤ b ∧ b ≤ 'F'.toUInt8 then some ((b - 'A'.toUInt8).toNat + 10)
  else none

/-- The code unit of four hexadecimal digits. -/
def hex4 (a b c d : UInt8) : Option Nat := do
  let a ← hexValue a
  let b ← hexValue b
  let c ← hexValue c
  let d ← hexValue d
  pure (((a * 16 + b) * 16 + c) * 16 + d)

/-- The UTF-8 bytes of a code point; `none` for a surrogate or beyond Unicode. -/
def encodePoint (n : Nat) : Option (List UInt8) :=
  if n.isValidChar then some (String.utf8EncodeChar (Char.ofNat n)) else none

/-- The byte a one-letter escape stands for. -/
def shortEscape (e : UInt8) : Option UInt8 :=
  if e = '"'.toUInt8 ∨ e = '\\'.toUInt8 ∨ e = '/'.toUInt8 then some e
  else if e = 'b'.toUInt8 then some 0x08
  else if e = 'f'.toUInt8 then some 0x0C
  else if e = 'n'.toUInt8 then some 0x0A
  else if e = 'r'.toUInt8 then some 0x0D
  else if e = 't'.toUInt8 then some 0x09
  else none

/-- One step through a body: its closing quote, or the bytes that one character
or escape stands for; with what follows. -/
inductive Piece where
  | close (rest : List UInt8)
  | bytes (bs : List UInt8) (rest : List UInt8)
  deriving DecidableEq, Repr

/-- The piece with `tail` written after what follows it. -/
def Piece.append : Piece → List UInt8 → Piece
  | .close rest, tail => .close (rest ++ tail)
  | .bytes bs rest, tail => .bytes bs (rest ++ tail)

/-- A `\u` escape after its `u`; a high surrogate takes the escape of a low
surrogate after it. -/
def parseUnicode : List UInt8 → Option Piece
  | h1 :: h2 :: h3 :: h4 :: rest => do
    let hi ← hex4 h1 h2 h3 h4
    if 0xD800 ≤ hi ∧ hi < 0xDC00 then
      match rest with
      | s :: u :: l1 :: l2 :: l3 :: l4 :: rest => do
        let lo ← hex4 l1 l2 l3 l4
        if s = 0x5C ∧ u = 'u'.toUInt8 ∧ 0xDC00 ≤ lo ∧ lo < 0xE000 then
          (encodePoint (0x10000 + (hi - 0xD800) * 0x400 + (lo - 0xDC00))).map (.bytes · rest)
        else none
      | _ => none
    else (encodePoint hi).map (.bytes · rest)
  | _ => none

/-- An escape after its backslash. -/
def parseEscape : List UInt8 → Option Piece
  | [] => none
  | e :: rest =>
    if e = 'u'.toUInt8 then parseUnicode rest
    else (shortEscape e).map fun c => .bytes [c] rest

/-- One step through a body; a control byte is refused. -/
def parseChar : List UInt8 → Option Piece
  | [] => none
  | b :: rest =>
    if b = 0x22 then some (.close rest)
    else if b = 0x5C then parseEscape rest
    else if b < 0x20 then none
    else some (.bytes [b] rest)

/-- A body, step by step, for at most `fuel` steps. -/
def parseStringBodyFuel : Nat → List UInt8 → Option (List UInt8 × List UInt8)
  | 0, _ => none
  | fuel + 1, bytes =>
    match parseChar bytes with
    | none => none
    | some (.close rest) => some ([], rest)
    | some (.bytes bs rest) => (parseStringBodyFuel fuel rest).map fun (s, r) => (bs ++ s, r)

/-- The body of a string literal after its opening quote, up to its closing
quote: the bytes it stands for and what follows. Every step takes a byte, so the
length of the input is fuel enough. -/
def parseStringBody (bytes : List UInt8) : Option (List UInt8 × List UInt8) :=
  parseStringBodyFuel bytes.length bytes

/-! ### A literal ends at its closing quote -/

theorem parseUnicode_append {l tail : List UInt8} {p : Piece} (h : parseUnicode l = some p) :
    parseUnicode (l ++ tail) = some (p.append tail) := by
  obtain _ | ⟨h1, _ | ⟨h2, _ | ⟨h3, _ | ⟨h4, rest⟩⟩⟩⟩ := l <;>
    first | (simp [parseUnicode] at h; done) | skip
  simp only [parseUnicode, Option.bind_eq_bind, List.cons_append] at h ⊢
  obtain ⟨hi, hhex, h⟩ := Option.bind_eq_some_iff.mp h
  rw [hhex, Option.bind_some]
  split at h
  · next hsur =>
    rw [if_pos hsur]
    obtain _ | ⟨s, _ | ⟨u, _ | ⟨l1, _ | ⟨l2, _ | ⟨l3, _ | ⟨l4, rest⟩⟩⟩⟩⟩⟩ := rest <;>
      first | (simp at h; done) | skip
    obtain ⟨lo, hlo, h⟩ := Option.bind_eq_some_iff.mp h
    simp only [List.cons_append, hlo, Option.bind_some]
    split at h
    · next hlow =>
      rw [if_pos hlow]
      obtain ⟨bs, hbs, rfl⟩ := Option.map_eq_some_iff.mp h
      simp [hbs, Piece.append]
    · cases h
  · next hsur =>
    rw [if_neg hsur]
    obtain ⟨bs, hbs, rfl⟩ := Option.map_eq_some_iff.mp h
    simp [hbs, Piece.append]

theorem parseEscape_append {l tail : List UInt8} {p : Piece} (h : parseEscape l = some p) :
    parseEscape (l ++ tail) = some (p.append tail) := by
  obtain _ | ⟨e, rest⟩ := l
  · simp [parseEscape] at h
  simp only [parseEscape, List.cons_append] at h ⊢
  split at h
  · next hu => rw [if_pos hu, parseUnicode_append h]
  · next hu =>
    rw [if_neg hu]
    obtain ⟨c, hc, rfl⟩ := Option.map_eq_some_iff.mp h
    simp [hc, Piece.append]

/-- A step reads the same with anything written after its input. -/
theorem parseChar_append {l tail : List UInt8} {p : Piece} (h : parseChar l = some p) :
    parseChar (l ++ tail) = some (p.append tail) := by
  obtain _ | ⟨b, rest⟩ := l
  · simp [parseChar] at h
  simp only [parseChar, List.cons_append] at h ⊢
  split at h
  · next h22 =>
    cases h
    simp [h22, Piece.append]
  · next h22 =>
    rw [if_neg h22]
    split at h
    · next h5C => rw [if_pos h5C, parseEscape_append h]
    · next h5C =>
      rw [if_neg h5C]
      split at h
      · cases h
      · next h20 =>
        cases h
        simp [h20, Piece.append]

theorem parseStringBodyFuel_append {fuel : Nat} {l v r : List UInt8} (tail : List UInt8)
    (h : parseStringBodyFuel fuel l = some (v, r)) :
    parseStringBodyFuel fuel (l ++ tail) = some (v, r ++ tail) := by
  induction fuel generalizing l v r with
  | zero => cases h
  | succ fuel ih =>
    simp only [parseStringBodyFuel] at h ⊢
    split at h
    · cases h
    · next rest hp =>
      cases h
      rw [parseChar_append hp]
      rfl
    · next bs rest hp =>
      rw [parseChar_append hp]
      obtain ⟨⟨s, r'⟩, hs, heq⟩ := Option.map_eq_some_iff.mp h
      cases heq
      simp only [Piece.append, ih hs, Option.map_some]

theorem parseStringBodyFuel_mono {n m : Nat} {l : List UInt8} {x : List UInt8 × List UInt8}
    (h : parseStringBodyFuel n l = some x) (hnm : n ≤ m) : parseStringBodyFuel m l = some x := by
  induction n generalizing m l x with
  | zero => cases h
  | succ n ih =>
    obtain ⟨m, rfl⟩ := Nat.exists_eq_add_one_of_ne_zero (by omega : m ≠ 0)
    simp only [parseStringBodyFuel] at h ⊢
    split at h
    · cases h
    · exact h
    · obtain ⟨y, hy, rfl⟩ := Option.map_eq_some_iff.mp h
      rw [ih hy (by omega), Option.map_some]

/-- A literal's body read with anything after it stops at its own closing quote
and leaves what follows. -/
theorem parseStringBody_append {body v : List UInt8} (h : parseStringBody body = some (v, []))
    (tail : List UInt8) : parseStringBody (body ++ tail) = some (v, tail) := by
  have happ := parseStringBodyFuel_append tail h
  rw [List.nil_append] at happ
  exact parseStringBodyFuel_mono happ (by simp)

/-! ### A literal holds no control byte -/

theorem le_of_hexValue : ∀ b : UInt8, (hexValue b).isSome = true → 0x20 ≤ b.toNat := by
  decide +kernel

theorem le_of_shortEscape : ∀ e : UInt8, (shortEscape e).isSome = true → 0x20 ≤ e.toNat := by
  decide +kernel

theorem noControl_of_hex4 {a b c d : UInt8} {n : Nat} (h : hex4 a b c d = some n) :
    NoControl [a, b, c, d] := by
  simp only [hex4, Option.bind_eq_bind, Option.bind_eq_some_iff] at h
  obtain ⟨_, ha, _, hb, _, hc, _, hd, -⟩ := h
  simp only [NoControl, List.mem_cons, List.not_mem_nil, or_false, forall_eq_or_imp, forall_eq]
  exact ⟨le_of_hexValue a (by simp [ha]), le_of_hexValue b (by simp [hb]),
    le_of_hexValue c (by simp [hc]), le_of_hexValue d (by simp [hd])⟩

theorem parseUnicode_ne_close (l rest : List UInt8) : parseUnicode l ≠ some (.close rest) := by
  intro h
  obtain _ | ⟨h1, _ | ⟨h2, _ | ⟨h3, _ | ⟨h4, rest'⟩⟩⟩⟩ := l <;>
    first | (simp [parseUnicode] at h; done) | skip
  simp only [parseUnicode, Option.bind_eq_bind] at h
  obtain ⟨hi, -, h⟩ := Option.bind_eq_some_iff.mp h
  split at h
  · split at h
    · obtain ⟨lo, -, h⟩ := Option.bind_eq_some_iff.mp h
      split at h
      · obtain ⟨_, -, heq⟩ := Option.map_eq_some_iff.mp h
        cases heq
      · cases h
    · cases h
  · obtain ⟨_, -, heq⟩ := Option.map_eq_some_iff.mp h
    cases heq

/-- Only a quote closes a body. -/
theorem parseChar_close {l rest : List UInt8} (h : parseChar l = some (.close rest)) :
    l = 0x22 :: rest := by
  obtain _ | ⟨b, r⟩ := l
  · simp [parseChar] at h
  simp only [parseChar] at h
  split at h
  · next h22 =>
    cases h
    rw [h22]
  split at h
  · obtain _ | ⟨e, r'⟩ := r
    · simp [parseEscape] at h
    simp only [parseEscape] at h
    split at h
    · exact absurd h (parseUnicode_ne_close _ _)
    · obtain ⟨_, -, heq⟩ := Option.map_eq_some_iff.mp h
      cases heq
  split at h <;> cases h

/-- What a `\u` escape reads holds no control byte. -/
theorem parseUnicode_noControl {l bs rest : List UInt8} (h : parseUnicode l = some (.bytes bs rest)) :
    ∃ c, l = c ++ rest ∧ NoControl c := by
  obtain _ | ⟨h1, _ | ⟨h2, _ | ⟨h3, _ | ⟨h4, rest'⟩⟩⟩⟩ := l <;>
    first | (simp [parseUnicode] at h; done) | skip
  simp only [parseUnicode, Option.bind_eq_bind] at h
  obtain ⟨hi, hhex, h⟩ := Option.bind_eq_some_iff.mp h
  have hfour := noControl_of_hex4 hhex
  split at h
  · obtain _ | ⟨s, _ | ⟨u, _ | ⟨l1, _ | ⟨l2, _ | ⟨l3, _ | ⟨l4, rest''⟩⟩⟩⟩⟩⟩ := rest' <;>
      first | (simp at h; done) | skip
    obtain ⟨lo, hlo, h⟩ := Option.bind_eq_some_iff.mp h
    split at h
    · next hlow =>
      obtain ⟨_, -, heq⟩ := Option.map_eq_some_iff.mp h
      cases heq
      obtain ⟨rfl, rfl, -⟩ := hlow
      refine ⟨[h1, h2, h3, h4, 0x5C, 'u'.toUInt8, l1, l2, l3, l4], rfl, ?_⟩
      exact hfour.append (.cons (by decide) (.cons (by decide) (noControl_of_hex4 hlo)))
    · cases h
  · obtain ⟨_, -, heq⟩ := Option.map_eq_some_iff.mp h
    cases heq
    exact ⟨[h1, h2, h3, h4], rfl, hfour⟩

/-- What a step reads before what follows holds no control byte. -/
theorem parseChar_noControl {l bs rest : List UInt8} (h : parseChar l = some (.bytes bs rest)) :
    ∃ c, l = c ++ rest ∧ NoControl c := by
  obtain _ | ⟨b, r⟩ := l
  · simp [parseChar] at h
  simp only [parseChar] at h
  split at h
  · cases h
  split at h
  · next h5C =>
    obtain _ | ⟨e, r'⟩ := r
    · simp [parseEscape] at h
    simp only [parseEscape] at h
    split at h
    · next hu =>
      obtain ⟨c, hc, hnc⟩ := parseUnicode_noControl h
      refine ⟨b :: e :: c, by rw [hc]; rfl, .cons (by rw [h5C]; decide) (.cons ?_ hnc)⟩
      rw [hu]
      decide
    · obtain ⟨c, hc, heq⟩ := Option.map_eq_some_iff.mp h
      cases heq
      exact ⟨[b, e], rfl, .cons (by rw [h5C]; decide)
        (.cons (le_of_shortEscape e (by simp [hc])) (by simp [NoControl]))⟩
  split at h
  · cases h
  · next h20 =>
    cases h
    refine ⟨[b], rfl, .cons ?_ (by simp [NoControl])⟩
    rw [UInt8.lt_iff_toNat_lt] at h20
    simp only [UInt8.toNat_ofNat] at h20
    omega

/-- A body that reads back holds no control byte before what follows it. -/
theorem parseStringBodyFuel_noControl {fuel : Nat} {l v r : List UInt8}
    (h : parseStringBodyFuel fuel l = some (v, r)) : ∃ c, l = c ++ r ∧ NoControl c := by
  induction fuel generalizing l v r with
  | zero => cases h
  | succ fuel ih =>
    simp only [parseStringBodyFuel] at h
    split at h
    · cases h
    · next rest hp =>
      cases h
      exact ⟨[0x22], parseChar_close hp, .cons (by decide) (by simp [NoControl])⟩
    · next bs rest hp =>
      obtain ⟨c, hc, hnc⟩ := parseChar_noControl hp
      obtain ⟨⟨s, r'⟩, hs, heq⟩ := Option.map_eq_some_iff.mp h
      cases heq
      obtain ⟨c', hc', hnc'⟩ := ih hs
      exact ⟨c ++ c', by rw [hc, hc', List.append_assoc], hnc.append hnc'⟩

/-! ### Encoders -/

/-- A writer of JSON string literals: for every string, a quote and a body that
reads back to the string's UTF-8 bytes, up to its closing quote. -/
structure Encoder where
  encode : String → List UInt8
  literal : ∀ s, ∃ body, encode s = 0x22 :: body ∧ parseStringBody body = some (utf8 s, [])

/-- What an encoder writes reads back to the string, whatever follows it. -/
theorem Encoder.read_append (E : Encoder) (s : String) (tail : List UInt8) :
    ∃ body, E.encode s = 0x22 :: body ∧ parseStringBody (body ++ tail) = some (utf8 s, tail) := by
  obtain ⟨body, hbody, hread⟩ := E.literal s
  exact ⟨body, hbody, parseStringBody_append hread tail⟩

/-- An encoder writes no control byte. -/
theorem Encoder.noControl (E : Encoder) (s : String) : NoControl (E.encode s) := by
  obtain ⟨body, hbody, hread⟩ := E.literal s
  obtain ⟨c, hc, hnc⟩ := parseStringBodyFuel_noControl hread
  rw [List.append_nil] at hc
  rw [hbody, hc]
  exact .cons (by decide) hnc

/-! ### An encoder that escapes every special byte -/

/-- The lower-case hexadecimal digit of a number below 16. -/
def hexDigit (n : Nat) : UInt8 := if n < 10 then (0x30 + n).toUInt8 else (0x57 + n).toUInt8

/-- A byte inside a literal: a quote, a backslash or a control byte as `\u00XX`,
any other byte as it is. -/
def escapeUnit (b : UInt8) : List UInt8 :=
  if b < 0x20 ∨ b = 0x22 ∨ b = 0x5C then
    [0x5C, 'u'.toUInt8, '0'.toUInt8, '0'.toUInt8, hexDigit (b.toNat / 16), hexDigit (b.toNat % 16)]
  else [b]

/-- What `escapeUnit` writes, and what reading it gives. -/
theorem escapeUnit_cases : ∀ b : UInt8,
    (escapeUnit b = [b] ∧ b ≠ 0x22 ∧ b ≠ 0x5C ∧ ¬b < 0x20) ∨
    (escapeUnit b = [0x5C, 'u'.toUInt8, '0'.toUInt8, '0'.toUInt8,
        hexDigit (b.toNat / 16), hexDigit (b.toNat % 16)] ∧
      hex4 '0'.toUInt8 '0'.toUInt8 (hexDigit (b.toNat / 16)) (hexDigit (b.toNat % 16)) =
        some b.toNat ∧
      ¬(0xD800 ≤ b.toNat ∧ b.toNat < 0xDC00) ∧ encodePoint b.toNat = some [b]) := by
  decide +kernel

theorem parseChar_escapeUnit (b : UInt8) (tail : List UInt8) :
    parseChar (escapeUnit b ++ tail) = some (.bytes [b] tail) := by
  rcases escapeUnit_cases b with ⟨h, h22, h5C, h20⟩ | ⟨h, hhex, hsur, henc⟩
  · rw [h, List.singleton_append, parseChar, if_neg h22, if_neg h5C, if_neg h20]
  · have h5C : (0x5C : UInt8) ≠ 0x22 := by decide
    rw [h]
    simp only [List.cons_append, List.nil_append, parseChar, if_neg h5C, if_pos, parseEscape,
      parseUnicode, hhex, Option.bind_eq_bind, Option.bind_some, if_neg hsur, henc, Option.map_some]

theorem parseStringBodyFuel_escapeUnit (bytes tail : List UInt8) (fuel : Nat)
    (hfuel : bytes.length < fuel) :
    parseStringBodyFuel fuel (bytes.flatMap escapeUnit ++ 0x22 :: tail) = some (bytes, tail) := by
  induction bytes generalizing fuel with
  | nil =>
    obtain ⟨fuel, rfl⟩ := Nat.exists_eq_add_one_of_ne_zero (Nat.ne_zero_of_lt hfuel)
    simp [parseStringBodyFuel, parseChar]
  | cons b bytes ih =>
    obtain ⟨fuel, rfl⟩ := Nat.exists_eq_add_one_of_ne_zero (Nat.ne_zero_of_lt hfuel)
    simp only [List.length_cons, Nat.add_lt_add_iff_right] at hfuel
    rw [List.flatMap_cons, List.append_assoc, parseStringBodyFuel, parseChar_escapeUnit]
    simp only [ih fuel hfuel, Option.map_some, List.singleton_append]

/-- Pieces none of which is empty flatten to at least one element per piece. -/
theorem length_le_length_flatMap {α β : Type} {l : List α} {f : α → List β}
    (h : ∀ x ∈ l, f x ≠ []) : l.length ≤ (l.flatMap f).length := by
  rw [List.length_flatMap]
  have hone : ∀ n ∈ l.map fun a => (f a).length, 1 ≤ n := by
    simpa [Nat.one_le_iff_ne_zero] using h
  simpa using List.length_le_sum_of_one_le _ hone

/-- The literal of `escapeAll`: the escaped bytes between quotes. -/
def quoteAll (s : String) : List UInt8 := 0x22 :: ((utf8 s).flatMap escapeUnit ++ [0x22])

theorem quoteAll_literal (s : String) :
    ∃ body, quoteAll s = 0x22 :: body ∧ parseStringBody body = some (utf8 s, []) := by
  refine ⟨_, rfl, parseStringBodyFuel_escapeUnit _ [] _ ?_⟩
  have := length_le_length_flatMap (l := utf8 s) (f := escapeUnit) fun b _ => by
    rcases escapeUnit_cases b with ⟨h, -⟩ | ⟨h, -⟩ <;> simp [h]
  simp only [List.length_append, List.length_singleton]
  omega

/-- An encoder that writes every quote, backslash and control byte as `\u00XX`. -/
def escapeAll : Encoder := ⟨quoteAll, quoteAll_literal⟩

end JsonString
