import ZyxtLexer.Json.Fault

/-! Strings of a JSON text, from just after the opening quote to just after the closing one. A
string that is wanted is decoded; one that is passed over is only checked for its end. -/
namespace ZyxtLexer.Json

def hexDigit? (b : UInt8) : Option Nat :=
  if '0'.toUInt8 ≤ b ∧ b ≤ '9'.toUInt8 then some (b.toNat - '0'.toNat)
  else if 'A'.toUInt8 ≤ b ∧ b ≤ 'F'.toUInt8 then some (b.toNat - 'A'.toNat + 10)
  else if 'a'.toUInt8 ≤ b ∧ b ≤ 'f'.toUInt8 then some (b.toNat - 'a'.toNat + 10)
  else none

def hexValue? (a b c d : UInt8) : Option Nat := do
  let a ← hexDigit? a
  let b ← hexDigit? b
  let c ← hexDigit? c
  let d ← hexDigit? d
  return ((a * 16 + b) * 16 + c) * 16 + d

/-- The four digits of an escape. All four are taken before any is judged. -/
def readUnit : Bytes → Except Fault (Nat × Bytes)
  | a :: b :: c :: d :: r =>
    match hexValue? a b c d with
    | some n => .ok (n, r)
    | none => refuse .invalidEscape .here r
  | _ => refuse .endInString .here []

/-- The byte that must follow the first half of a surrogate pair. -/
def expectByte (b : UInt8) : Bytes → Except Fault Bytes
  | [] => refuse .endInString .here []
  | c :: r => if c = b then .ok r else refuse .missingSurrogate .here r

def isHighSurrogate (n : Nat) : Bool := 0xd800 ≤ n && n ≤ 0xdbff

def isLowSurrogate (n : Nat) : Bool := 0xdc00 ≤ n && n ≤ 0xdfff

def paired (high low : Nat) : Nat := 0x10000 + (high - 0xd800) * 0x400 + (low - 0xdc00)

/-- The code point of an escape, from just after its `u`; one beyond `U+FFFF` is written as two
units. -/
def readCodePoint (bs : Bytes) : Except Fault (Nat × Bytes) := do
  let (n, bs) ← readUnit bs
  if isLowSurrogate n then refuse .unpairedSurrogate .here bs
  else if isHighSurrogate n then
    let bs ← expectByte '\\'.toUInt8 bs
    let bs ← expectByte 'u'.toUInt8 bs
    let (m, bs) ← readUnit bs
    if isLowSurrogate m then return (paired n m, bs)
    else refuse .unpairedSurrogate .here bs
  else return (n, bs)

def shortEscape? (b : UInt8) : Option UInt8 :=
  match Char.ofUInt8 b with
  | '"' | '\\' | '/' => some b
  | 'b' => some 8
  | 'f' => some 12
  | 'n' => some 10
  | 'r' => some 13
  | 't' => some 9
  | _ => none

/-- The bytes that an escape stands for, from just after its backslash. -/
def readEscape : Bytes → Except Fault (Bytes × Bytes)
  | [] => refuse .endInString .here []
  | b :: r =>
    match shortEscape? b with
    | some e => .ok ([e], r)
    | none =>
      if b = 'u'.toUInt8 then do
        let (n, r) ← readCodePoint r
        return (String.utf8EncodeChar (Char.ofNat n), r)
      else refuse .invalidEscape .here r

/-- Passes over an escape, from just after its backslash. Surrogates need no partner. -/
def skipEscape : Bytes → Except Fault Bytes
  | [] => refuse .endInString .here []
  | b :: r =>
    if (shortEscape? b).isSome then .ok r
    else if b = 'u'.toUInt8 then do
      let (_, r) ← readUnit r
      return r
    else refuse .invalidEscape .here r

theorem length_readUnit {bs r : Bytes} {n : Nat} (h : readUnit bs = .ok (n, r)) :
    r.length < bs.length := by
  match bs with
  | a :: b :: c :: d :: s =>
    simp only [readUnit] at h
    split at h
    · simp only [Except.ok.injEq, Prod.mk.injEq] at h
      simp [← h.2]; omega
    · simp [refuse] at h
  | [] | [_] | [_, _] | [_, _, _] => simp [readUnit, refuse] at h

theorem length_expectByte {b : UInt8} {bs r : Bytes} (h : expectByte b bs = .ok r) :
    r.length < bs.length := by
  cases bs with
  | nil => simp [expectByte, refuse] at h
  | cons c s =>
    simp only [expectByte] at h
    split at h
    · simp only [Except.ok.injEq] at h; simp [h]
    · simp [refuse] at h

theorem length_readCodePoint {bs r : Bytes} {n : Nat} (h : readCodePoint bs = .ok (n, r)) :
    r.length < bs.length := by
  obtain ⟨⟨m, s⟩, hm, h⟩ := bind_eq_ok.1 h
  have := length_readUnit hm
  simp only at h
  split at h
  · simp [refuse] at h
  · split at h
    · obtain ⟨t, ht, h⟩ := bind_eq_ok.1 h
      obtain ⟨u, hu, h⟩ := bind_eq_ok.1 h
      obtain ⟨⟨l, v⟩, hl, h⟩ := bind_eq_ok.1 h
      have := length_expectByte ht
      have := length_expectByte hu
      have := length_readUnit hl
      simp only at h
      split at h
      · simp only [pure, Except.pure, Except.ok.injEq, Prod.mk.injEq] at h
        obtain ⟨_, rfl⟩ := h
        omega
      · simp [refuse] at h
    · simp only [pure, Except.pure, Except.ok.injEq, Prod.mk.injEq] at h
      obtain ⟨_, rfl⟩ := h
      omega

theorem length_readEscape {bs e r : Bytes} (h : readEscape bs = .ok (e, r)) :
    r.length < bs.length := by
  cases bs with
  | nil => simp [readEscape, refuse] at h
  | cons b s =>
    simp only [readEscape] at h
    split at h
    · simp only [Except.ok.injEq, Prod.mk.injEq] at h
      simp [h.2]
    · split at h
      · obtain ⟨⟨n, t⟩, hn, h⟩ := bind_eq_ok.1 h
        have := length_readCodePoint hn
        simp only [pure, Except.pure, Except.ok.injEq, Prod.mk.injEq] at h
        simp only [List.length_cons, ← h.2]
        omega
      · simp [refuse] at h

theorem length_skipEscape {bs r : Bytes} (h : skipEscape bs = .ok r) : r.length < bs.length := by
  cases bs with
  | nil => simp [skipEscape, refuse] at h
  | cons b s =>
    simp only [skipEscape] at h
    split at h
    · simp only [Except.ok.injEq] at h
      simp [h]
    · split at h
      · obtain ⟨⟨n, t⟩, hn, h⟩ := bind_eq_ok.1 h
        have := length_readUnit hn
        simp only [pure, Except.pure, Except.ok.injEq] at h
        simp only [List.length_cons, ← h]
        omega
      · simp [refuse] at h

/-- The bytes of a string with its escapes decoded; `done` holds the latest of them first. -/
def readBytes (done : Bytes) : Bytes → Except Fault (Bytes × Bytes)
  | [] => refuse .endInString .here []
  | b :: r =>
    if b = '"'.toUInt8 then .ok (done.reverse, r)
    else if b = '\\'.toUInt8 then
      match _h : readEscape r with
      | .error fault => .error fault
      | .ok (e, r') => readBytes (e.reverse ++ done) r'
    else if b < 32 then refuse .controlCharacter .here r
    else readBytes (b :: done) r
termination_by bs => bs.length
decreasing_by
  · have := length_readEscape _h
    simp only [List.length_cons]; omega
  · simp

theorem readBytes_backslash (done r : Bytes) :
    readBytes done ('\\'.toUInt8 :: r) =
      readEscape r >>= fun p => readBytes (p.1.reverse ++ done) p.2 := by
  rw [readBytes, if_neg (by decide), if_pos rfl]
  split <;> rename_i h <;> rw [h] <;> rfl

theorem length_readBytes {done bs s r : Bytes} (h : readBytes done bs = .ok (s, r)) :
    r.length < bs.length := by
  fun_induction readBytes done bs with
  | case1 => simp [refuse] at h
  | case2 =>
    simp only [Except.ok.injEq, Prod.mk.injEq] at h
    simp [h.2]
  | case3 => simp at h
  | case4 =>
    rename_i he _ ih
    have := ih h
    have := length_readEscape he
    simp only [List.length_cons]; omega
  | case5 => simp [refuse] at h
  | case6 done b r _ _ _ ih =>
    have := ih h
    simp only [List.length_cons]; omega

/-- Passes over a string. The control character that ends it early is looked at, not taken. -/
def skipString : Bytes → Except Fault Bytes
  | [] => refuse .endInString .here []
  | b :: r =>
    if b = '"'.toUInt8 then .ok r
    else if b = '\\'.toUInt8 then
      match _h : skipEscape r with
      | .error fault => .error fault
      | .ok r' => skipString r'
    else if b < 32 then refuse .controlCharacter .seen (b :: r)
    else skipString r
termination_by bs => bs.length
decreasing_by
  · have := length_skipEscape _h
    simp only [List.length_cons]; omega
  · simp

theorem skipString_backslash (r : Bytes) :
    skipString ('\\'.toUInt8 :: r) = skipEscape r >>= skipString := by
  rw [skipString, if_neg (by decide), if_pos rfl]
  split <;> rename_i h <;> rw [h] <;> rfl

theorem length_skipString {bs r : Bytes} (h : skipString bs = .ok r) : r.length < bs.length := by
  fun_induction skipString bs with
  | case1 => simp [refuse] at h
  | case2 =>
    simp only [Except.ok.injEq] at h
    simp [h]
  | case3 => simp at h
  | case4 =>
    rename_i he _ ih
    have := ih h
    have := length_skipEscape he
    simp only [List.length_cons]; omega
  | case5 => simp [refuse] at h
  | case6 b r _ _ _ ih =>
    have := ih h
    simp only [List.length_cons]; omega

/-- How many bytes, from `i` on, make up whole characters. -/
def validUpTo (bytes : ByteArray) (i : Nat) : Nat :=
  match _h : bytes.utf8DecodeChar? i with
  | none => i
  | some c => validUpTo bytes (i + c.utf8Size)
termination_by bytes.size - i
decreasing_by
  have := ByteArray.le_size_of_utf8DecodeChar?_eq_some _h
  have := c.utf8Size_pos
  omega

/-- The text that decoded bytes stand for. What does not, is reported as many columns back as
there are bytes from the first that is no character. -/
def decodeText (decoded rest : Bytes) : Except Fault String :=
  match String.fromUTF8? decoded.toByteArray with
  | some s => .ok s
  | none => refuse .invalidCodePoint (.back (decoded.length - validUpTo decoded.toByteArray 0)) rest

def readText (bs : Bytes) : Except Fault (String × Bytes) := do
  let (decoded, rest) ← readBytes [] bs
  let s ← decodeText decoded rest
  return (s, rest)

theorem length_readText {bs r : Bytes} {s : String} (h : readText bs = .ok (s, r)) :
    r.length < bs.length := by
  obtain ⟨⟨d, t⟩, hd, h⟩ := bind_eq_ok.1 h
  obtain ⟨u, _, h⟩ := bind_eq_ok.1 h
  simp only [pure, Except.pure, Except.ok.injEq, Prod.mk.injEq] at h
  exact h.2 ▸ length_readBytes hd

end ZyxtLexer.Json
