import ZyxtLexer.Pattern.Check
import ZyxtLexer.Text.Offset

/-! A directive of a log filter: `target[span{field=value}]=level`, where any part may be missing.
What it lets through shows in the log alone. Its parts are found in its text without the blanks
around it, but they are taken from the text with these blanks, by the byte offsets found. The value
that a field asks for is a number or else a pattern. -/
namespace ZyxtLexer.LogFilter
open Text

def isDigit (c : Char) : Bool := 0x30 ≤ c.toNat && c.toNat ≤ 0x39

/-- Whether there is an exponent here, or nothing. -/
def isExponent : List Char → Bool
  | [] => true
  | c :: cs =>
    let digits := match cs with
      | '+' :: rest | '-' :: rest => rest
      | _ => cs
    (c == 'e' || c == 'E') && digits != [] && digits.all isDigit

/-- Whether a text is a number: digits with at most one point among them, then perhaps an exponent;
or a word. A sign may stand in front. -/
def isNumber (cs : List Char) : Bool :=
  let size := match cs with
    | '+' :: rest | '-' :: rest => rest
    | _ => cs
  let whole := size.takeWhile isDigit
  let rest := size.dropWhile isDigit
  let lower := size.map Char.toLower
  lower == "inf".toList || lower == "infinity".toList || lower == "nan".toList ||
    match rest with
    | '.' :: rest =>
      (whole != [] || rest.takeWhile isDigit != []) && isExponent (rest.dropWhile isDigit)
    | _ => whole != [] && isExponent rest

/-- What is wrong with the value of a field, if there is a value and anything wrong with it. The
value ends at a second equals sign. -/
def fieldFlaw? (field : List Char) : Option Pattern.Flaw :=
  match field.dropWhile (· != '=') with
  | [] => none
  | _ :: rest =>
    let value := rest.takeWhile (· != '=')
    if isNumber value then none else Pattern.flaw? value

inductive Refusal where
  | form
  | level
  | value (flaw : Pattern.Flaw)
deriving DecidableEq

namespace Refusal

def message : Refusal → String
  | form => "invalid filter directive"
  | level =>
    "error parsing level filter: expected one of \"off\", \"error\", \"warn\", \"info\", " ++
      "\"debug\", \"trace\", or a number 0-5"
  | value .malformed => "invalid field filter: error building NFA"
  | value .wordEdge =>
    "invalid field filter: unsupported regex feature for DFAs: cannot build DFAs for regexes " ++
      "with Unicode word boundaries; switch to ASCII word boundaries, or heuristically enable " ++
      "Unicode word boundaries or use a different regex engine"

end Refusal

inductive Trouble where
  | refused (reason : Refusal)
  /-- A part would begin or end inside a character. -/
  | uncuttable (offset : Nat)
deriving DecidableEq

def between (cs : List Char) (start stop : Nat) : Except Trouble (List Char) :=
  match cutAt? cs start with
  | none => .error (.uncuttable start)
  | some (_, rest) =>
    match cutAt? rest (stop - start) with
    | none => .error (.uncuttable stop)
    | some (part, _) => .ok part

/-- The part `part` of the directive `d` as it is found after `before`. -/
def takePart (d before part : List Char) : Except Trouble (List Char) :=
  between d (byteLength before) (byteLength (before ++ part))

def levelNames : List String := ["off", "error", "warn", "info", "debug", "trace"]

/-- Whether a text is a level: a name in letters of any case, or a number up to five. Without a
level everything is let through. -/
def isLevel (cs : List Char) : Bool :=
  let digits := match cs with
    | '+' :: rest => rest
    | _ => cs
  cs == [] || levelNames.contains (String.ofList (cs.map Char.toLower)) ||
    match digits.reverse with
    | [] => false
    | last :: zeros => 0x30 ≤ last.toNat && last.toNat ≤ 0x35 && zeros.all (· == '0')

/-- Reads what follows a closing bracket, if anything does: an equals sign and the level, which goes
to the end of the directive. -/
def readLevel (d before : List Char) : List Char → Except Trouble Unit
  | [] => .ok ()
  | '=' :: _ => do
    let level ← between d (byteLength (before ++ ['='])) (byteLength d)
    if isLevel level then .ok () else .error (.refused .level)
  | _ => .error (.refused .form)

/-- Reads the fields, which must not be empty, and what follows them. A directive may end at any
point within. -/
def readFields (d before cs : List Char) : Except Trouble Unit :=
  match cs.takeWhile (· != '}'), cs.dropWhile (· != '}') with
  | found, '}' :: rest => do
    let fields ← takePart d before found
    if fields = [] then .error (.refused .form)
    else
      match fieldFlaw? fields, rest with
      | some flaw, _ => .error (.refused (.value flaw))
      | none, ']' :: rest => readLevel d (before ++ found ++ ['}', ']']) rest
      | none, [] => .ok ()
      | none, _ => .error (.refused .form)
  | _, _ => .ok ()

def isSpanChar (c : Char) : Bool := c != ']' && c != '{'

def readSpan (d before cs : List Char) : Except Trouble Unit :=
  match cs.takeWhile isSpanChar, cs.dropWhile isSpanChar with
  | name, ']' :: rest => do
    let _ ← takePart d before name
    readLevel d (before ++ name ++ [']']) rest
  | name, '{' :: rest => do
    let _ ← takePart d before name
    readFields d (before ++ name ++ ['{']) rest
  | _, _ => .ok ()

def isTargetChar (c : Char) : Bool := c != '=' && c != '['

/-- Reads the target with which a directive starts and what follows it. On its own it may be a
level as well. -/
def readTarget (d cs : List Char) : Except Trouble Unit :=
  match cs.takeWhile isTargetChar, cs.dropWhile isTargetChar with
  | target, '=' :: rest => do
    let _ ← takePart d [] target
    readLevel d target ('=' :: rest)
  | target, '[' :: rest => do
    let _ ← takePart d [] target
    readSpan d (target ++ ['[']) rest
  | _, _ => .ok ()

def startsTarget (c : Char) : Bool := c == '-' || c == ':' || c == '_' || isAlphanumeric c

def trim (cs : List Char) : List Char :=
  ((cs.dropWhile isBlank).reverse.dropWhile isBlank).reverse

def readDirective (d : List Char) : Except Trouble Unit :=
  match trim d with
  | [] => .ok ()
  | '[' :: cs => readSpan d ['['] cs
  | c :: cs => if startsTarget c then readTarget d (c :: cs) else .error (.refused .form)

/-- Whether nothing would have been cut inside a character. -/
def IsCuttable (r : Except Trouble Unit) : Prop := ∀ n, r ≠ .error (.uncuttable n)

@[simp] theorem isCuttable_ok : IsCuttable (.ok ()) := by simp [IsCuttable]

@[simp] theorem isCuttable_refused (reason : Refusal) :
    IsCuttable (.error (.refused reason)) := by simp [IsCuttable]

section Cuttable

variable {d before cs part rest : List Char}

theorem between_append : between (before ++ part ++ rest) (byteLength before)
    (byteLength (before ++ part)) = .ok part := by
  simp [between]

theorem exists_between_eq_ok (h : before <+: d) :
    ∃ part, between d (byteLength before) (byteLength d) = .ok part := by
  obtain ⟨part, rfl⟩ := h
  exact ⟨part, by simpa using @between_append before part []⟩

theorem takePart_eq_ok (h : before ++ part <+: d) : takePart d before part = .ok part := by
  obtain ⟨rest, rfl⟩ := h
  exact between_append

theorem append_takeWhile_isPrefix {p : Char → Bool} {c : Char} (h : before ++ cs <+: d)
    (hc : cs.dropWhile p = c :: rest) : before ++ cs.takeWhile p ++ [c] ++ rest <+: d := by
  rw [← List.takeWhile_append_dropWhile (p := p) (l := cs), hc] at h
  simpa using h

theorem isCuttable_readLevel (h : before ++ cs <+: d) : IsCuttable (readLevel d before cs) := by
  unfold readLevel
  split
  · simp
  next rest =>
    have he : before ++ ['='] <+: d := List.IsPrefix.trans (by simp) h
    obtain ⟨part, hp⟩ := exists_between_eq_ok he
    rw [hp]
    simp only [bind, Except.bind]
    split <;> simp
  · simp

theorem isCuttable_readFields (h : before ++ cs <+: d) :
    IsCuttable (readFields d before cs) := by
  unfold readFields
  split
  next rest hd =>
    have hp := append_takeWhile_isPrefix h hd
    rw [takePart_eq_ok (List.IsPrefix.trans (by simp) hp)]
    simp only [bind, Except.bind]
    split
    · simp
    · split
      · simp
      · exact isCuttable_readLevel (by simpa using hp)
      · simp
      · simp
  · simp

theorem isCuttable_readSpan (h : before ++ cs <+: d) : IsCuttable (readSpan d before cs) := by
  unfold readSpan
  split
  next rest hd =>
    have hp := append_takeWhile_isPrefix h hd
    rw [takePart_eq_ok (List.IsPrefix.trans (by simp) hp)]
    exact isCuttable_readLevel hp
  next rest hd =>
    have hp := append_takeWhile_isPrefix h hd
    rw [takePart_eq_ok (List.IsPrefix.trans (by simp) hp)]
    exact isCuttable_readFields hp
  · simp

theorem isCuttable_readTarget (h : cs <+: d) : IsCuttable (readTarget d cs) := by
  unfold readTarget
  split
  next rest hd =>
    have hp := append_takeWhile_isPrefix (show [] ++ cs <+: d from h) hd
    rw [takePart_eq_ok (List.IsPrefix.trans (by simp) hp)]
    exact isCuttable_readLevel (by simpa using hp)
  next rest hd =>
    have hp := append_takeWhile_isPrefix (show [] ++ cs <+: d from h) hd
    rw [takePart_eq_ok (List.IsPrefix.trans (by simp) hp)]
    exact isCuttable_readSpan (by simpa using hp)
  · simp

theorem trim_isPrefix (h : d.dropWhile isBlank = d) : trim d <+: d := by
  rw [trim, h, ← List.reverse_suffix, List.reverse_reverse]
  exact List.dropWhile_suffix _

/-- A directive without blanks in front is never cut inside a character. -/
theorem isCuttable_readDirective (h : d.dropWhile isBlank = d) : IsCuttable (readDirective d) := by
  have ht := trim_isPrefix h
  unfold readDirective
  split
  · simp
  next hd => exact isCuttable_readSpan (by simpa [hd] using ht)
  next hd =>
    split
    · exact isCuttable_readTarget (hd ▸ ht)
    · simp

end Cuttable

end ZyxtLexer.LogFilter
