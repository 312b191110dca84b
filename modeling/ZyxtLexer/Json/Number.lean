import ZyxtLexer.Json.Fault

/-! Numbers of a JSON text. A number is read for the sake of the message that it is not what was
expected, and so its value is kept: exactly if it fits 64 bits, and else as a binary64 number. A
number that is passed over may have any size. -/
namespace ZyxtLexer.Json

def isDigit (b : UInt8) : Bool := '0'.toUInt8 ≤ b && b ≤ '9'.toUInt8

def digitValue (b : UInt8) : Nat := b.toNat - '0'.toNat

def startsWithDigit : Bytes → Bool
  | [] => false
  | b :: _ => isDigit b

def maxUnsigned : Nat := 0xffffffffffffffff

def maxNegative : Nat := 0x8000000000000000

def maxExponent : Nat := 0x7fffffff

/-- Takes digits into `v` while the result fits 64 bits, and gives the digits left over. -/
def accumulate (v : Nat) : Bytes → Nat × Bytes
  | [] => (v, [])
  | d :: ds =>
    if v * 10 + digitValue d ≤ maxUnsigned then accumulate (v * 10 + digitValue d) ds else (v, d :: ds)

/-- The value of the digits of an exponent, or the digits after the one at which it no longer
fits 31 bits. -/
def accumulatePower (v : Nat) : Bytes → Except Bytes Nat
  | [] => .ok v
  | d :: ds =>
    if v * 10 + digitValue d ≤ maxExponent then accumulatePower (v * 10 + digitValue d) ds
    else .error ds

/-- The largest power of ten among the binary64 numbers has this exponent. -/
def maxPower : Nat := 308

def powerOfTen (e : Nat) : Float := Float.ofScientific 1 false e

def scaleUp? (f : Float) (e : Nat) : Option Float :=
  if e ≤ maxPower then
    let g := f * powerOfTen e
    if g.isInf then none else some g
  else if f == 0 then some f else none

/-- `f / 10 ^ e`, rounded at each division by the largest power of ten. -/
def scaleDown (f : Float) (e : Nat) : Float :=
  if e ≤ maxPower then f / powerOfTen e
  else if f == 0 then f else scaleDown (f / powerOfTen maxPower) (e - maxPower)
termination_by e
decreasing_by simp only [maxPower] at *; omega

def scaled? (negative : Bool) (v : Nat) (e : Int) : Option Found :=
  let f := (UInt64.ofNat v).toFloat
  match if 0 ≤ e then scaleUp? f e.toNat else some (scaleDown f (-e).toNat) with
  | none => none
  | some g => some (.float (Decimal.ofFloat (if negative then -g else g)))

def readScaled (negative : Bool) (v : Nat) (e : Int) (rest : Bytes) :
    Except Fault (Found × Bytes) :=
  match scaled? negative v e with
  | none => refuse .numberOutOfRange .seen rest
  | some x => .ok (x, rest)

/-- From just after the `e` of an exponent. -/
def readExponent (negative : Bool) (v : Nat) (e : Int) (bs : Bytes) :
    Except Fault (Found × Bytes) :=
  let down := bs.head? = some '-'.toUInt8
  match if down ∨ bs.head? = some '+'.toUInt8 then bs.tail else bs with
  | [] => refuse .endInValue .here []
  | b :: r =>
    if isDigit b then
      let rest := r.dropWhile isDigit
      match accumulatePower 0 (b :: r.takeWhile isDigit) with
      | .ok p => readScaled negative v (if down then e - p else e + p) rest
      | .error left =>
        if v ≠ 0 ∧ ¬ down then refuse .numberOutOfRange .here (left ++ rest)
        else .ok (.float ⟨negative, 0, 0⟩, rest)
    else refuse .invalidNumber .here r

def isExponentMark (b : UInt8) : Bool := b = 'e'.toUInt8 || b = 'E'.toUInt8

def readScale (negative : Bool) (v : Nat) (e : Int) : Bytes → Except Fault (Found × Bytes)
  | [] => readScaled negative v e []
  | b :: r =>
    if isExponentMark b then readExponent negative v e r else readScaled negative v e (b :: r)

/-- From just after the point of a fraction. -/
def readFraction (negative : Bool) (v : Nat) (e : Int) (bs : Bytes) :
    Except Fault (Found × Bytes) :=
  let rest := bs.dropWhile isDigit
  let digits := bs.takeWhile isDigit
  match digits, rest with
  | [], [] => refuse .endInValue .ahead []
  | [], b :: r => refuse .invalidNumber .ahead (b :: r)
  | _ :: _, _ =>
    let (w, left) := accumulate v digits
    readScale negative w (e - (digits.length - left.length : Nat)) rest

def readRest (negative : Bool) (digits rest : Bytes) : Except Fault (Found × Bytes) :=
  let (v, left) := accumulate 0 digits
  let whole : Except Fault (Found × Bytes) :=
    if left ≠ [] ∨ (negative ∧ (v = 0 ∨ maxNegative < v)) then readScaled negative v left.length rest
    else .ok (.integer (if negative then -v else v), rest)
  match rest with
  | [] => whole
  | b :: r =>
    if b = '.'.toUInt8 then readFraction negative v left.length r
    else if isExponentMark b then readExponent negative v left.length r
    else whole

/-- Reads a number, from just after its sign. A leading zero stands alone. -/
def readNumber (negative : Bool) : Bytes → Except Fault (Found × Bytes)
  | [] => refuse .endInValue .here []
  | b :: r =>
    if b = '0'.toUInt8 then
      if startsWithDigit r then refuse .invalidNumber .ahead r else readRest negative [b] r
    else if isDigit b then readRest negative (b :: r.takeWhile isDigit) (r.dropWhile isDigit)
    else refuse .invalidNumber .here r

def skipExponent (bs : Bytes) : Except Fault Bytes :=
  match if bs.head? = some '-'.toUInt8 ∨ bs.head? = some '+'.toUInt8 then bs.tail else bs with
  | [] => refuse .invalidNumber .here []
  | b :: r => if isDigit b then .ok (r.dropWhile isDigit) else refuse .invalidNumber .here r

def skipScale : Bytes → Except Fault Bytes
  | [] => .ok []
  | b :: r => if isExponentMark b then skipExponent r else .ok (b :: r)

def skipRest : Bytes → Except Fault Bytes
  | [] => .ok []
  | b :: r =>
    if b = '.'.toUInt8 then
      if startsWithDigit r then skipScale (r.dropWhile isDigit) else refuse .invalidNumber .ahead r
    else skipScale (b :: r)

def skipNumber : Bytes → Except Fault Bytes
  | [] => refuse .invalidNumber .here []
  | b :: r =>
    if b = '0'.toUInt8 then
      if startsWithDigit r then refuse .invalidNumber .ahead r else skipRest r
    else if isDigit b then skipRest (r.dropWhile isDigit)
    else refuse .invalidNumber .here r

theorem length_dropWhile_le {α : Type} (p : α → Bool) (l : List α) :
    (l.dropWhile p).length ≤ l.length := (List.dropWhile_sublist p).length_le

theorem length_skipExponent {bs r : Bytes} (h : skipExponent bs = .ok r) :
    r.length ≤ bs.length := by
  have hs : (if bs.head? = some '-'.toUInt8 ∨ bs.head? = some '+'.toUInt8 then bs.tail else bs).length
      ≤ bs.length := by split <;> simp
  unfold skipExponent at h
  split at h
  · simp [refuse] at h
  · rename_i b s hb
    rw [hb, List.length_cons] at hs
    split at h
    · simp only [Except.ok.injEq] at h
      have := length_dropWhile_le isDigit s
      rw [← h]; omega
    · simp [refuse] at h

theorem length_skipScale {bs r : Bytes} (h : skipScale bs = .ok r) : r.length ≤ bs.length := by
  cases bs with
  | nil => simp_all [skipScale]
  | cons b s =>
    simp only [skipScale] at h
    split at h
    · have := length_skipExponent h
      simp only [List.length_cons]; omega
    · simp only [Except.ok.injEq] at h
      simp [← h]

theorem length_skipRest {bs r : Bytes} (h : skipRest bs = .ok r) : r.length ≤ bs.length := by
  cases bs with
  | nil => simp_all [skipRest]
  | cons b s =>
    simp only [skipRest] at h
    split at h
    · split at h
      · have := length_skipScale h
        have := length_dropWhile_le isDigit s
        simp only [List.length_cons]; omega
      · simp [refuse] at h
    · exact length_skipScale h

theorem length_skipNumber {bs r : Bytes} (h : skipNumber bs = .ok r) :
    r.length < bs.length := by
  cases bs with
  | nil => simp [skipNumber, refuse] at h
  | cons b s =>
    simp only [skipNumber] at h
    have := length_dropWhile_le isDigit s
    split at h
    · split at h
      · simp [refuse] at h
      · have := length_skipRest h
        simp only [List.length_cons]; omega
    · split at h
      · have := length_skipRest h
        simp only [List.length_cons]; omega
      · simp [refuse] at h

end ZyxtLexer.Json
