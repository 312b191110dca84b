import ZyxtLexer.Json.Number
import ZyxtLexer.Json.Stream.Basic

/-! Numbers of a JSON text in a stream. Where a number ends is only known from the byte behind it,
which has been looked at then. -/
namespace ZyxtLexer.Json.Stream

def onDigit (s : Stream) : Bool := s.looked.any isDigit

def takeDigits : Bytes → Bytes × Stream
  | [] => ([], fresh [])
  | b :: r => if isDigit b then (b :: (takeDigits r).1, (takeDigits r).2) else ([], ⟨some b, r⟩)

/-- The value of an exponent of which the digits so far are worth `v`, or the bytes behind the
digit at which it no longer fits 31 bits. -/
def readPower (v : Nat) : Bytes → Except Bytes (Nat × Stream)
  | [] => .ok (v, fresh [])
  | b :: r =>
    if isDigit b then
      if v * 10 + digitValue b ≤ maxExponent then readPower (v * 10 + digitValue b) r else .error r
    else .ok (v, ⟨some b, r⟩)

def readScaled (negative : Bool) (v : Nat) (e : Int) (s : Stream) :
    Except Fault (Found × Stream) :=
  match scaled? negative v e with
  | none => refuse .numberOutOfRange s.rest
  | some x => .ok (x, s)

def dropSign (s : Stream) : Stream :=
  if s.look.looked = some '-'.toUInt8 ∨ s.look.looked = some '+'.toUInt8 then fresh s.look.rest
  else s.look

def readExponent (negative : Bool) (v : Nat) (e : Int) (s : Stream) :
    Except Fault (Found × Stream) :=
  let down := s.look.looked = some '-'.toUInt8
  match s.dropSign.next? with
  | none => refuse .endInValue s.dropSign.rest
  | some (b, s) =>
    if isDigit b then
      match readPower (digitValue b) s.rest with
      | .ok (p, s) => readScaled negative v (if down then e - p else e + p) s
      | .error r =>
        if v ≠ 0 ∧ ¬ down then refuse .numberOutOfRange r
        else .ok (.float ⟨negative, 0, 0⟩, (takeDigits r).2)
    else refuse .invalidNumber s.rest

def readScale (negative : Bool) (v : Nat) (e : Int) (s : Stream) : Except Fault (Found × Stream) :=
  if s.looked.any isExponentMark then readExponent negative v e (fresh s.rest)
  else readScaled negative v e s

def readFraction (negative : Bool) (v : Nat) (e : Int) (r : Bytes) :
    Except Fault (Found × Stream) :=
  let (digits, s) := takeDigits r
  match digits, s with
  | [], ⟨none, r⟩ => refuse .endInValue r
  | [], ⟨some _, r⟩ => refuse .invalidNumber r
  | _ :: _, s =>
    let (w, left) := accumulate v digits
    readScale negative w (e - (digits.length - left.length : Nat)) s

def readRest (negative : Bool) (digits : Bytes) (s : Stream) : Except Fault (Found × Stream) :=
  let (v, left) := accumulate 0 digits
  let whole : Except Fault (Found × Stream) :=
    if left ≠ [] ∨ (negative ∧ (v = 0 ∨ maxNegative < v)) then readScaled negative v left.length s
    else .ok (.integer (if negative then -v else v), s)
  match s with
  | ⟨none, _⟩ => whole
  | ⟨some b, r⟩ =>
    if b = '.'.toUInt8 then readFraction negative v left.length r
    else if isExponentMark b then readExponent negative v left.length (fresh r)
    else whole

def readNumber (negative : Bool) (s : Stream) : Except Fault (Found × Stream) :=
  match s.next? with
  | none => refuse .endInValue s.rest
  | some (b, s) =>
    if b = '0'.toUInt8 then
      if s.look.onDigit then refuse .invalidNumber s.look.rest else readRest negative [b] s.look
    else if isDigit b then readRest negative (b :: (takeDigits s.rest).1) (takeDigits s.rest).2
    else refuse .invalidNumber s.rest

def skipExponent (s : Stream) : Except Fault Stream :=
  match s.dropSign.next? with
  | none => refuse .invalidNumber s.dropSign.rest
  | some (b, s) => if isDigit b then .ok (s.dropWhile isDigit) else refuse .invalidNumber s.rest

def skipScale (s : Stream) : Except Fault Stream :=
  if s.looked.any isExponentMark then skipExponent (fresh s.rest) else .ok s

def skipRest (s : Stream) : Except Fault Stream :=
  if s.looked = some '.'.toUInt8 then
    let s := (fresh s.rest).look
    if s.onDigit then skipScale (s.dropWhile isDigit) else refuse .invalidNumber s.rest
  else skipScale s

def skipNumber (s : Stream) : Except Fault Stream :=
  match s.next? with
  | none => refuse .invalidNumber s.rest
  | some (b, s) =>
    if b = '0'.toUInt8 then
      if s.look.onDigit then refuse .invalidNumber s.look.rest else skipRest s.look
    else if isDigit b then skipRest (s.dropWhile isDigit)
    else refuse .invalidNumber s.rest

theorem takeDigits_eq (r : Bytes) :
    takeDigits r = (r.takeWhile isDigit, looking (r.dropWhile isDigit)) := by
  induction r with
  | nil => rfl
  | cons b r ih =>
    rw [takeDigits, ih, List.takeWhile_cons, List.dropWhile_cons]
    split <;> rfl

theorem unread_dropSign (s : Stream) :
    s.dropSign.unread =
      if s.unread.head? = some '-'.toUInt8 ∨ s.unread.head? = some '+'.toUInt8 then s.unread.tail
      else s.unread := by
  have hif : s.dropSign =
      if s.unread.head? = some '-'.toUInt8 ∨ s.unread.head? = some '+'.toUInt8 then
        fresh s.unread.tail
      else looking s.unread := by
    rw [dropSign, look_eq]
    rfl
  rw [hif]
  split
  · rfl
  · exact unread_looking _

theorem readPower_eq (v : Nat) (r : Bytes) :
    readPower v r = match accumulatePower v (r.takeWhile isDigit) with
      | .ok p => .ok (p, looking (r.dropWhile isDigit))
      | .error left => .error (left ++ r.dropWhile isDigit) := by
  induction r generalizing v with
  | nil => rfl
  | cons b r ih =>
    rw [readPower, List.takeWhile_cons, List.dropWhile_cons]
    by_cases hb : isDigit b
    · rw [if_pos hb, if_pos hb, if_pos hb, accumulatePower]
      by_cases hv : v * 10 + digitValue b ≤ maxExponent
      · rw [if_pos hv, if_pos hv, ih]
      · rw [if_neg hv, if_neg hv]
        exact congrArg Except.error List.takeWhile_append_dropWhile.symm
    · rw [if_neg hb, if_neg hb, if_neg hb]
      rfl

/-- Behind the digit at which an exponent becomes too large, its digits end where they do. -/
theorem dropWhile_of_readPower {v : Nat} {r t : Bytes} (h : readPower v r = .error t) :
    t.dropWhile isDigit = r.dropWhile isDigit := by
  induction r generalizing v with
  | nil => cases h
  | cons b r ih =>
    rw [readPower] at h
    by_cases hb : isDigit b
    · rw [if_pos hb] at h
      rw [List.dropWhile_cons, if_pos hb]
      by_cases hv : v * 10 + digitValue b ≤ maxExponent
      · rw [if_pos hv] at h
        exact ih h
      · rw [if_neg hv] at h
        cases h
        rfl
    · rw [if_neg hb] at h
      cases h

theorem agree_readScaled (negative : Bool) (v : Nat) (e : Int) (r : Bytes) :
    Agree (Same Looking) (readScaled negative v e (looking r))
      (Json.readScaled negative v e r) := by
  rw [readScaled, Json.readScaled]
  cases scaled? negative v e with
  | none => exact .seen _ r
  | some x => exact .ok ⟨rfl, rfl⟩

theorem agree_readExponent (negative : Bool) (v : Nat) (e : Int) (s : Stream) :
    Agree (Same Looking) (readExponent negative v e s)
      (Json.readExponent negative v e s.unread) := by
  have hhead : s.look.looked = s.unread.head? := by
    rw [look_eq]
    rfl
  rw [readExponent, Json.readExponent, ← unread_dropSign, hhead]
  refine s.dropSign.agree_next (.here _ []) fun b r => ?_
  refine .ite (fun hb => ?_) fun _ => .here _ _
  have hfirst : accumulatePower 0 (b :: r.takeWhile isDigit) =
      accumulatePower (digitValue b) (r.takeWhile isDigit) := by
    have hsmall : digitValue b ≤ maxExponent :=
      Nat.le_trans (Nat.sub_le _ _) (Nat.le_trans (Nat.le_of_lt b.toNat_lt) (by decide))
    rw [accumulatePower, Nat.zero_mul, Nat.zero_add, if_pos hsmall]
  have hpower := readPower_eq (digitValue b) r
  simp only [fresh, hfirst]
  cases hacc : accumulatePower (digitValue b) (r.takeWhile isDigit) with
  | ok p =>
    rw [hacc] at hpower
    rw [hpower]
    exact agree_readScaled negative v _ _
  | error left =>
    rw [hacc] at hpower
    have hdrop := dropWhile_of_readPower hpower
    rw [hpower]
    refine .ite (fun _ => .here _ _) fun _ => .ok ⟨rfl, ?_⟩
    rw [takeDigits_eq]
    exact congrArg looking hdrop

theorem agree_readScale (negative : Bool) (v : Nat) (e : Int) (r : Bytes) :
    Agree (Same Looking) (readScale negative v e (looking r)) (Json.readScale negative v e r) := by
  cases r with
  | nil => exact agree_readScaled negative v e []
  | cons b r =>
    exact .ite (fun _ => agree_readExponent negative v e (fresh r))
      fun _ => agree_readScaled negative v e (b :: r)

theorem agree_readFraction (negative : Bool) (v : Nat) (e : Int) (r : Bytes) :
    Agree (Same Looking) (readFraction negative v e r) (Json.readFraction negative v e r) := by
  simp only [readFraction, Json.readFraction, takeDigits_eq]
  cases r.takeWhile isDigit with
  | nil =>
    cases r.dropWhile isDigit with
    | nil => exact .ahead _ []
    | cons b t => exact .ahead _ (b :: t)
  | cons d ds => exact agree_readScale negative _ _ _

theorem agree_readRest (negative : Bool) (digits r : Bytes) :
    Agree (Same Looking) (readRest negative digits (looking r))
      (Json.readRest negative digits r) := by
  have hwhole : ∀ (v : Nat) (left : Bytes), Agree (Same Looking)
      (if left ≠ [] ∨ (negative ∧ (v = 0 ∨ maxNegative < v)) then
        readScaled negative v left.length (looking r)
      else .ok (.integer (if negative then -v else v), looking r))
      (if left ≠ [] ∨ (negative ∧ (v = 0 ∨ maxNegative < v)) then
        Json.readScaled negative v left.length r
      else .ok (.integer (if negative then -v else v), r)) :=
    fun v left => .ite (fun _ => agree_readScaled negative v _ r) fun _ => .ok ⟨rfl, rfl⟩
  simp only [readRest, Json.readRest]
  cases r with
  | nil => exact hwhole _ _
  | cons b t =>
    exact .ite (fun _ => agree_readFraction negative _ _ t) fun _ =>
      .ite (fun _ => agree_readExponent negative _ _ (fresh t)) fun _ => hwhole _ _

theorem agree_readNumber (negative : Bool) (s : Stream) :
    Agree (Same Looking) (readNumber negative s) (Json.readNumber negative s.unread) := by
  refine s.agree_next (.here _ []) fun b r => ?_
  simp only [look_eq, takeDigits_eq]
  refine .ite (fun _ => ?_) fun _ =>
    .ite (fun _ => agree_readRest negative _ _) fun _ => .here _ _
  cases r with
  | nil => exact agree_readRest negative [b] []
  | cons c t =>
    exact .ite (fun _ => .ahead _ (c :: t)) fun _ => agree_readRest negative [b] (c :: t)

theorem agree_skipExponent (s : Stream) :
    Agree Looking s.skipExponent (Json.skipExponent s.unread) := by
  rw [Json.skipExponent, ← unread_dropSign]
  exact s.dropSign.agree_next (.here _ []) fun _ r =>
    .ite (fun _ => .ok (dropWhile_eq isDigit (fresh r))) fun _ => .here _ r

theorem agree_skipScale (r : Bytes) :
    Agree Looking (skipScale (looking r)) (Json.skipScale r) := by
  cases r with
  | nil => exact .ok rfl
  | cons b r => exact .ite (fun _ => agree_skipExponent (fresh r)) fun _ => .ok rfl

theorem agree_skipRest (r : Bytes) :
    Agree Looking (skipRest (looking r)) (Json.skipRest r) := by
  cases r with
  | nil => exact .ok rfl
  | cons b r =>
    by_cases hb : b = '.'.toUInt8
    · have hpoint : (looking (b :: r)).looked = some '.'.toUInt8 := congrArg some hb
      rw [skipRest, Json.skipRest, if_pos hpoint, if_pos hb]
      simp only [look_eq, dropWhile_eq, unread_looking]
      cases r with
      | nil => exact .ahead _ []
      | cons c t => exact .ite (fun _ => agree_skipScale _) fun _ => .ahead _ (c :: t)
    · have hpoint : (looking (b :: r)).looked ≠ some '.'.toUInt8 := fun h => hb (Option.some.inj h)
      rw [skipRest, Json.skipRest, if_neg hpoint, if_neg hb]
      exact agree_skipScale (b :: r)

theorem agree_skipNumber (s : Stream) :
    Agree Looking s.skipNumber (Json.skipNumber s.unread) := by
  refine s.agree_next (.here _ []) fun b r => ?_
  simp only [look_eq, dropWhile_eq, unread_fresh]
  refine .ite (fun _ => ?_) fun _ => .ite (fun _ => agree_skipRest _) fun _ => .here _ _
  cases r with
  | nil => exact agree_skipRest []
  | cons c t => exact .ite (fun _ => .ahead _ (c :: t)) fun _ => agree_skipRest (c :: t)

end ZyxtLexer.Json.Stream
