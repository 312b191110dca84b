import ZyxtLexer.Json.Number
import ZyxtLexer.Json.String

/-! Passing over a JSON value of any depth. What still encloses the value is kept in a list of
frames, and each step consumes something. -/
namespace ZyxtLexer.Json

def isBlank (b : UInt8) : Bool := b = ' '.toUInt8 || b = '\n'.toUInt8 || b = '\t'.toUInt8 || b = '\r'.toUInt8

def skipBlanks (bs : Bytes) : Bytes := bs.dropWhile isBlank

theorem length_skipBlanks_le (bs : Bytes) : (skipBlanks bs).length ≤ bs.length :=
  length_dropWhile_le isBlank bs

theorem length_of_skipBlanks {bs r : Bytes} {b : UInt8} (h : skipBlanks bs = b :: r) :
    r.length < bs.length := by
  have := length_skipBlanks_le bs
  rw [h, List.length_cons] at this
  omega

/-- The remaining letters of a word whose first letter has been read. -/
def readWord : List Char → Bytes → Except Fault Bytes
  | [], bs => .ok bs
  | _ :: _, [] => refuse .endInValue .here []
  | c :: cs, b :: r => if b = c.toUInt8 then readWord cs r else refuse .expectedIdent .here r

theorem length_readWord {cs : List Char} {bs r : Bytes} (h : readWord cs bs = .ok r) :
    r.length ≤ bs.length := by
  induction cs generalizing bs with
  | nil => simp_all [readWord]
  | cons c cs ih =>
    cases bs with
    | nil => simp [readWord, refuse] at h
    | cons b s =>
      simp only [readWord] at h
      split at h
      · have := ih h
        simp only [List.length_cons]; omega
      · simp [refuse] at h

def readColon (bs : Bytes) : Except Fault Bytes :=
  match skipBlanks bs with
  | [] => refuse .endInObject .ahead []
  | b :: r => if b = ':'.toUInt8 then .ok r else refuse .expectedColon .ahead (b :: r)

theorem length_readColon {bs r : Bytes} (h : readColon bs = .ok r) : r.length < bs.length := by
  unfold readColon at h
  split at h
  · simp [refuse] at h
  · rename_i hb
    split at h
    · simp only [Except.ok.injEq] at h
      exact h ▸ length_of_skipBlanks hb
    · simp [refuse] at h

/-- Passes over a value that starts with `b` and holds no other values. -/
def skipScalar (b : UInt8) (r : Bytes) : Except Fault Bytes :=
  match Char.ofUInt8 b with
  | 'n' => readWord ['u', 'l', 'l'] r
  | 't' => readWord ['r', 'u', 'e'] r
  | 'f' => readWord ['a', 'l', 's', 'e'] r
  | '-' => skipNumber r
  | '"' => skipString r
  | _ => if isDigit b then skipNumber (b :: r) else refuse .expectedValue .ahead (b :: r)

theorem length_skipScalar {b : UInt8} {r s : Bytes} (h : skipScalar b r = .ok s) :
    s.length ≤ r.length := by
  unfold skipScalar at h
  split at h
  · exact length_readWord h
  · exact length_readWord h
  · exact length_readWord h
  · exact Nat.le_of_lt (length_skipNumber h)
  · exact Nat.le_of_lt (length_skipString h)
  · split at h
    · exact Nat.le_of_lt_succ (length_skipNumber h)
    · simp [refuse] at h

/-- The key of a member, from before its quote to after its colon. -/
def skipKey (bs : Bytes) : Except Fault Bytes :=
  match skipBlanks bs with
  | [] => refuse .endInObject .ahead []
  | b :: r => if b = '"'.toUInt8 then skipString r >>= readColon else refuse .keyMustBeString .ahead (b :: r)

theorem length_skipKey {bs r : Bytes} (h : skipKey bs = .ok r) : r.length < bs.length := by
  unfold skipKey at h
  split at h
  · simp [refuse] at h
  · rename_i hb
    split at h
    · obtain ⟨t, ht, h⟩ := bind_eq_ok.1 h
      have := length_skipString ht
      have := length_readColon h
      have := length_of_skipBlanks hb
      omega
    · simp [refuse] at h

inductive Frame where
  | list
  | object
deriving DecidableEq

namespace Frame

def closer : Frame → UInt8
  | list => ']'.toUInt8
  | object => '}'.toUInt8

def atEnd : Frame → Cause
  | list => .endInList
  | object => .endInObject

def expected : Frame → Cause
  | list => .expectedListCommaOrEnd
  | object => .expectedObjectCommaOrEnd

def skipLabel : Frame → Bytes → Except Fault Bytes
  | list, bs => .ok bs
  | object, bs => skipKey bs

def ofOpener? (b : UInt8) : Option Frame :=
  if b = '['.toUInt8 then some list else if b = '{'.toUInt8 then some object else none

theorem length_skipLabel {f : Frame} {bs r : Bytes} (h : f.skipLabel bs = .ok r) :
    r.length ≤ bs.length := by
  cases f with
  | list => simp_all [skipLabel]
  | object => exact Nat.le_of_lt (length_skipKey h)

end Frame

/-- Passes over what the frames still ask for, innermost first: with `value`, a value to begin
with, and without it what follows one. -/
def skip (value : Bool) (frames : List Frame) (bs : Bytes) : Except Fault Bytes :=
  match value, frames with
  | true, frames =>
    match _hb : skipBlanks bs with
    | [] => refuse .endInValue .ahead []
    | b :: r =>
      match Frame.ofOpener? b with
      | none =>
        match _hs : skipScalar b r with
        | .error fault => .error fault
        | .ok s => skip false frames s
      | some f =>
        match _hc : skipBlanks r with
        | [] => refuse f.atEnd .ahead []
        | c :: s =>
          if c = f.closer then skip false frames s
          else
            match _hl : f.skipLabel (c :: s) with
            | .error fault => .error fault
            | .ok t => skip true (f :: frames) t
  | false, [] => .ok bs
  | false, f :: frames =>
    match _hb : skipBlanks bs with
    | [] => refuse f.atEnd .ahead []
    | b :: r =>
      if b = f.closer then skip false frames r
      else if b = ','.toUInt8 then
        match _hl : f.skipLabel r with
        | .error fault => .error fault
        | .ok t => skip true (f :: frames) t
      else refuse f.expected .ahead (b :: r)
termination_by bs.length
decreasing_by
  all_goals have := length_of_skipBlanks _hb
  · have := length_skipScalar _hs
    omega
  · have := length_of_skipBlanks _hc
    omega
  · have := Frame.length_skipLabel _hl
    have := length_of_skipBlanks _hc
    simp only [List.length_cons] at *
    omega
  · omega
  · have := Frame.length_skipLabel _hl
    omega

def skipValue (bs : Bytes) : Except Fault Bytes := skip true [] bs

theorem length_skip {value : Bool} {frames : List Frame} {bs r : Bytes}
    (h : skip value frames bs = .ok r) : r.length ≤ bs.length := by
  fun_induction skip value frames bs with
  | case1 => simp [refuse] at h
  | case2 => simp at h
  | case3 =>
    rename_i hb _ _ hs ih
    have := ih h
    have := length_of_skipBlanks hb
    have := length_skipScalar hs
    omega
  | case4 => simp [refuse] at h
  | case5 =>
    rename_i hb _ _ _ hc ih
    have := ih h
    have := length_of_skipBlanks hb
    have := length_of_skipBlanks hc
    omega
  | case6 => simp at h
  | case7 =>
    rename_i hb _ _ _ _ hc _ _ hl ih
    have := ih h
    have := length_of_skipBlanks hb
    have := length_of_skipBlanks hc
    have := Frame.length_skipLabel hl
    simp only [List.length_cons] at *
    omega
  | case8 =>
    simp only [Except.ok.injEq] at h
    simp [h]
  | case9 => simp [refuse] at h
  | case10 =>
    rename_i hb ih
    have := ih h
    have := length_of_skipBlanks hb
    omega
  | case11 => simp at h
  | case12 =>
    rename_i hl hb _ ih
    have := ih h
    have := length_of_skipBlanks hb
    have := Frame.length_skipLabel hl
    omega
  | case13 => simp [refuse] at h

theorem length_skipValue {bs r : Bytes} (h : skipValue bs = .ok r) : r.length ≤ bs.length :=
  length_skip h

section Steps
variable {frames : List Frame} {f : Frame} {bs r s : Bytes} {b c : UInt8}

/-- Passes over a value in the frame `f`, with its label, and over what the frames then ask for. -/
def skipItem (f : Frame) (frames : List Frame) (bs : Bytes) : Except Fault Bytes :=
  f.skipLabel bs >>= skip true (f :: frames)

theorem skip_true_of_nil (hb : skipBlanks bs = []) :
    skip true frames bs = refuse .endInValue .ahead [] := by
  rw [skip]
  split
  · rfl
  · rename_i h
    rw [hb] at h
    cases h

theorem skip_false_of_nil (hb : skipBlanks bs = []) :
    skip false (f :: frames) bs = refuse f.atEnd .ahead [] := by
  rw [skip]
  split
  · rfl
  · rename_i h
    rw [hb] at h
    cases h

theorem skip_true_of_cons (hb : skipBlanks bs = b :: r) :
    skip true frames bs =
      match Frame.ofOpener? b with
      | none => skipScalar b r >>= skip false frames
      | some f =>
        match skipBlanks r with
        | [] => refuse f.atEnd .ahead []
        | c :: s => if c = f.closer then skip false frames s else skipItem f frames (c :: s) := by
  rw [skip]
  split <;> rename_i h <;> rw [hb] at h <;> cases h
  cases Frame.ofOpener? b with
  | none =>
    simp only
    split <;> rename_i h <;> rw [h] <;> rfl
  | some f =>
    simp only
    split <;> rename_i h <;> rw [h]
    simp only [skipItem]
    split
    · rfl
    · split <;> rename_i h <;> rw [h] <;> rfl

theorem skip_false_of_cons (hb : skipBlanks bs = b :: r) :
    skip false (f :: frames) bs =
      if b = f.closer then skip false frames r
      else if b = ','.toUInt8 then skipItem f frames r
      else refuse f.expected .ahead (b :: r) := by
  rw [skip]
  split <;> rename_i h <;> rw [hb] at h <;> cases h
  simp only [skipItem]
  split
  · rfl
  · split
    · split <;> rename_i h <;> rw [h] <;> rfl
    · rfl

theorem skip_scalar (hb : skipBlanks bs = b :: r) (ho : Frame.ofOpener? b = none)
    (hs : skipScalar b r = .ok s) : skip true frames bs = skip false frames s := by
  rw [skip_true_of_cons hb, ho, hs]
  rfl

theorem skip_empty (hb : skipBlanks bs = b :: r) (ho : Frame.ofOpener? b = some f)
    (hc : skipBlanks r = f.closer :: s) : skip true frames bs = skip false frames s := by
  simp only [skip_true_of_cons hb, ho, hc, if_true]

theorem skip_full (hb : skipBlanks bs = b :: r) (ho : Frame.ofOpener? b = some f)
    (hc : skipBlanks r = c :: s) (hne : c ≠ f.closer) :
    skip true frames bs = skipItem f frames (c :: s) := by
  simp only [skip_true_of_cons hb, ho, hc, if_neg hne]

end Steps
end ZyxtLexer.Json
