import ZyxtLexer.Json.Fault

/-! A file that is read as its bytes come. A byte that is only looked at has been taken from the
file all the same, so where a fault is found depends on what has been looked at. What is read does
not: that a stream agrees with the bytes in memory is proved for each reader beside it. -/
namespace ZyxtLexer.Json

structure Stream where
  /-- The byte that has been looked at and not consumed. -/
  looked : Option UInt8
  /-- The bytes that have not been taken from the file. -/
  rest : Bytes
deriving DecidableEq

namespace Stream

def fresh (r : Bytes) : Stream := ⟨none, r⟩

/-- With the next byte looked at, unless there is none. -/
def looking (r : Bytes) : Stream := ⟨r.head?, r.tail⟩

def unread (s : Stream) : Bytes := s.looked.toList ++ s.rest

def refuse {α : Type} (cause : Cause) (r : Bytes) : Except Fault α := Json.refuse cause .here r

def next? : Stream → Option (UInt8 × Stream)
  | ⟨some b, r⟩ => some (b, fresh r)
  | ⟨none, b :: r⟩ => some (b, fresh r)
  | ⟨none, []⟩ => none

def look : Stream → Stream
  | ⟨some b, r⟩ => ⟨some b, r⟩
  | ⟨none, b :: r⟩ => ⟨some b, r⟩
  | ⟨none, []⟩ => ⟨none, []⟩

/-- Takes bytes until one is not in `p`, which has then been looked at. -/
def lookPast (p : UInt8 → Bool) : Bytes → Stream
  | [] => fresh []
  | b :: r => if p b then lookPast p r else ⟨some b, r⟩

def dropWhile (p : UInt8 → Bool) : Stream → Stream
  | ⟨some b, r⟩ => if p b then lookPast p r else ⟨some b, r⟩
  | ⟨none, r⟩ => lookPast p r

@[simp] theorem unread_fresh (r : Bytes) : (fresh r).unread = r := rfl

@[simp] theorem unread_looking (r : Bytes) : (looking r).unread = r := by cases r <;> rfl

theorem next?_eq (s : Stream) :
    s.next? = match s.unread with
      | [] => none
      | b :: r => some (b, fresh r) := by
  obtain ⟨_ | c, _ | ⟨d, t⟩⟩ := s <;> rfl

theorem next?_eq_some {s t : Stream} {b : UInt8} (h : s.next? = some (b, t)) :
    ∃ r, s.unread = b :: r ∧ t = fresh r := by
  rw [next?_eq] at h
  cases hs : s.unread with
  | nil =>
    rw [hs] at h
    cases h
  | cons c r =>
    rw [hs] at h
    cases h
    exact ⟨r, rfl, rfl⟩

theorem next?_eq_none {s : Stream} (h : s.next? = none) : s = fresh [] := by
  obtain ⟨_ | c, _ | ⟨d, t⟩⟩ := s
  · rfl
  all_goals cases h

theorem length_next? {s t : Stream} {b : UInt8} (h : s.next? = some (b, t)) :
    t.unread.length < s.unread.length := by
  obtain ⟨r, hs, rfl⟩ := next?_eq_some h
  rw [hs]
  exact Nat.lt_succ_self _

theorem rest_of_unread_nil {s : Stream} (h : s.unread = []) : s.rest = [] :=
  (List.append_eq_nil_iff.1 h).2

theorem look_eq (s : Stream) : s.look = looking s.unread := by
  obtain ⟨_ | c, _ | ⟨d, t⟩⟩ := s <;> rfl

theorem lookPast_eq (p : UInt8 → Bool) (r : Bytes) : lookPast p r = looking (r.dropWhile p) := by
  induction r with
  | nil => rfl
  | cons b r ih =>
    rw [lookPast, List.dropWhile_cons, ih]
    split <;> rfl

theorem dropWhile_eq (p : UInt8 → Bool) (s : Stream) :
    s.dropWhile p = looking (s.unread.dropWhile p) := by
  obtain ⟨_ | b, r⟩ := s
  · exact lookPast_eq p r
  · have hcons : (Stream.mk (some b) r).unread = b :: r := rfl
    rw [hcons, List.dropWhile_cons, dropWhile, lookPast_eq]
    split <;> rfl

end Stream

/-- How a fault of memory is found in a stream: at the place that has been got to. -/
def Place.inStream : Place → Place
  | .back columns => .back columns
  | .here | .seen | .ahead => .here

def Fault.inStream (f : Fault) : Fault := ⟨f.cause, f.place.inStream, f.left .stream⟩

theorem Fault.position_inStream (f : Fault) (whole : Bytes) :
    f.inStream.position .stream whole = f.position .stream whole := by
  obtain ⟨cause, place, rest⟩ := f
  cases place <;> rfl

/-- A stream and memory agree: both find a value, and `R` holds of what they find, or both find
the same fault. -/
inductive Agree {α β : Type} (R : α → β → Prop) : Except Fault α → Except Fault β → Prop
  | ok {a : α} {b : β} (h : R a b) : Agree R (.ok a) (.ok b)
  | error (f : Fault) : Agree R (.error f.inStream) (.error f)

/-- The value is the same, and `R` holds of what is left to be read. -/
def Same {α : Type} (R : Stream → Bytes → Prop) (p : α × Stream) (q : α × Bytes) : Prop :=
  p.1 = q.1 ∧ R p.2 q.2

def Unread (s : Stream) (r : Bytes) : Prop := s.unread = r

/-- As many bytes have been consumed, and no more have been looked at. -/
def Fresh (s : Stream) (r : Bytes) : Prop := s = .fresh r

/-- As many bytes have been consumed, and one more has been looked at. -/
def Looking (s : Stream) (r : Bytes) : Prop := s = .looking r

section Agreement
variable {α β γ δ : Type} {R : α → β → Prop} {S : γ → δ → Prop} {x : Except Fault α}
  {y : Except Fault β}

theorem Fresh.unread {s : Stream} {r : Bytes} (h : Fresh s r) : Unread s r := by
  rw [Unread, h, Stream.unread_fresh]

theorem Looking.unread {s : Stream} {r : Bytes} (h : Looking s r) : Unread s r := by
  rw [Unread, h, Stream.unread_looking]

namespace Agree

theorem bind (h : Agree R x y) {k : α → Except Fault γ} {l : β → Except Fault δ}
    (hk : ∀ a b, R a b → Agree S (k a) (l b)) : Agree S (x >>= k) (y >>= l) := by
  cases h with
  | ok h => exact hk _ _ h
  | error f => exact .error f

/-- What a value leads to agrees if it does with the same value, `f` saying what the stream has
looked at. -/
theorem bind_value {f : Bytes → Stream} {x : Except Fault (α × Stream)}
    {y : Except Fault (α × Bytes)} (h : Agree (Same fun s r => s = f r) x y)
    {k : α × Stream → Except Fault γ} {l : α × Bytes → Except Fault δ}
    (hk : ∀ a r, Agree S (k (a, f r)) (l (a, r))) : Agree S (x >>= k) (y >>= l) := by
  refine h.bind ?_
  rintro ⟨a, s⟩ ⟨b, r⟩ ⟨ha, hs⟩
  cases ha
  cases hs
  exact hk a r

theorem bind_rest {f : Bytes → Stream} {x : Except Fault Stream} {y : Except Fault Bytes}
    (h : Agree (fun s r => s = f r) x y) {k : Stream → Except Fault γ} {l : Bytes → Except Fault δ}
    (hk : ∀ r, Agree S (k (f r)) (l r)) : Agree S (x >>= k) (y >>= l) :=
  h.bind fun _ r hs => hs ▸ hk r

theorem mono {Q : α → β → Prop} (h : Agree R x y) (hR : ∀ a b, R a b → Q a b) : Agree Q x y := by
  cases h with
  | ok h => exact .ok (hR _ _ h)
  | error f => exact .error f

theorem ite {p : Prop} [Decidable p] {x' : Except Fault α} {y' : Except Fault β}
    (h : p → Agree R x y) (h' : ¬ p → Agree R x' y') :
    Agree R (if p then x else x') (if p then y else y') := by
  by_cases hp : p
  · rw [if_pos hp, if_pos hp]
    exact h hp
  · rw [if_neg hp, if_neg hp]
    exact h' hp

theorem exists_ok (h : Agree R x y) {a : α} (hx : x = .ok a) : ∃ b, y = .ok b ∧ R a b := by
  cases h with
  | ok h =>
    cases hx
    exact ⟨_, rfl, h⟩
  | error => cases hx

theorem exists_error (h : Agree R x y) {f : Fault} (hx : x = .error f) :
    ∃ g, y = .error g ∧ f = g.inStream := by
  cases h with
  | ok => cases hx
  | error g =>
    cases hx
    exact ⟨g, rfl, rfl⟩

theorem here (cause : Cause) (r : Bytes) :
    Agree R (Stream.refuse cause r) (refuse cause .here r) := .error ⟨cause, .here, r⟩

theorem seen (cause : Cause) (r : Bytes) :
    Agree R (Stream.refuse cause r.tail) (refuse cause .seen r) := .error ⟨cause, .seen, r⟩

theorem ahead (cause : Cause) (r : Bytes) :
    Agree R (Stream.refuse cause r.tail) (refuse cause .ahead r) := .error ⟨cause, .ahead, r⟩

end Agree

/-- What depends on the byte that is consumed next agrees if it does at the end and for each
byte. -/
theorem Stream.agree_next (s : Stream) {x : Bytes → Except Fault α} {y : Except Fault β}
    {k : UInt8 → Stream → Except Fault α} {l : UInt8 → Bytes → Except Fault β}
    (hnil : Agree R (x []) y) (hcons : ∀ b r, Agree R (k b (fresh r)) (l b r)) :
    Agree R
      (match s.next? with
        | none => x s.rest
        | some (b, s) => k b s)
      (match s.unread with
        | [] => y
        | b :: r => l b r) := by
  rw [next?_eq]
  cases h : s.unread with
  | nil =>
    rw [rest_of_unread_nil h]
    exact hnil
  | cons b r => exact hcons b r

end Agreement
end ZyxtLexer.Json
