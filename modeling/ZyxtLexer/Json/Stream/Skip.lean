import ZyxtLexer.Json.Skip
import ZyxtLexer.Json.Stream.Number
import ZyxtLexer.Json.Stream.String

/-! Passing over a JSON value in a stream. Between the tokens of a value the byte that comes next
has been looked at. -/
namespace ZyxtLexer.Json.Stream

/-- Consumes blanks, and looks at what follows them. -/
def skipBlanks (s : Stream) : Stream := s.dropWhile isBlank

def readWord : List Char → Stream → Except Fault Stream
  | [], s => .ok s
  | c :: cs, s =>
    match s.next? with
    | none => refuse .endInValue s.rest
    | some (b, s) => if b = c.toUInt8 then readWord cs s else refuse .expectedIdent s.rest

def readColon (s : Stream) : Except Fault Stream :=
  match s.skipBlanks with
  | ⟨none, r⟩ => refuse .endInObject r
  | ⟨some b, r⟩ => if b = ':'.toUInt8 then .ok (fresh r) else refuse .expectedColon r

/-- Passes over a value that holds no other values. Its first byte `b` has been looked at, and the
bytes `r` follow it. -/
def skipScalar (b : UInt8) (r : Bytes) : Except Fault Stream :=
  match Char.ofUInt8 b with
  | 'n' => (fresh r).readWord ['u', 'l', 'l']
  | 't' => (fresh r).readWord ['r', 'u', 'e']
  | 'f' => (fresh r).readWord ['a', 'l', 's', 'e']
  | '-' => (fresh r).skipNumber
  | '"' => (fresh r).skipString
  | _ => if isDigit b then skipNumber ⟨some b, r⟩ else refuse .expectedValue r

def skipKey (s : Stream) : Except Fault Stream :=
  match s.skipBlanks with
  | ⟨none, r⟩ => refuse .endInObject r
  | ⟨some b, r⟩ =>
    if b = '"'.toUInt8 then (fresh r).skipString >>= readColon else refuse .keyMustBeString r

def skipLabel : Frame → Stream → Except Fault Stream
  | .list, s => .ok s
  | .object, s => s.skipKey

theorem skipBlanks_eq (s : Stream) : s.skipBlanks = looking (Json.skipBlanks s.unread) :=
  dropWhile_eq isBlank s

theorem unread_skipBlanks (s : Stream) : s.skipBlanks.unread = Json.skipBlanks s.unread := by
  rw [skipBlanks_eq, unread_looking]

theorem agree_readWord (cs : List Char) (r : Bytes) :
    Agree Fresh ((fresh r).readWord cs) (Json.readWord cs r) := by
  induction cs generalizing r with
  | nil => exact .ok rfl
  | cons c cs ih =>
    cases r with
    | nil => exact .here _ _
    | cons b r => exact .ite (fun _ => ih r) fun _ => .here _ _

/-- What depends on the byte that comes next agrees if it does at the end and for each byte. -/
theorem agree_blanks {α β : Type} {R : α → β → Prop} (s : Stream) {x : Bytes → Except Fault α}
    {y : Except Fault β} {k : UInt8 → Bytes → Except Fault α} {l : UInt8 → Bytes → Except Fault β}
    (hnil : Agree R (x []) y) (hcons : ∀ b r, Agree R (k b r) (l b r)) :
    Agree R
      (match s.skipBlanks with
        | ⟨none, r⟩ => x r
        | ⟨some b, r⟩ => k b r)
      (match Json.skipBlanks s.unread with
        | [] => y
        | b :: r => l b r) := by
  rw [skipBlanks_eq]
  cases Json.skipBlanks s.unread with
  | nil => exact hnil
  | cons b r => exact hcons b r

theorem agree_readColon (s : Stream) : Agree Fresh s.readColon (Json.readColon s.unread) :=
  agree_blanks s (.ahead _ []) fun b r => .ite (fun _ => .ok rfl) fun _ => .ahead _ (b :: r)

theorem agree_skipScalar (b : UInt8) (r : Bytes) :
    Agree Unread (skipScalar b r) (Json.skipScalar b r) := by
  have hword : ∀ cs, Agree Unread ((fresh r).readWord cs) (Json.readWord cs r) :=
    fun cs => (agree_readWord cs r).mono fun _ _ => Fresh.unread
  rw [skipScalar, Json.skipScalar]
  generalize Char.ofUInt8 b = c
  split
  · exact hword _
  · exact hword _
  · exact hword _
  · exact (agree_skipNumber (fresh r)).mono fun _ _ => Looking.unread
  · exact (agree_skipString (fresh r)).mono fun _ _ => Fresh.unread
  · simp only [imp_false] at *
    refine .ite (fun _ => ?_) fun _ => .ahead _ (b :: r)
    exact (agree_skipNumber ⟨some b, r⟩).mono fun _ _ => Looking.unread

theorem agree_skipKey (s : Stream) : Agree Fresh s.skipKey (Json.skipKey s.unread) := by
  refine agree_blanks s (.ahead _ []) fun b r => .ite (fun _ => ?_) fun _ => .ahead _ (b :: r)
  exact (agree_skipString (fresh r)).bind_rest fun t => agree_readColon (fresh t)

theorem agree_skipLabel (f : Frame) (s : Stream) :
    Agree Unread (skipLabel f s) (f.skipLabel s.unread) := by
  cases f with
  | list => exact .ok rfl
  | object => exact (agree_skipKey s).mono fun _ _ => Fresh.unread

theorem skipBlanks_eq_none {s : Stream} {r : Bytes} (h : s.skipBlanks = ⟨none, r⟩) :
    Json.skipBlanks s.unread = [] ∧ r = [] := by
  rw [skipBlanks_eq] at h
  cases hs : Json.skipBlanks s.unread with
  | nil =>
    rw [hs] at h
    cases h
    exact ⟨rfl, rfl⟩
  | cons b t =>
    rw [hs] at h
    cases h

theorem skipBlanks_eq_some {s : Stream} {b : UInt8} {r : Bytes} (h : s.skipBlanks = ⟨some b, r⟩) :
    Json.skipBlanks s.unread = b :: r := by
  rw [← unread_skipBlanks, h]
  rfl

theorem length_of_skipBlanks {s : Stream} {b : UInt8} {r : Bytes} (h : s.skipBlanks = ⟨some b, r⟩) :
    r.length < s.unread.length :=
  Json.length_of_skipBlanks (skipBlanks_eq_some h)

theorem length_skipScalar {b : UInt8} {r : Bytes} {s : Stream} (h : skipScalar b r = .ok s) :
    s.unread.length ≤ r.length := by
  obtain ⟨t, ht, rfl⟩ := (agree_skipScalar b r).exists_ok h
  exact Json.length_skipScalar ht

theorem length_skipLabel {f : Frame} {s t : Stream} (h : skipLabel f s = .ok t) :
    t.unread.length ≤ s.unread.length := by
  obtain ⟨r, hr, rfl⟩ := (agree_skipLabel f s).exists_ok h
  exact Frame.length_skipLabel hr

def skip (value : Bool) (frames : List Frame) (s : Stream) : Except Fault Stream :=
  match value, frames with
  | true, frames =>
    match _hb : s.skipBlanks with
    | ⟨none, r⟩ => refuse .endInValue r
    | ⟨some b, r⟩ =>
      match Frame.ofOpener? b with
      | none =>
        match _hs : skipScalar b r with
        | .error fault => .error fault
        | .ok t => skip false frames t
      | some f =>
        match _hc : (fresh r).skipBlanks with
        | ⟨none, r⟩ => refuse f.atEnd r
        | ⟨some c, r⟩ =>
          if c = f.closer then skip false frames (fresh r)
          else
            match _hl : skipLabel f ⟨some c, r⟩ with
            | .error fault => .error fault
            | .ok t => skip true (f :: frames) t
  | false, [] => .ok s
  | false, f :: frames =>
    match _hb : s.skipBlanks with
    | ⟨none, r⟩ => refuse f.atEnd r
    | ⟨some b, r⟩ =>
      if b = f.closer then skip false frames (fresh r)
      else if b = ','.toUInt8 then
        match _hl : skipLabel f (fresh r) with
        | .error fault => .error fault
        | .ok t => skip true (f :: frames) t
      else refuse f.expected r
termination_by s.unread.length
decreasing_by
  all_goals have hlt := length_of_skipBlanks _hb
  · exact Nat.lt_of_le_of_lt (length_skipScalar _hs) hlt
  · exact Nat.lt_trans (length_of_skipBlanks _hc) hlt
  · -- What has been looked at here is the byte behind the opener of the frame.
    have hle := length_skipLabel _hl
    have hopener := length_of_skipBlanks _hc
    simp only [unread, fresh, Option.toList_some, Option.toList_none, List.cons_append,
      List.nil_append, List.length_cons] at hle hopener hlt ⊢
    omega
  · exact hlt
  · exact Nat.lt_of_le_of_lt (length_skipLabel _hl) hlt

def skipValue (s : Stream) : Except Fault Stream := skip true [] s

theorem agree_skip (value : Bool) (frames : List Frame) (s : Stream) :
    Agree Unread (skip value frames s) (Json.skip value frames s.unread) := by
  fun_induction skip value frames s with
  | case1 s frames r hb =>
    obtain ⟨hb', rfl⟩ := skipBlanks_eq_none hb
    rw [skip_true_of_nil hb']
    exact .ahead _ []
  | case2 s frames b r hb ho fault hs =>
    obtain ⟨f, hf, rfl⟩ := (agree_skipScalar b r).exists_error hs
    rw [skip_true_of_cons (skipBlanks_eq_some hb), ho, hf]
    exact .error f
  | case3 s frames b r hb ho t hs ih =>
    obtain ⟨t', ht, rfl⟩ := (agree_skipScalar b r).exists_ok hs
    rw [skip_scalar (skipBlanks_eq_some hb) ho ht]
    exact ih
  | case4 s frames b r hb f ho t hc =>
    obtain ⟨hc', rfl⟩ := skipBlanks_eq_none hc
    rw [unread_fresh] at hc'
    rw [skip_true_of_cons (skipBlanks_eq_some hb), ho, hc']
    exact .ahead _ []
  | case5 s frames b r hb f ho t hc ih =>
    rw [skip_empty (skipBlanks_eq_some hb) ho (skipBlanks_eq_some hc)]
    exact ih
  | case6 s frames b r hb f ho c t hc hne fault hl =>
    obtain ⟨g, hg, rfl⟩ := (agree_skipLabel f ⟨some c, t⟩).exists_error hl
    rw [skip_full (skipBlanks_eq_some hb) ho (skipBlanks_eq_some hc) hne, skipItem]
    rw [show f.skipLabel (c :: t) = .error g from hg]
    exact .error g
  | case7 s frames b r hb f ho c t hc hne u hl ih =>
    obtain ⟨r', hr, rfl⟩ := (agree_skipLabel f ⟨some c, t⟩).exists_ok hl
    rw [skip_full (skipBlanks_eq_some hb) ho (skipBlanks_eq_some hc) hne, skipItem]
    rw [show f.skipLabel (c :: t) = .ok u.unread from hr]
    exact ih
  | case8 s =>
    rw [Json.skip]
    exact .ok rfl
  | case9 s f frames r hb =>
    obtain ⟨hb', rfl⟩ := skipBlanks_eq_none hb
    rw [skip_false_of_nil hb']
    exact .ahead _ []
  | case10 s f frames r hb ih =>
    rw [skip_false_of_cons (skipBlanks_eq_some hb), if_pos rfl]
    exact ih
  | case11 s f frames r fault hl hb hne =>
    obtain ⟨g, hg, rfl⟩ := (agree_skipLabel f (fresh r)).exists_error hl
    rw [unread_fresh] at hg
    rw [skip_false_of_cons (skipBlanks_eq_some hb), if_neg hne, if_pos rfl, skipItem, hg]
    exact .error g
  | case12 s f frames r t hl hb hne ih =>
    obtain ⟨r', hr, rfl⟩ := (agree_skipLabel f (fresh r)).exists_ok hl
    rw [unread_fresh] at hr
    rw [skip_false_of_cons (skipBlanks_eq_some hb), if_neg hne, if_pos rfl, skipItem, hr]
    exact ih
  | case13 s f frames b r hb hne hcomma =>
    rw [skip_false_of_cons (skipBlanks_eq_some hb), if_neg hne, if_neg hcomma]
    exact .ahead _ (b :: r)

theorem agree_skipValue (s : Stream) : Agree Unread s.skipValue (Json.skipValue s.unread) :=
  agree_skip true [] s

end ZyxtLexer.Json.Stream
