import ZyxtLexer.Json.Stream.Basic
import ZyxtLexer.Json.String

/-! Strings of a JSON text in a stream, byte by byte. Nothing is looked at in a string before it is
consumed, not even the control character that ends one early. -/
namespace ZyxtLexer.Json.Stream

def take (s : Stream) : Except Fault (UInt8 × Stream) :=
  match s.next? with
  | none => refuse .endInString s.rest
  | some p => .ok p

def readUnit (s : Stream) : Except Fault (Nat × Stream) := do
  let (a, s) ← s.take
  let (b, s) ← s.take
  let (c, s) ← s.take
  let (d, s) ← s.take
  match hexValue? a b c d with
  | some n => return (n, s)
  | none => refuse .invalidEscape s.rest

def expectByte (b : UInt8) (s : Stream) : Except Fault Stream := do
  let (c, s) ← s.take
  if c = b then return s else refuse .missingSurrogate s.rest

def readCodePoint (s : Stream) : Except Fault (Nat × Stream) := do
  let (n, s) ← s.readUnit
  if isLowSurrogate n then refuse .unpairedSurrogate s.rest
  else if isHighSurrogate n then
    let s ← s.expectByte '\\'.toUInt8
    let s ← s.expectByte 'u'.toUInt8
    let (m, s) ← s.readUnit
    if isLowSurrogate m then return (paired n m, s)
    else refuse .unpairedSurrogate s.rest
  else return (n, s)

def readEscape (s : Stream) : Except Fault (Bytes × Stream) := do
  let (b, s) ← s.take
  match shortEscape? b with
  | some e => return ([e], s)
  | none =>
    if b = 'u'.toUInt8 then
      let (n, s) ← s.readCodePoint
      return (String.utf8EncodeChar (Char.ofNat n), s)
    else refuse .invalidEscape s.rest

def skipEscape (s : Stream) : Except Fault Stream := do
  let (b, s) ← s.take
  if (shortEscape? b).isSome then return s
  else if b = 'u'.toUInt8 then
    let (_, s) ← s.readUnit
    return s
  else refuse .invalidEscape s.rest

theorem take_eq (s : Stream) :
    s.take = match s.unread with
      | [] => refuse .endInString []
      | b :: r => .ok (b, fresh r) := by
  rw [take, next?_eq]
  cases h : s.unread with
  | nil => rw [rest_of_unread_nil h]
  | cons b r => rfl

theorem agree_readUnit (s : Stream) : Agree (Same Fresh) s.readUnit (Json.readUnit s.unread) := by
  rw [readUnit]
  match h : s.unread with
  | [] | [_] | [_, _] | [_, _, _] =>
    simp only [take_eq, h]
    exact .here _ _
  | a :: b :: c :: d :: r =>
    simp only [take_eq, h, unread_fresh, bind, Except.bind, Json.readUnit]
    cases hexValue? a b c d with
    | some n => exact .ok ⟨rfl, rfl⟩
    | none => exact .here _ _

theorem agree_expectByte (b : UInt8) (s : Stream) :
    Agree Fresh (s.expectByte b) (Json.expectByte b s.unread) := by
  rw [expectByte, take_eq]
  cases s.unread with
  | nil => exact .here _ _
  | cons c r => exact .ite (fun _ => .ok rfl) fun _ => .here _ _

theorem agree_readCodePoint (s : Stream) :
    Agree (Same Fresh) s.readCodePoint (Json.readCodePoint s.unread) := by
  refine (agree_readUnit s).bind_value fun n r => ?_
  refine .ite (fun _ => .here _ _) fun _ => .ite (fun _ => ?_) fun _ => .ok ⟨rfl, rfl⟩
  refine (agree_expectByte _ (fresh r)).bind_rest fun r => ?_
  refine (agree_expectByte _ (fresh r)).bind_rest fun r => ?_
  refine (agree_readUnit (fresh r)).bind_value fun m r => ?_
  exact .ite (fun _ => .ok ⟨rfl, rfl⟩) fun _ => .here _ _

theorem agree_readEscape (s : Stream) :
    Agree (Same Fresh) s.readEscape (Json.readEscape s.unread) := by
  rw [readEscape, take_eq]
  cases s.unread with
  | nil => exact .here _ _
  | cons b r =>
    simp only [bind, Except.bind, Json.readEscape]
    cases shortEscape? b with
    | some e => exact .ok ⟨rfl, rfl⟩
    | none =>
      refine .ite (fun _ => ?_) fun _ => .here _ _
      exact (agree_readCodePoint (fresh r)).bind_value fun _ _ => .ok ⟨rfl, rfl⟩

theorem agree_skipEscape (s : Stream) :
    Agree Fresh s.skipEscape (Json.skipEscape s.unread) := by
  rw [skipEscape, take_eq]
  cases s.unread with
  | nil => exact .here _ _
  | cons b r =>
    refine .ite (fun _ => .ok rfl) fun _ => .ite (fun _ => ?_) fun _ => .here _ _
    exact (agree_readUnit (fresh r)).bind_value fun _ _ => .ok rfl

theorem length_readEscape {s t : Stream} {e : Bytes} (h : s.readEscape = .ok (e, t)) :
    t.unread.length < s.unread.length := by
  obtain ⟨⟨e', r⟩, hr, -, rfl⟩ := (agree_readEscape s).exists_ok h
  exact Json.length_readEscape hr

theorem length_skipEscape {s t : Stream} (h : s.skipEscape = .ok t) :
    t.unread.length < s.unread.length := by
  obtain ⟨r, hr, rfl⟩ := (agree_skipEscape s).exists_ok h
  exact Json.length_skipEscape hr

/-- The bytes of a string with its escapes decoded; `done` holds the latest of them first. -/
def readBytes (done : Bytes) (s : Stream) : Except Fault (Bytes × Stream) :=
  match _hb : s.next? with
  | none => refuse .endInString s.rest
  | some (b, s) =>
    if b = '"'.toUInt8 then .ok (done.reverse, s)
    else if b = '\\'.toUInt8 then
      match _he : s.readEscape with
      | .error fault => .error fault
      | .ok (e, t) => readBytes (e.reverse ++ done) t
    else if b < 32 then refuse .controlCharacter s.rest
    else readBytes (b :: done) s
termination_by s.unread.length
decreasing_by
  · exact Nat.lt_trans (length_readEscape _he) (length_next? _hb)
  · exact length_next? _hb

def skipString (s : Stream) : Except Fault Stream :=
  match _hb : s.next? with
  | none => refuse .endInString s.rest
  | some (b, s) =>
    if b = '"'.toUInt8 then .ok s
    else if b = '\\'.toUInt8 then
      match _he : s.skipEscape with
      | .error fault => .error fault
      | .ok t => skipString t
    else if b < 32 then refuse .controlCharacter s.rest
    else skipString s
termination_by s.unread.length
decreasing_by
  · exact Nat.lt_trans (length_skipEscape _he) (length_next? _hb)
  · exact length_next? _hb

def readText (s : Stream) : Except Fault (String × Stream) := do
  let (decoded, s) ← s.readBytes []
  let t ← decodeText decoded s.rest
  return (t, s)

theorem agree_readBytes (done : Bytes) (s : Stream) :
    Agree (Same Fresh) (s.readBytes done) (Json.readBytes done s.unread) := by
  fun_induction readBytes done s with
  | case1 done s hb =>
    rw [next?_eq_none hb, unread_fresh, Json.readBytes]
    exact .here _ _
  | case2 done s s' hb =>
    obtain ⟨r, hr, rfl⟩ := next?_eq_some hb
    rw [hr, Json.readBytes, if_pos rfl]
    exact .ok ⟨rfl, rfl⟩
  | case3 done s s' fault he hb =>
    obtain ⟨r, hr, rfl⟩ := next?_eq_some hb
    obtain ⟨f, hf, rfl⟩ := (agree_readEscape (fresh r)).exists_error he
    rw [unread_fresh] at hf
    rw [hr, readBytes_backslash, hf]
    exact .error f
  | case4 done s s' e t he hb _ ih =>
    obtain ⟨r, hr, rfl⟩ := next?_eq_some hb
    obtain ⟨⟨e', r'⟩, hok, he', rfl⟩ := (agree_readEscape (fresh r)).exists_ok he
    cases he'
    rw [unread_fresh] at hok
    rw [hr, readBytes_backslash, hok]
    exact ih
  | case5 done s b s' hb hq hs hc =>
    obtain ⟨r, hr, rfl⟩ := next?_eq_some hb
    rw [hr, Json.readBytes, if_neg hq, if_neg hs, if_pos hc]
    exact .here _ _
  | case6 done s b s' hb hq hs hc ih =>
    obtain ⟨r, hr, rfl⟩ := next?_eq_some hb
    rw [hr, Json.readBytes, if_neg hq, if_neg hs, if_neg hc]
    exact ih

theorem agree_skipString (s : Stream) :
    Agree Fresh s.skipString (Json.skipString s.unread) := by
  fun_induction skipString s with
  | case1 s hb =>
    rw [next?_eq_none hb, unread_fresh, Json.skipString]
    exact .here _ _
  | case2 s s' hb =>
    obtain ⟨r, hr, rfl⟩ := next?_eq_some hb
    rw [hr, Json.skipString, if_pos rfl]
    exact .ok rfl
  | case3 s s' fault he hb =>
    obtain ⟨r, hr, rfl⟩ := next?_eq_some hb
    obtain ⟨f, hf, rfl⟩ := (agree_skipEscape (fresh r)).exists_error he
    rw [unread_fresh] at hf
    rw [hr, skipString_backslash, hf]
    exact .error f
  | case4 s s' t he hb _ ih =>
    obtain ⟨r, hr, rfl⟩ := next?_eq_some hb
    obtain ⟨r', hok, rfl⟩ := (agree_skipEscape (fresh r)).exists_ok he
    rw [unread_fresh] at hok
    rw [hr, skipString_backslash, hok]
    exact ih
  | case5 s b s' hb hq hs hc =>
    -- In memory the control character is left where it is.
    obtain ⟨r, hr, rfl⟩ := next?_eq_some hb
    rw [hr, Json.skipString, if_neg hq, if_neg hs, if_pos hc]
    exact .seen _ (b :: r)
  | case6 s b s' hb hq hs hc ih =>
    obtain ⟨r, hr, rfl⟩ := next?_eq_some hb
    rw [hr, Json.skipString, if_neg hq, if_neg hs, if_neg hc]
    exact ih

theorem agree_readText (s : Stream) :
    Agree (Same Fresh) s.readText (Json.readText s.unread) := by
  refine (agree_readBytes [] s).bind_value fun decoded r => ?_
  have hdecode : Agree Eq (decodeText decoded r) (decodeText decoded r) := by
    rw [decodeText]
    split
    · exact .ok rfl
    · exact .error ⟨_, .back _, r⟩
  refine hdecode.bind fun t t' ht => ?_
  exact .ok ⟨ht, rfl⟩

end ZyxtLexer.Json.Stream
