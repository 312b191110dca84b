import ZyxtLexer.Config.Basic
import ZyxtLexer.Json.Stream.Value

/-! Fetching settings from a stream: by name or by order, as they are read from memory. -/
namespace ZyxtLexer

open Json

def OutputFormat.fetch (s : Stream) : Except Fault (OutputFormat × Stream) :=
  s.readUnitVariant ofName? "`debug` or `json`"

theorem OutputFormat.agree_fetch (s : Stream) :
    Agree (Same Fresh) (OutputFormat.fetch s) (OutputFormat.read s.unread) :=
  s.agree_readUnitVariant ofName? "`debug` or `json`"

namespace Config
namespace Draft

def fetchField (d : Draft) (f : Field) (s : Stream) : Except Fault (Draft × Stream) :=
  match f with
  | .output => do
    let (v, s) ← OutputFormat.fetch s
    return ({ d with output := some v }, s)
  | .timings => do
    let (v, s) ← s.readBool
    return ({ d with timings := some v }, s)
  | .logFilter => do
    let (v, s) ← s.readString
    return ({ d with logFilter := some v }, s)

/-- A member of the object, from just after the quote of its key. Of a second member of one name,
what follows the key is looked at before it is refused. -/
def fetchMember (d : Draft) (s : Stream) : Except Fault (Draft × Stream) := do
  let (key, s) ← s.readText
  match Field.ofName? key with
  | none =>
    let s ← s.readColon
    let s ← s.skipValue
    return (d, s)
  | some f =>
    if d.has f then Stream.refuse (.duplicateField f.name) s.skipBlanks.rest
    else
      let s ← s.readColon
      d.fetchField f s

theorem agree_fetchField (d : Draft) (f : Field) (s : Stream) :
    Agree (Same Fresh) (d.fetchField f s) (d.readField f s.unread) := by
  cases f with
  | output => exact (OutputFormat.agree_fetch s).bind_value fun _ _ => .ok ⟨rfl, rfl⟩
  | timings => exact s.agree_readBool.bind_value fun _ _ => .ok ⟨rfl, rfl⟩
  | logFilter => exact s.agree_readString.bind_value fun _ _ => .ok ⟨rfl, rfl⟩

theorem agree_refuseTwice {α β : Type} {R : α → β → Prop} (f : Field) (s : Stream) :
    Agree R (Stream.refuse (.duplicateField f.name) s.skipBlanks.rest)
      (refuseTwice f s.unread) := by
  rw [refuseTwice, s.skipBlanks_eq]
  cases skipBlanks s.unread with
  | nil => exact .here _ []
  | cons b r =>
    -- The brace that ends the object is consumed, and any other byte has been looked at.
    simp only
    split
    · exact .here _ r
    · exact .seen _ (b :: r)

theorem agree_fetchMember (d : Draft) (s : Stream) :
    Agree (Same Unread) (d.fetchMember s) (d.readMember s.unread) := by
  refine s.agree_readText.bind_value fun key r => ?_
  simp only
  cases Field.ofName? key with
  | none =>
    refine (Stream.agree_readColon (.fresh r)).bind_rest fun r => ?_
    exact (Stream.agree_skipValue (.fresh r)).bind fun _ _ hs => .ok ⟨rfl, hs⟩
  | some f =>
    refine .ite (fun _ => agree_refuseTwice f (.fresh r)) fun _ => ?_
    refine (Stream.agree_readColon (.fresh r)).bind_rest fun r => ?_
    exact (agree_fetchField d f (.fresh r)).mono fun _ _ h => ⟨h.1, h.2.unread⟩

theorem length_nextMember {first more : Bool} {s t : Stream}
    (h : s.nextMember first = .ok (more, t)) : t.unread.length < s.unread.length := by
  obtain ⟨⟨more', r⟩, hr, -, rfl⟩ := (s.agree_nextMember first).exists_ok h
  exact Json.length_nextMember hr

theorem length_fetchMember {d e : Draft} {s t : Stream} (h : d.fetchMember s = .ok (e, t)) :
    t.unread.length < s.unread.length := by
  obtain ⟨⟨e', r⟩, hr, -, rfl⟩ := (agree_fetchMember d s).exists_ok h
  exact length_readMember hr

def fetchMembers (d : Draft) (first : Bool) (s : Stream) : Except Fault (Draft × Stream) :=
  match _hm : s.nextMember first with
  | .error fault => .error fault
  | .ok (false, s) => .ok (d, s)
  | .ok (true, s) =>
    match _hd : d.fetchMember s with
    | .error fault => .error fault
    | .ok (e, s) => fetchMembers e false s
termination_by s.unread.length
decreasing_by exact Nat.lt_trans (length_fetchMember _hd) (length_nextMember _hm)

def fetchElements (d : Draft) (first : Bool) : List Field → Stream → Except Fault (Draft × Stream)
  | [], s => do
    let s ← s.closeList
    return (d, s)
  | f :: fs, s => do
    let (more, s) ← s.nextElement first
    if more then
      let (e, s) ← d.fetchField f s
      fetchElements e false fs s
    else
      let s ← s.closeList
      return (d, s)

theorem agree_fetchMembers (d : Draft) (first : Bool) (s : Stream) :
    Agree (Same Unread) (d.fetchMembers first s) (d.readMembers first s.unread) := by
  fun_induction fetchMembers d first s with
  | case1 d first s fault hm =>
    obtain ⟨f, hf, rfl⟩ := (s.agree_nextMember first).exists_error hm
    rw [readMembers_eq, hf]
    exact .error f
  | case2 d first s t hm =>
    obtain ⟨⟨more, r⟩, hr, hmore, rfl⟩ := (s.agree_nextMember first).exists_ok hm
    cases hmore
    rw [readMembers_eq, hr]
    exact .ok ⟨rfl, rfl⟩
  | case3 d first s t hm fault hd =>
    obtain ⟨⟨more, r⟩, hr, hmore, rfl⟩ := (s.agree_nextMember first).exists_ok hm
    cases hmore
    obtain ⟨f, hf, rfl⟩ := (agree_fetchMember d (.fresh r)).exists_error hd
    rw [Stream.unread_fresh] at hf
    rw [readMembers_eq, hr]
    simp only [bind, Except.bind, if_true, hf]
    exact .error f
  | case4 d first s t hm e u hd ih =>
    obtain ⟨⟨more, r⟩, hr, hmore, rfl⟩ := (s.agree_nextMember first).exists_ok hm
    cases hmore
    obtain ⟨⟨e', q⟩, hq, he, rfl⟩ := (agree_fetchMember d (.fresh r)).exists_ok hd
    cases he
    rw [Stream.unread_fresh] at hq
    rw [readMembers_eq, hr]
    simp only [bind, Except.bind, if_true, hq]
    exact ih

theorem agree_closeList (d : Draft) (s : Stream) :
    Agree (Same Unread) (do let s ← s.closeList; return (d, s))
      (do let r ← closeList s.unread; return (d, r)) :=
  s.agree_closeList.bind fun _ _ hs => .ok ⟨rfl, hs.unread⟩

theorem agree_fetchElements (d : Draft) (first : Bool) (fs : List Field) (s : Stream) :
    Agree (Same Unread) (d.fetchElements first fs s) (d.readElements first fs s.unread) := by
  induction fs generalizing d first s with
  | nil => exact agree_closeList d s
  | cons f fs ih =>
    refine (s.agree_nextElement first).bind_value fun more r => ?_
    refine .ite (fun _ => ?_) fun _ => ?_
    · have hfield := agree_fetchField d f (.looking r)
      rw [Stream.unread_looking] at hfield
      exact hfield.bind_value fun e t => ih e false (.fresh t)
    · have hclose := agree_closeList d (.looking r)
      rw [Stream.unread_looking] at hclose
      exact hclose

end Draft

def fetch (s : Stream) : Except Fault (Config × Stream) :=
  match s.skipBlanks with
  | ⟨none, r⟩ => Stream.refuse .endInValue r
  | ⟨some b, r⟩ =>
    if b = '{'.toUInt8 then do
      let (d, s) ← Draft.fetchMembers {} true (.fresh r)
      return (d.config, s)
    else if b = '['.toUInt8 then do
      let (d, s) ← Draft.fetchElements {} true Field.all (.fresh r)
      return (d.config, s)
    else Stream.mistyped "struct CliConfig" ⟨some b, r⟩

theorem agree_fetch (s : Stream) : Agree (Same Unread) (fetch s) (read s.unread) := by
  refine s.agree_blanks (.ahead _ []) fun b r => ?_
  refine .ite (fun _ => ?_) fun _ => .ite (fun _ => ?_) fun _ => Stream.agree_mistyped _ (b :: r)
  · exact (Draft.agree_fetchMembers {} true (.fresh r)).bind
      fun _ _ h => .ok ⟨congrArg Draft.config h.1, h.2⟩
  · exact (Draft.agree_fetchElements {} true Field.all (.fresh r)).bind
      fun _ _ h => .ok ⟨congrArg Draft.config h.1, h.2⟩

end Config
end ZyxtLexer
