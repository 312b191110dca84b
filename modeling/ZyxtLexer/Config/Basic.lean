import ZyxtLexer.Json.Value
import ZyxtLexer.Token.Listing

/-! Settings of the command line, their text, and how they are read: from a JSON object by name,
or from a JSON list by order. Settings that are not given keep their defaults, and members of other
names are passed over. -/
namespace ZyxtLexer

open Json

structure Config where
  output : OutputFormat := .debug
  timings : Bool := false
  /-- Which log entries to show where nothing else is asked for. -/
  logFilter : String := "warn"
deriving DecidableEq

namespace Config

def defaultPath : String := "zyxt.json"

inductive Field where
  | output
  | timings
  | logFilter
deriving DecidableEq

namespace Field

def all : List Field := [output, timings, logFilter]

def name : Field → String
  | output => "output"
  | timings => "timings"
  | logFilter => "log_filter"

def ofName? (s : String) : Option Field := all.find? fun f => f.name = s

theorem ofName?_name (f : Field) : ofName? f.name = some f := by cases f <;> decide

def written (c : Config) : Field → String
  | output => Json.quoted c.output.name
  | timings => if c.timings then "true" else "false"
  | logFilter => Json.quoted c.logFilter

end Field

/-- The settings as a JSON object without blanks. -/
def json (c : Config) : String :=
  "\x7b" ++ ",".intercalate (Field.all.map fun f => Json.quoted f.name ++ ":" ++ f.written c)
    ++ "\x7d"

end Config

def OutputFormat.read (bs : Bytes) : Except Fault (OutputFormat × Bytes) :=
  readUnitVariant ofName? "`debug` or `json`" bs

namespace Config

structure Draft where
  output : Option OutputFormat := none
  timings : Option Bool := none
  logFilter : Option String := none
deriving DecidableEq

namespace Draft

def has (d : Draft) : Field → Bool
  | .output => d.output.isSome
  | .timings => d.timings.isSome
  | .logFilter => d.logFilter.isSome

def config (d : Draft) : Config :=
  { output := d.output.getD .debug
    timings := d.timings.getD false
    logFilter := d.logFilter.getD "warn" }

def readField (d : Draft) (f : Field) (bs : Bytes) : Except Fault (Draft × Bytes) :=
  match f with
  | .output => do
    let (v, r) ← OutputFormat.read bs
    return ({ d with output := some v }, r)
  | .timings => do
    let (v, r) ← readBool bs
    return ({ d with timings := some v }, r)
  | .logFilter => do
    let (v, r) ← readString bs
    return ({ d with logFilter := some v }, r)

theorem length_readField {d e : Draft} {f : Field} {bs r : Bytes}
    (h : d.readField f bs = .ok (e, r)) : r.length < bs.length := by
  cases f <;> obtain ⟨⟨v, s⟩, hs, h⟩ := bind_eq_ok.1 h <;>
    simp only [pure, Except.pure, Except.ok.injEq, Prod.mk.injEq] at h <;> rw [← h.2]
  · exact length_readUnitVariant hs
  · exact length_readBool hs
  · exact length_readString hs

/-- A second member of one name. The reader is then at the end of the key, and it looks whether
the object ends there. -/
def refuseTwice {α : Type} (f : Field) (bs : Bytes) : Except Fault α :=
  match skipBlanks bs with
  | [] => refuse (.duplicateField f.name) .here []
  | b :: r =>
    if b = '}'.toUInt8 then refuse (.duplicateField f.name) .here r
    else refuse (.duplicateField f.name) .seen (b :: r)

theorem refuseTwice_ne_ok {α : Type} {f : Field} {bs : Bytes} {a : α} :
    refuseTwice f bs ≠ .ok a := by
  unfold refuseTwice
  split
  · simp [refuse]
  · split <;> simp [refuse]

/-- A member of the object, from just after the quote of its key. -/
def readMember (d : Draft) (bs : Bytes) : Except Fault (Draft × Bytes) := do
  let (key, bs) ← readText bs
  match Field.ofName? key with
  | none =>
    let bs ← readColon bs
    let bs ← skipValue bs
    return (d, bs)
  | some f =>
    if d.has f then refuseTwice f bs
    else
      let bs ← readColon bs
      d.readField f bs

theorem length_readMember {d e : Draft} {bs r : Bytes} (h : d.readMember bs = .ok (e, r)) :
    r.length < bs.length := by
  obtain ⟨⟨key, s⟩, hs, h⟩ := bind_eq_ok.1 h
  have := length_readText hs
  simp only at h
  split at h
  · obtain ⟨t, ht, h⟩ := bind_eq_ok.1 h
    obtain ⟨u, hu, h⟩ := bind_eq_ok.1 h
    have := length_readColon ht
    have := length_skipValue hu
    simp only [pure, Except.pure, Except.ok.injEq, Prod.mk.injEq] at h
    rw [← h.2]; omega
  · split at h
    · exact absurd h refuseTwice_ne_ok
    · obtain ⟨t, ht, h⟩ := bind_eq_ok.1 h
      have := length_readColon ht
      have := length_readField h
      omega

/-- The members of an object, from just after its opener or a member. -/
def readMembers (d : Draft) (first : Bool) (bs : Bytes) : Except Fault (Draft × Bytes) :=
  match _hm : nextMember first bs with
  | .error fault => .error fault
  | .ok (false, r) => .ok (d, r)
  | .ok (true, r) =>
    match _hd : d.readMember r with
    | .error fault => .error fault
    | .ok (e, s) => readMembers e false s
termination_by bs.length
decreasing_by
  have := length_nextMember _hm
  have := length_readMember _hd
  omega

theorem readMembers_eq (d : Draft) (first : Bool) (bs : Bytes) :
    d.readMembers first bs = nextMember first bs >>= fun p =>
      if p.1 then d.readMember p.2 >>= fun q => q.1.readMembers false q.2 else .ok (d, p.2) := by
  rw [readMembers]
  split <;> rename_i hm <;> rw [hm]
  · rfl
  · rfl
  · split <;> rename_i hd <;> simp only [bind, Except.bind, if_true, hd]

/-- The elements of a list, one for each of `fields`, from just after its opener or an element.
Elements at the end may be missing. -/
def readElements (d : Draft) (first : Bool) : List Field → Bytes → Except Fault (Draft × Bytes)
  | [], bs => do
    let bs ← closeList bs
    return (d, bs)
  | f :: fs, bs => do
    let (more, bs) ← nextElement first bs
    if more then
      let (e, bs) ← d.readField f bs
      readElements e false fs bs
    else
      let bs ← closeList bs
      return (d, bs)

end Draft

def read (bs : Bytes) : Except Fault (Config × Bytes) :=
  match skipBlanks bs with
  | [] => refuse .endInValue .ahead []
  | b :: r =>
    if b = '{'.toUInt8 then do
      let (d, r) ← Draft.readMembers {} true r
      return (d.config, r)
    else if b = '['.toUInt8 then do
      let (d, r) ← Draft.readElements {} true Field.all r
      return (d.config, r)
    else mistyped "struct CliConfig" (b :: r)

end Config

end ZyxtLexer
