import ZyxtLexer.Config.Load
import ZyxtLexer.Proofs.Config.Settings

/-! Settings in an object are read by name: in whatever order its members stand, and whatever
other members stand between them, each setting is the one that is given under its name, and the
default where none is. An object that gives one of them twice is refused. -/
namespace ZyxtLexer

open Json

namespace Config

def Setting.GivenBy (s : Setting) (m : Member) : Prop :=
  m.key = s.field.name ∧ s.Written m.value

def Field.occurrences (f : Field) (ms : List Member) : Nat := ms.countP fun m => m.key = f.name

/-- No setting is given twice, and each that is given has a value of its type. -/
structure Proper (ms : List Member) : Prop where
  once : ∀ f : Field, f.occurrences ms ≤ 1
  typed : ∀ m ∈ ms, ∀ f : Field, m.key = f.name → ∃ s : Setting, s.field = f ∧ s.GivenBy m

theorem proper_of_givenBy {s : Setting} {m : Member} (h : s.GivenBy m) : Proper [m] where
  once f := List.countP_le_length
  typed n hn f hf := by
    cases List.mem_singleton.1 hn
    exact ⟨s, Field.name_inj (h.1.symm.trans hf), h⟩

theorem Proper.cons_other {m : Member} {ms : List Member} (h : Proper ms)
    (hm : ∀ f : Field, m.key ≠ f.name) : Proper (m :: ms) where
  once f := by
    have hf : f.occurrences (m :: ms) = f.occurrences ms :=
      List.countP_cons_of_neg (by simpa using hm f)
    exact hf ▸ h.once f
  typed n hn f hf := by
    rcases List.mem_cons.1 hn with rfl | hn
    · exact absurd hf (hm f)
    · exact h.typed n hn f hf

theorem exists_givenBy_cons_other {m : Member} {ms : List Member}
    (hm : ∀ f : Field, m.key ≠ f.name) (s : Setting) :
    (∃ n ∈ m :: ms, s.GivenBy n) ↔ ∃ n ∈ ms, s.GivenBy n := by
  have hs : ¬ s.GivenBy m := fun h => hm s.field h.1
  simp only [List.exists_mem_cons_iff, hs, false_or]

/-- The settings are those that the members give, and else the defaults. -/
structure Reflects (c : Config) (ms : List Member) : Prop where
  given : ∀ m ∈ ms, ∀ s : Setting, s.GivenBy m → c.setting s.field = s
  absent : ∀ f : Field, (∀ m ∈ ms, m.key ≠ f.name) → c.setting f = .absent f

theorem ext_setting {c c' : Config} (h : ∀ f : Field, c.setting f = c'.setting f) : c = c' := by
  have ho := h .output
  have ht := h .timings
  have hl := h .logFilter
  simp only [setting, Setting.output.injEq, Setting.timings.injEq, Setting.logFilter.injEq]
    at ho ht hl
  obtain ⟨_, _, _⟩ := c
  obtain ⟨_, _, _⟩ := c'
  rw [Config.mk.injEq]
  exact ⟨ho, ht, hl⟩

namespace Draft

section Member

variable {d e : Draft} {m : Member} {cs : List Char} {r q : Bytes}

inductive Takes (d : Draft) (m : Member) : Draft → Prop
  | other (h : ∀ f : Field, m.key ≠ f.name) : Takes d m d
  | setting {s : Setting} (h : m.key = s.field.name) (hd : d.has s.field = false) :
    Takes d m (d.set s)

theorem readMember_other (h : m.Body cs) (hm : ∀ f : Field, m.key ≠ f.name) (hr : Stops r) :
    d.readMember (encode cs ++ r) = .ok (d, r) := by
  obtain ⟨hk, hb, hb', hv⟩ := h
  have hc := readColon_encode hb
  have hs := skipValue_encode hb' hv hr
  simp [readMember, readText_spells hk, Field.ofName?_eq_none.2 hm, hc, hs, bind, Except.bind,
    pure, Except.pure]

theorem readMember_field {f : Field} (h : m.Body cs) (hf : m.key = f.name)
    (hd : d.has f = false) :
    ∃ b, Blanks b ∧ ∀ r, d.readMember (encode cs ++ r)
      = d.readField f (encode b ++ (encode m.value ++ r)) := by
  obtain ⟨hk, hb, hb', _⟩ := h
  refine ⟨_, hb', fun r => ?_⟩
  have hc := readColon_encode hb
  simp [readMember, readText_spells hk, Field.ofName?_eq_some.2 hf, hd, hc, bind, Except.bind]

theorem readMember_twice {f : Field} (h : m.Body cs) (hf : m.key = f.name) (hd : d.has f = true)
    (r : Bytes) (p : Draft × Bytes) : d.readMember (encode cs ++ r) ≠ .ok p := by
  obtain ⟨hk, _, _, _⟩ := h
  simp [readMember, readText_spells hk, Field.ofName?_eq_some.2 hf, hd, refuseTwice_ne_ok, bind,
    Except.bind]

theorem readMember_setting {s : Setting} (h : m.Body cs) (hs : s.GivenBy m)
    (hd : d.has s.field = false) (r : Bytes) :
    d.readMember (encode cs ++ r) = .ok (d.set s, r) := by
  obtain ⟨b, hb, he⟩ := readMember_field h hs.1 hd
  rw [he, readField_written d hs.2 hb]

theorem takes_of_readMember (h : m.Body cs) (hr : Stops r)
    (hm : d.readMember (encode cs ++ r) = .ok (e, q)) : q = r ∧ Takes d m e := by
  by_cases hk : ∃ f : Field, m.key = f.name
  · obtain ⟨f, hf⟩ := hk
    cases hd : d.has f with
    | true => exact absurd hm (readMember_twice h hf hd r (e, q))
    | false =>
      obtain ⟨b, hb, he⟩ := readMember_field h hf hd
      rw [he] at hm
      obtain ⟨hq, s, rfl, rfl⟩ := eq_set_of_readField hm
      rw [skipValue_encode hb h.value hr] at hq
      cases hq
      exact ⟨rfl, .setting hf hd⟩
  · have hk : ∀ f : Field, m.key ≠ f.name := not_exists.1 hk
    rw [readMember_other h hk hr] at hm
    cases hm
    exact ⟨rfl, .other hk⟩

/-- What stands before a member: nothing before the first, and else a comma. -/
inductive Lead : Bool → Bytes → Prop
  | first : Lead true []
  | later {b : List Char} (hb : Blanks b) : Lead false (encode b ++ [','.toUInt8])

theorem nextMember_lead {first : Bool} {lead : Bytes} {b : List Char} (hl : Lead first lead)
    (hb : Blanks b) (r : Bytes) :
    nextMember first (lead ++ (encode b ++ '"'.toUInt8 :: r)) = .ok (true, r) := by
  cases hl with
  | first =>
    rw [List.nil_append, nextMember, skipBlanks_token hb (by decide)]
    rfl
  | later hb' =>
    rw [List.append_assoc, List.singleton_append, nextMember, skipBlanks_token hb' (by decide)]
    simp only [if_true]
    rw [skipBlanks_token hb (by decide)]
    rfl

theorem nextMember_end {b : List Char} (hb : Blanks b) (first : Bool) (r : Bytes) :
    nextMember first (encode b ++ '}'.toUInt8 :: r) = .ok (false, r) := by
  rw [nextMember, skipBlanks_token hb (by decide)]
  rfl

theorem encode_one (b cs b' : List Char) (r : Bytes) :
    encode (b ++ '"' :: (cs ++ b')) ++ r
      = encode b ++ '"'.toUInt8 :: (encode cs ++ (encode b' ++ r)) := by
  simp

theorem encode_more (b cs b' ds : List Char) (r : Bytes) :
    encode (b ++ '"' :: (cs ++ (b' ++ ',' :: ds))) ++ r
      = encode b ++ '"'.toUInt8 :: (encode cs ++
          (encode b' ++ ','.toUInt8 :: (encode ds ++ r))) := by
  simp

theorem readMembers_end {first : Bool} {b : List Char} (hb : Blanks b) (d : Draft) (r : Bytes) :
    d.readMembers first (encode b ++ '}'.toUInt8 :: r) = .ok (d, r) := by
  rw [readMembers]
  split <;> rename_i h <;> rw [nextMember_end hb] at h <;> cases h
  rfl

theorem readMembers_lead {first : Bool} {lead : Bytes} {b : List Char} (hl : Lead first lead)
    (hb : Blanks b) (d : Draft) (r : Bytes) :
    d.readMembers first (lead ++ (encode b ++ '"'.toUInt8 :: r))
      = d.readMember r >>= fun p => p.1.readMembers false p.2 := by
  rw [readMembers]
  split <;> rename_i h <;> rw [nextMember_lead hl hb] at h <;> cases h
  split <;> rename_i h <;> rw [h] <;> rfl

end Member

/-- How many members of its name a setting still may have. -/
def room (d : Draft) (f : Field) : Nat := if d.has f then 0 else 1

section Run

variable {m : Member} {ms : List Member} {cs : List Char} {first : Bool} {lead : Bytes}

theorem has_set_self (d : Draft) (s : Setting) : (d.set s).has s.field = true := by
  rw [has_eq, get_set_self]; rfl

theorem has_set_of_ne (d : Draft) {s : Setting} {f : Field} (h : s.field ≠ f) :
    (d.set s).has f = d.has f := by
  rw [has_eq, has_eq, get_set_of_ne d h]

/-- A member that gives a setting uses up its room, and no other member does. -/
theorem occurrences_cons_of_takes {d e : Draft} (h : Takes d m e) (f : Field) :
    f.occurrences (m :: ms) ≤ d.room f ↔ f.occurrences ms ≤ e.room f := by
  cases h with
  | other h => simp [Field.occurrences, h f]
  | @setting s h hd =>
    by_cases hf : s.field = f
    · subst hf
      simp [Field.occurrences, h, room, hd, has_set_self]
    · have hn : m.key ≠ f.name := fun he => hf (Field.name_inj (h.symm.trans he))
      simp [Field.occurrences, hn, room, has_set_of_ne d hf]

theorem has_eq_false_of_room {d : Draft} {f : Field} (h : f.occurrences ms ≤ d.room f)
    (hm : m ∈ ms) (hf : m.key = f.name) : d.has f = false := by
  have hp : 0 < f.occurrences ms := List.countP_pos_iff.2 ⟨m, hm, by simpa using hf⟩
  by_contra hd
  rw [room, if_pos (Bool.not_eq_false _ ▸ hd)] at h
  omega

/-- A member for which there is room is read, what it gives is kept, and there is room for those
behind it. -/
theorem exists_readMember {d : Draft} (h : m.Body cs)
    (hroom : ∀ f : Field, f.occurrences (m :: ms) ≤ d.room f)
    (ht : ∀ f : Field, m.key = f.name → ∃ s : Setting, s.field = f ∧ s.GivenBy m) {r : Bytes}
    (hr : Stops r) :
    ∃ e, d.readMember (encode cs ++ r) = .ok (e, r) ∧
      (∀ s : Setting, s.GivenBy m → e.get s.field = some s) ∧
      (∀ f : Field, m.key ≠ f.name → e.get f = d.get f) ∧
      ∀ f : Field, f.occurrences ms ≤ e.room f := by
  have hnext {e : Draft} (he : d.readMember (encode cs ++ r) = .ok (e, r)) (f : Field) :
      f.occurrences ms ≤ e.room f :=
    (occurrences_cons_of_takes (takes_of_readMember h hr he).2 f).1 (hroom f)
  by_cases hk : ∃ f : Field, m.key = f.name
  · obtain ⟨f, hf⟩ := hk
    obtain ⟨s, rfl, hs⟩ := ht f hf
    have hd : d.has s.field = false := has_eq_false_of_room (hroom _) List.mem_cons_self hf
    have he := readMember_setting h hs hd r
    refine ⟨d.set s, he, fun t ht => ?_, fun g hg => ?_, hnext he⟩
    · have hfield : t.field = s.field := Field.name_inj (ht.1.symm.trans hs.1)
      have he' := readMember_setting h ht (hfield ▸ hd) r
      rw [he, Except.ok.injEq, Prod.mk.injEq] at he'
      rw [he'.1, get_set_self]
    · exact get_set_of_ne d fun hfield => hg (hfield ▸ hf)
  · have hk : ∀ f : Field, m.key ≠ f.name := not_exists.1 hk
    have he : d.readMember (encode cs ++ r) = .ok (d, r) := readMember_other h hk hr
    exact ⟨d, he, fun s hs => absurd hs.1 (hk s.field), fun _ _ => rfl, hnext he⟩

theorem exists_readMembers (h : Members ms cs) (hl : Lead first lead) (d : Draft)
    (hroom : ∀ f : Field, f.occurrences ms ≤ d.room f)
    (ht : ∀ m ∈ ms, ∀ f : Field, m.key = f.name → ∃ s : Setting, s.field = f ∧ s.GivenBy m)
    (r : Bytes) :
    ∃ e, d.readMembers first (lead ++ (encode cs ++ '}'.toUInt8 :: r)) = .ok (e, r) ∧
      (∀ m ∈ ms, ∀ s : Setting, s.GivenBy m → e.get s.field = some s) ∧
      ∀ f : Field, (∀ m ∈ ms, m.key ≠ f.name) → e.get f = d.get f := by
  induction h generalizing d first lead with
  | @one m b cs b' hb h hb' =>
    have hstops := stops_append hb' (stops_closer .object r)
    obtain ⟨e, he, hg, hk, _⟩ := exists_readMember h hroom (ht m List.mem_cons_self) hstops
    refine ⟨e, ?_, List.forall_mem_singleton.2 hg, fun f hf => hk f (hf m List.mem_cons_self)⟩
    rw [encode_one, readMembers_lead hl hb]
    exact (congrArg (· >>= _) he).trans (readMembers_end hb' e r)
  | @more m ms b cs b' ds hb h hb' hs ih =>
    have hstops := stops_append hb' (stops_comma (encode ds ++ '}'.toUInt8 :: r))
    obtain ⟨e, he, hg, hk, hroom⟩ := exists_readMember h hroom (ht m List.mem_cons_self) hstops
    obtain ⟨q, hq, hg', hk'⟩ := ih (.later hb') e hroom fun m hm => ht m (List.mem_cons_of_mem _ hm)
    refine ⟨q, ?_, ?_, fun f hf => ?_⟩
    · rw [encode_more, readMembers_lead hl hb, he, ← hq, List.append_assoc, List.singleton_append]
      rfl
    · refine List.forall_mem_cons.2 ⟨fun s hs => ?_, hg'⟩
      -- The room of this setting is used up, so that no later member has its name.
      have hn : ∀ m ∈ ms, m.key ≠ s.field.name := fun m hm hf => by
        have hhas := has_eq_false_of_room (hroom s.field) hm hf
        rw [has_eq, hg s hs] at hhas
        cases hhas
      rw [hk' s.field hn, hg s hs]
    · rw [hk' f fun m hm => hf m (List.mem_cons_of_mem _ hm), hk f (hf m List.mem_cons_self)]

/-- Members that are read leave room for each other. -/
theorem occurrences_le_of_readMembers (h : Members ms cs) (hl : Lead first lead) {d e : Draft}
    {r q : Bytes} (hm : d.readMembers first (lead ++ (encode cs ++ '}'.toUInt8 :: r)) = .ok (e, q))
    (f : Field) : f.occurrences ms ≤ d.room f := by
  induction h generalizing d first lead with
  | @one m b cs b' hb h hb' =>
    rw [encode_one, readMembers_lead hl hb] at hm
    obtain ⟨⟨c, p⟩, hc, _⟩ := bind_eq_ok.1 hm
    have ht := (takes_of_readMember h (stops_append hb' (stops_closer .object r)) hc).2
    exact (occurrences_cons_of_takes ht f).2 (Nat.zero_le _)
  | @more m ms b cs b' ds hb h hb' hs ih =>
    rw [encode_more, readMembers_lead hl hb] at hm
    obtain ⟨⟨c, p⟩, hc, hm⟩ := bind_eq_ok.1 hm
    obtain ⟨rfl, ht⟩ := takes_of_readMember h (stops_append hb' (stops_comma _)) hc
    refine (occurrences_cons_of_takes ht f).2 (ih (.later hb') ?_)
    rw [List.append_assoc, List.singleton_append]
    exact hm

end Run

end Draft

/-- Settings are what the members say, whatever else differs between two objects. -/
theorem Reflects.unique {c c' : Config} {ms ms' : List Member} (h : c.Reflects ms)
    (h' : c'.Reflects ms') (hp : Proper ms) (hp' : Proper ms')
    (he : ∀ s : Setting, (∃ m ∈ ms, s.GivenBy m) ↔ ∃ m ∈ ms', s.GivenBy m) : c = c' := by
  refine ext_setting fun f => ?_
  by_cases hf : ∃ m ∈ ms, m.key = f.name
  · obtain ⟨m, hm, hf⟩ := hf
    obtain ⟨s, rfl, hs⟩ := hp.typed m hm f hf
    obtain ⟨m', hm', hs'⟩ := (he s).1 ⟨m, hm, hs⟩
    rw [h.given m hm s hs, h'.given m' hm' s hs']
  · have hn : ∀ m ∈ ms, m.key ≠ f.name := fun m hm hk => hf ⟨m, hm, hk⟩
    have hn' : ∀ m ∈ ms', m.key ≠ f.name := fun m hm hk => by
      obtain ⟨s, rfl, hs⟩ := hp'.typed m hm f hk
      obtain ⟨m', hm', hs'⟩ := (he s).2 ⟨m, hm, hs⟩
      exact hn m' hm' hs'.1
    rw [h.absent f hn, h'.absent f hn']

section Text

variable {ms : List Member} {text : String} {b cs b' : List Char}

theorem read_object (hb : Blanks b) (ht : text.toList = b ++ '{' :: (cs ++ '}' :: b')) :
    Config.read (bytesOf text)
      = (Draft.readMembers {} true (encode cs ++ '}'.toUInt8 :: encode b')) >>=
          fun p => .ok (p.1.config, p.2) := by
  have he : bytesOf text = encode b ++ '{'.toUInt8 :: (encode cs ++ '}'.toUInt8 :: encode b') := by
    rw [bytesOf_eq, ht]
    simp
  rw [he, Config.read, skipBlanks_token hb (by decide)]
  rfl

theorem readFromText_of_readMembers (hb : Blanks b) (hb' : Blanks b')
    (ht : text.toList = b ++ '{' :: (cs ++ '}' :: b')) {d : Draft}
    (hm : Draft.readMembers {} true (encode cs ++ '}'.toUInt8 :: encode b') = .ok (d, encode b')) :
    readFromText Config.read text = .ok d.config := by
  have hr : Config.read (bytesOf text) = .ok (d.config, encode b') := by
    rw [read_object hb ht, hm]
    rfl
  have hn : skipBlanks (encode b') = [] := by
    rw [← List.append_nil (encode b'), skipBlanks_append hb']
    rfl
  simp only [readFromText, readFrom, readWhole, hr, hn, bind, Except.bind, pure, Except.pure]

theorem readMembers_of_readFromText (hb : Blanks b)
    (ht : text.toList = b ++ '{' :: (cs ++ '}' :: b')) {c : Config}
    (h : readFromText Config.read text = .ok c) :
    ∃ p, Draft.readMembers {} true (encode cs ++ '}'.toUInt8 :: encode b') = .ok p := by
  rw [readFromText, readFrom] at h
  split at h
  · rename_i hw
    obtain ⟨⟨_, r⟩, hr, _⟩ := bind_eq_ok.1 hw
    rw [read_object hb ht] at hr
    obtain ⟨p, hp, _⟩ := bind_eq_ok.1 hr
    exact ⟨p, hp⟩
  · cases h

theorem get_empty (f : Field) : ({} : Draft).get f = none := by cases f <;> rfl

theorem room_empty (f : Field) : ({} : Draft).room f = 1 := by cases f <;> rfl

theorem reflects_config {d : Draft}
    (hg : ∀ m ∈ ms, ∀ s : Setting, s.GivenBy m → d.get s.field = some s)
    (hk : ∀ f : Field, (∀ m ∈ ms, m.key ≠ f.name) → d.get f = none) : d.config.Reflects ms where
  given m hm s hs := by rw [Draft.setting_config, hg m hm s hs, Option.getD_some]
  absent f hf := by rw [Draft.setting_config, hk f hf, Option.getD_none]

theorem exists_readFromText (h : ObjectText ms text.toList) (hp : Proper ms) :
    ∃ c : Config, readFromText Config.read text = .ok c ∧ c.Reflects ms := by
  generalize ht : text.toList = t at h
  cases h with
  | empty hb hb' hb'' =>
    exact ⟨_, readFromText_of_readMembers hb hb'' ht (Draft.readMembers_end hb' {} _),
      reflects_config (fun m hm => absurd hm List.not_mem_nil) fun f _ => get_empty f⟩
  | full hb h hb' =>
    have hr : ∀ f : Field, f.occurrences ms ≤ ({} : Draft).room f := fun f =>
      (room_empty f).symm ▸ hp.once f
    obtain ⟨d, hd, hg, hk⟩ := Draft.exists_readMembers h .first {} hr hp.typed _
    exact ⟨_, readFromText_of_readMembers hb hb' ht hd,
      reflects_config hg fun f hf => (hk f hf).trans (get_empty f)⟩

theorem readFromText_ne_ok (h : ObjectText ms text.toList) {f : Field} (hf : 2 ≤ f.occurrences ms)
    (c : Config) : readFromText Config.read text ≠ .ok c := by
  generalize ht : text.toList = t at h
  intro hc
  cases h with
  | empty => exact absurd hf (by simp [Field.occurrences])
  | full hb h hb' =>
    obtain ⟨⟨e, q⟩, he⟩ := readMembers_of_readFromText hb ht hc
    have := Draft.occurrences_le_of_readMembers h .first he f
    rw [room_empty] at this
    omega

end Text

/-- Settings in an object are read by name: each is what the member of its name gives, or else the
default. An object that names a setting twice is refused, whatever its members hold. And objects
that give the same settings are read as the same, however else they differ. -/
theorem readFromText_object {ms : List Member} {text : String} (h : ObjectText ms text.toList) :
    (Proper ms → ∃ c : Config, readFromText Config.read text = .ok c ∧ c.Reflects ms) ∧
    (∀ f : Field, 2 ≤ f.occurrences ms → ∃ message,
      (readFromText Config.read text).mapError LoadError.failure = .error (.config message)) ∧
    ∀ {ms' : List Member} {text' : String}, ObjectText ms' text'.toList → Proper ms → Proper ms' →
      (∀ s : Setting, (∃ m ∈ ms, s.GivenBy m) ↔ ∃ m ∈ ms', s.GivenBy m) →
      readFromText Config.read text = readFromText Config.read text' := by
  refine ⟨exists_readFromText h, fun f hf => ?_, fun h' hp hp' he => ?_⟩
  · cases hr : readFromText Config.read text with
    | ok c => exact absurd hr (readFromText_ne_ok h hf c)
    | error e => exact ⟨e.message, rfl⟩
  · obtain ⟨c, hc, hm⟩ := exists_readFromText h hp
    obtain ⟨c', hc', hm'⟩ := exists_readFromText h' hp'
    rw [hc, hc', hm.unique hm' hp hp' he]

/-- A name with an escape, behind a member of another name; a name that comes twice; and the first
object again, with less in it. -/
theorem readFromText_object_escaped :
    (readFromText Config.read "\x7b\"x\":[0],\"\\u006futput\":\"json\"\x7d"
      = .ok { output := .json, timings := false, logFilter := "warn" }) ∧
    (∃ message, (readFromText Config.read "\x7b\"timings\":0,\"timings\":true\x7d").mapError
      LoadError.failure = .error (.config message)) ∧
    readFromText Config.read "\x7b\"x\":[0],\"\\u006futput\":\"json\"\x7d"
      = readFromText Config.read "\x7b\"output\":\"json\"\x7d" := by
  have nothing : Blanks [] := List.forall_mem_nil _
  have number : Value ['0'] := .number (.mk (.inl rfl) (.inl rfl) (.inl rfl) (.inl rfl))
  have zero : HexDigit '0' 0 := by decide
  have unit : FourDigits ['0', '0', '6', 'f'] 0x6f :=
    .mk zero zero (by decide : HexDigit '6' 6) (by decide : HexDigit 'f' 15)
  have name : Spells ('\\' :: 'u' :: (['0', '0', '6', 'f'] ++ ['u', 't', 'p', 'u', 't']))
      "output".toList := .unit unit (.inl (by decide)) (.self (by decide))
  have json : Spells ['j', 's', 'o', 'n'] "json".toList := .self (by decide)
  have written : (Setting.output .json).Written ('"' :: (['j', 's', 'o', 'n'] ++ ['"'])) :=
    .output json
  have given : (Setting.output .json).GivenBy ⟨"output", ['"', 'j', 's', 'o', 'n', '"']⟩ :=
    ⟨rfl, written⟩
  have other : ∀ f : Field, (Member.mk "x" ['[', '0', ']']).key ≠ f.name := fun f => by
    cases f <;> decide
  have list := Member.Body.mk (m := ⟨"x", ['[', '0', ']']⟩) (.self (by decide)) nothing nothing
    (.full .list (.one .list nothing number nothing))
  have escaped := Member.Body.mk (m := ⟨"output", ['"', 'j', 's', 'o', 'n', '"']⟩) name nothing
    nothing (.string json.body)
  have plain := Member.Body.mk (m := ⟨"output", ['"', 'j', 's', 'o', 'n', '"']⟩)
    (.self (by decide)) nothing nothing (.string json.body)
  have h : ObjectText _ "\x7b\"x\":[0],\"\\u006futput\":\"json\"\x7d".toList :=
    .full nothing (.more nothing list nothing (.one nothing escaped nothing)) nothing
  have h' : ObjectText _ "\x7b\"output\":\"json\"\x7d".toList :=
    .full nothing (.one nothing plain nothing) nothing
  have hp' := proper_of_givenBy given
  have hp := hp'.cons_other other
  refine ⟨?_, ?_, (readFromText_object h).2.2 h' hp hp' (exists_givenBy_cons_other other)⟩
  · obtain ⟨c, hc, hr⟩ := (readFromText_object h).1 hp
    have output := hr.given _ (List.mem_cons_of_mem _ List.mem_cons_self) _ given
    have timings := hr.absent .timings (by decide)
    have logFilter := hr.absent .logFilter (by decide)
    rw [hc]
    exact congrArg _ (ext_setting fun f => by cases f <;> assumption)
  · have first := Member.Body.mk (m := ⟨"timings", ['0']⟩) (.self (by decide)) nothing nothing
      number
    have second := Member.Body.mk (m := ⟨"timings", ['t', 'r', 'u', 'e']⟩) (.self (by decide))
      nothing nothing .true
    have h : ObjectText _ "\x7b\"timings\":0,\"timings\":true\x7d".toList :=
      .full nothing (.more nothing first nothing (.one nothing second nothing)) nothing
    exact (readFromText_object h).2.1 .timings (by decide)

end Config
end ZyxtLexer
