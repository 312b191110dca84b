import ZyxtLexer.Proofs.Pieces.Basic
import ZyxtLexer.Proofs.Position
import ZyxtLexer.Proofs.Scanner.Reading
import ZyxtLexer.Proofs.Scanner.Step
import ZyxtLexer.Token.Vocabulary

/-! Where the tokens of a text come from. Each token has its own stretch of characters, in the
order of the text, and between the stretches there is nothing but blanks, save for what the first
flag drops and what a comment swallows that nothing closes. -/
namespace ZyxtLexer

/-- The characters `first`, …, `stop - 1` of a text. -/
def slice (text : List Char) (first stop : Nat) : List Char := (text.take stop).drop first

def placeOf (text : List Char) (i : Nat) : Position := Position.origin.past (text.take i)

section Slices
variable {text : List Char} {c : Char} {d n : Nat}

@[simp] theorem slice_self (text : List Char) (n : Nat) : slice text n n = [] :=
  List.drop_eq_nil_of_le (List.length_take_le n text)

theorem slice_succ (hd : d ≤ n) (hc : text[n]? = some c) :
    slice text d (n + 1) = slice text d n ++ [c] := by
  have hn : n < text.length := (List.getElem?_eq_some_iff.1 hc).1
  rw [slice, List.take_add_one, hc, List.drop_append_of_le_length (by simp; omega)]
  rfl

theorem slice_one (hc : text[n]? = some c) : slice text n (n + 1) = [c] := by
  rw [slice_succ le_rfl hc, slice_self, List.nil_append]

theorem length_slice (hn : n ≤ text.length) : (slice text d n).length = n - d := by
  simp [slice, hn]

theorem mem_slice_of_le {m : Nat} (hdm : d ≤ m) (h : c ∈ slice text m n) : c ∈ slice text d n := by
  obtain ⟨k, rfl⟩ := Nat.exists_eq_add_of_le hdm
  rw [slice, ← List.drop_drop] at h
  exact List.mem_of_mem_drop h

theorem placeOf_succ (hc : text[n]? = some c) :
    placeOf text (n + 1) = (placeOf text n).advance c := by
  rw [placeOf, List.take_add_one, hc, Position.past_append]
  rfl

/-- The place before a character on its own line is one column to the left: stepping back from
behind the character finds it again. -/
theorem left_placeOf_succ (hc : text[n]? = some c) (hn : c ≠ '\n') :
    (placeOf text (n + 1)).left = placeOf text n := by
  rw [placeOf_succ hc]
  exact Position.left_advance hn (Position.one_le_column_past le_rfl _)

end Slices

/-- Kinds whose tokens keep the carriage returns of their text. -/
def Kind.keepsReturns : Kind → Bool
  | comment | commentEnd | multilineCommentEnd => true
  | _ => false

/-- A token with the stretch of characters `first`, …, `stop - 1` that it comes from. -/
structure Placed where
  token : Token
  first : Nat
  stop : Nat

namespace Placed

/-- The token stands where its stretch begins and says what the stretch says, in most kinds
without the carriage returns. -/
structure Holds (text : List Char) (q : Placed) : Prop where
  first_le : q.first ≤ q.stop
  stop_le : q.stop ≤ text.length
  pos_eq : q.token.pos = placeOf text q.first
  literal : q.token.kind.keepsReturns → slice text q.first q.stop = q.token.value.toList
  significant : ¬ q.token.kind.keepsReturns →
    ZyxtLexer.significant (slice text q.first q.stop) = q.token.value.toList ∧
      ∃ c, text[q.first]? = some c ∧ c ≠ '\r'
  star : q.token.kind = .multilineCommentEnd → text[q.first]? = some '*'

/-- The closer of a block comment stands one column to the left of its slash, which is never the
first character of a line. -/
theorem Holds.left_slash {text : List Char} {q : Placed} (h : q.Holds text)
    (hk : q.token.kind = .multilineCommentEnd) :
    q.token.pos = (placeOf text (q.first + 1)).left ∧
      1 < (placeOf text (q.first + 1)).column := by
  have hstar := h.star hk
  refine ⟨by rw [left_placeOf_succ hstar (by decide), h.pos_eq], ?_⟩
  rw [placeOf_succ hstar, Position.advance_of_ne (by decide)]
  exact Nat.lt_add_of_pos_left (Position.one_le_column_past le_rfl _)

end Placed

def Covered (placed : List Placed) (i : Nat) : Prop :=
  ∃ q ∈ placed, q.first ≤ i ∧ i < q.stop

/-- Character `i` is in the text that the first flag drops: behind nothing but comments, and with
nothing from there to the flag but what belongs to one word. -/
def Dropped (text : List Char) (placed : List Placed) (i : Nat) : Prop :=
  ∃ before q after, placed = before ++ q :: after ∧ q.token.kind = .flag ∧
    (∀ p ∈ before, p.token.kind.isComment ∧ p.stop ≤ i) ∧
      i < q.first ∧ ∀ c ∈ slice text i q.first, inWord c

/-- Character `i` is behind the opener of a comment that nothing closes. -/
def Swallowed (placed : List Placed) (i : Nat) : Prop :=
  ∃ q, placed.getLast? = some q ∧ q.token.kind = .multilineCommentStart ∧ q.stop ≤ i

/-- A blank, or a character with which something became of it. -/
def Accounted (text : List Char) (placed : List Placed) (i : Nat) : Prop :=
  (∃ c, text[i]? = some c ∧ Text.isBlank c) ∨ Covered placed i ∨ Dropped text placed i

/-- The tokens found among the first `d` characters of a text, and all that is to say about these
characters. -/
structure Ledger (text : List Char) (placed : List Placed) (d : Nat) : Prop where
  holds : ∀ q ∈ placed, q.Holds text
  ordered : placed.Pairwise fun p q => p.stop ≤ q.first
  behind : ∀ q ∈ placed, q.stop ≤ d
  accounted : ∀ i < d, Accounted text placed i

section Ledgers
variable {text : List Char} {placed new : List Placed} {c : Char} {d n i : Nat}

theorem Accounted.append (h : Accounted text placed i) (new : List Placed) :
    Accounted text (placed ++ new) i := by
  rcases h with h | ⟨q, hq, hi⟩ | ⟨before, q, after, hplaced, h⟩
  · exact .inl h
  · exact .inr (.inl ⟨q, List.mem_append_left new hq, hi⟩)
  · exact .inr (.inr ⟨before, q, after ++ new, by rw [hplaced]; simp, h⟩)

theorem Accounted.of_mem {q : Placed} (hq : q ∈ placed) (h₁ : q.first ≤ i) (h₂ : i < q.stop) :
    Accounted text placed i := .inr (.inl ⟨q, hq, h₁, h₂⟩)

theorem ledger_nil (text : List Char) : Ledger text [] 0 where
  holds := nofun
  ordered := .nil
  behind := nofun
  accounted := nofun

theorem Ledger.append (h : Ledger text placed d) (hdn : d ≤ n)
    (hnew : ∀ q ∈ new, q.Holds text ∧ d ≤ q.first ∧ q.stop ≤ n)
    (hord : new.Pairwise fun p q => p.stop ≤ q.first)
    (hacc : ∀ i, d ≤ i → i < n → Accounted text (placed ++ new) i) :
    Ledger text (placed ++ new) n where
  holds q hq := (List.mem_append.1 hq).elim (h.holds q) fun hq => (hnew q hq).1
  ordered := List.pairwise_append.2
    ⟨h.ordered, hord, fun p hp q hq => (h.behind p hp).trans (hnew q hq).2.1⟩
  behind q hq := (List.mem_append.1 hq).elim (fun hq => (h.behind q hq).trans hdn)
    fun hq => (hnew q hq).2.2
  accounted i hi := by
    by_cases hd : i < d
    · exact (h.accounted i hd).append new
    · exact hacc i (Nat.le_of_not_lt hd) hi

theorem Ledger.concat {q : Placed} (h : Ledger text placed q.first) (hq : q.Holds text) :
    Ledger text (placed ++ [q]) q.stop := by
  refine h.append hq.first_le ?_ (List.pairwise_singleton ..) fun i h₁ h₂ => ?_
  · simpa using hq
  · exact .of_mem (List.mem_append_right placed List.mem_cons_self) h₁ h₂

theorem Ledger.blank (h : Ledger text placed n) (hc : text[n]? = some c) (hb : Text.isBlank c) :
    Ledger text placed (n + 1) := by
  refine List.append_nil placed ▸ h.append (Nat.le_succ n) nofun .nil fun i h₁ h₂ => ?_
  obtain rfl : i = n := by omega
  exact .inl ⟨c, hc, hb⟩

end Ledgers

/-- The characters `d`, …, `n - 1` of a text are a word under way, held without carriage
returns, of which none stands in front. -/
structure PendingWord (text : List Char) (d n : Nat) (held : List Char) : Prop where
  significant_eq : significant (slice text d n) = held.reverse
  inWord : ∀ c ∈ slice text d n, inWord c
  eq_of_nil : held = [] → d = n
  begins : held ≠ [] → ∃ c, text[d]? = some c ∧ c ≠ '\r'

/-- The scanner has read `n` characters of a text. Those before `d` are in the ledger, and the
others are pending. -/
structure Scanner.Tracks (text : List Char) (placed : List Placed) (d n : Nat) (s : Scanner) :
    Prop where
  ledger : Ledger text placed d
  first_le : d ≤ n
  read_le : n ≤ text.length
  start_eq : s.start = placeOf text d
  cursor_eq : s.cursor = placeOf text n
  word : s.mode.endsWords → PendingWord text d n s.held
  comment : ¬ s.mode.endsWords → slice text d n = s.held.reverse
  fresh : s.context.last = .statementEnd → ∀ q ∈ placed, q.token.kind.isComment
  opener : ∀ r, s.mode = .blockComment r →
    ∃ q, placed.getLast? = some q ∧ q.token.kind = .multilineCommentStart

/-- What is known after a step: the ledger has got the tokens of the step. -/
def Advances (text : List Char) (placed : List Placed) (n : Nat) (o : List Event × Scanner) :
    Prop :=
  ∃ new d, new.map Placed.token = o.1.filterMap Event.token? ∧
    o.2.Tracks text (placed ++ new) d (n + 1)

section Steps
variable {text : List Char} {placed new : List Placed} {c : Char} {d n : Nat} {s : Scanner}

theorem pendingWord_nil (text : List Char) (n : Nat) : PendingWord text n n [] where
  significant_eq := by simp
  inWord := by simp
  eq_of_nil _ := rfl
  begins h := absurd rfl h

theorem PendingWord.hold {held : List Char} (h : PendingWord text d n held) (hdn : d ≤ n)
    (hc : text[n]? = some c) (hb : ¬ Text.isBlank c) : PendingWord text d (n + 1) (c :: held) where
  significant_eq := by
    rw [slice_succ hdn hc, significant_append, h.significant_eq,
      significant_cons (ne_return_of_not_blank hb)]
    simp
  inWord a ha := by
    rw [slice_succ hdn hc] at ha
    rcases List.mem_append.1 ha with ha | ha
    · exact h.inWord a ha
    · rw [List.mem_singleton.1 ha]
      exact inWord_of_not_blank hb
  eq_of_nil := nofun
  begins _ := by
    by_cases hnil : held = []
    · exact ⟨c, h.eq_of_nil hnil ▸ hc, ne_return_of_not_blank hb⟩
    · exact h.begins hnil

theorem PendingWord.skip {held : List Char} (h : PendingWord text d n held) (hdn : d ≤ n)
    (hc : text[n]? = some '\r') (hne : held ≠ []) : PendingWord text d (n + 1) held where
  significant_eq := by
    rw [slice_succ hdn hc, significant_append, h.significant_eq, significant_return]
    simp
  inWord a ha := by
    rw [slice_succ hdn hc] at ha
    rcases List.mem_append.1 ha with ha | ha
    · exact h.inWord a ha
    · rw [List.mem_singleton.1 ha]
      decide
  eq_of_nil h := absurd h hne
  begins := h.begins

theorem Ledger.advances_restart (h : Ledger text (placed ++ new) (n + 1))
    (hc : text[n]? = some c) (hcur : s.cursor = placeOf text n) {mode : Mode} {last : Kind}
    {es : List Event} (hes : new.map Placed.token = es.filterMap Event.token?)
    (hfresh : (s.restart c mode last).context.last = .statementEnd →
      ∀ q ∈ placed ++ new, q.token.kind.isComment)
    (hopener : ∀ r, mode = .blockComment r →
      ∃ q, (placed ++ new).getLast? = some q ∧ q.token.kind = .multilineCommentStart) :
    Advances text placed n (es, s.restart c mode last) := by
  have hplace : s.cursor.advance c = placeOf text (n + 1) := by rw [hcur, placeOf_succ hc]
  refine ⟨new, n + 1, hes, ?_⟩
  exact {
    ledger := h
    first_le := le_rfl
    read_le := (List.getElem?_eq_some_iff.1 hc).1
    start_eq := hplace
    cursor_eq := hplace
    word := fun _ => pendingWord_nil text (n + 1)
    comment := fun _ => slice_self text (n + 1)
    fresh := hfresh
    opener := hopener }

theorem advances_skip (h : s.Tracks text placed d n) (hc : text[n]? = some '\r')
    (hm : s.mode.endsWords) : Advances text placed n ([], s.skip '\r') := by
  have hcur : s.cursor.advance '\r' = placeOf text (n + 1) := by rw [h.cursor_eq, placeOf_succ hc]
  by_cases hnil : s.held = []
  · obtain rfl := (h.word hm).eq_of_nil hnil
    have hstart : (s.skip '\r').start = placeOf text (d + 1) := by simp [Scanner.skip, hnil, hcur]
    refine ⟨[], d + 1, rfl, ?_⟩
    rw [List.append_nil]
    exact { h with
      ledger := h.ledger.blank hc (by decide)
      first_le := le_rfl
      read_le := (List.getElem?_eq_some_iff.1 hc).1
      start_eq := hstart
      cursor_eq := hcur
      word := fun _ => by
        simp only [Scanner.skip, hnil]
        exact pendingWord_nil text (d + 1)
      comment := fun hn => absurd hm hn }
  · have hstart : (s.skip '\r').start = s.start := by simp [Scanner.skip, hnil]
    refine ⟨[], d, rfl, ?_⟩
    rw [List.append_nil]
    exact { h with
      first_le := h.first_le.trans (Nat.le_succ n)
      read_le := (List.getElem?_eq_some_iff.1 hc).1
      start_eq := hstart.trans h.start_eq
      cursor_eq := hcur
      word := fun hm => (h.word hm).skip h.first_le hc hnil
      comment := fun hn => absurd hm hn }

theorem advances_hold (h : s.Tracks text placed d n) (hc : text[n]? = some c)
    (hb : s.mode.endsWords → ¬ Text.isBlank c) : Advances text placed n ([], s.hold c) := by
  refine ⟨[], d, rfl, ?_⟩
  rw [List.append_nil]
  exact { h with
    first_le := h.first_le.trans (Nat.le_succ n)
    read_le := (List.getElem?_eq_some_iff.1 hc).1
    cursor_eq := by rw [placeOf_succ hc, ← h.cursor_eq]; rfl
    word := fun hm => (h.word hm).hold h.first_le hc (hb hm)
    comment := fun hm => by
      rw [slice_succ h.first_le hc, h.comment hm]
      exact List.reverse_cons.symm }

theorem toList_text (s : Scanner) : s.text.toList = s.held.reverse := String.toList_ofList

theorem holds_word (h : s.Tracks text placed d n) (hm : s.mode.endsWords) (hne : s.held ≠ [])
    {kind : Kind} (hk : ¬ kind.keepsReturns) :
    Placed.Holds text ⟨⟨⟨kind, s.text⟩, s.start⟩, d, n⟩ where
  first_le := h.first_le
  stop_le := h.read_le
  pos_eq := h.start_eq
  literal hk' := absurd hk' hk
  significant _ :=
    ⟨(h.word hm).significant_eq.trans (toList_text s).symm, (h.word hm).begins hne⟩
  star hk' := absurd (congrArg Kind.keepsReturns hk') hk

theorem endedKind_mem (s : Scanner) : s.endedKind ∈ .flagLabel :: Vocabulary.kinds := by
  by_cases hm : s.mode = .label
  · rw [Scanner.endedKind, if_pos hm]
    exact List.mem_cons_self
  · rw [Scanner.endedKind, if_neg hm]
    exact List.mem_cons_of_mem _ (wordKind_mem s.text)

theorem endedKind_spec (s : Scanner) :
    ¬ s.endedKind.keepsReturns ∧ s.endedKind ≠ .statementEnd := by
  have hk : ∀ k ∈ Kind.flagLabel :: Vocabulary.kinds,
      ¬ k.keepsReturns ∧ k ≠ .statementEnd := by decide
  exact hk _ (endedKind_mem s)

theorem advances_blank (h : s.Tracks text placed d n) (hc : text[n]? = some c)
    (hm : s.mode.endsWords) (hb : Text.isBlank c) : Advances text placed n (s.readBlank c) := by
  by_cases hnil : s.held.isEmpty
  · obtain rfl := (h.word hm).eq_of_nil (List.isEmpty_iff.1 hnil)
    have hnew : ([] : List Placed).map Placed.token = ([] : List Event).filterMap Event.token? :=
      rfl
    rw [Scanner.readBlank, if_pos hnil]
    rw [← List.append_nil placed] at h
    exact (h.ledger.blank hc hb).advances_restart hc h.cursor_eq hnew h.fresh h.opener
  · obtain ⟨hkind, hend⟩ := endedKind_spec s
    have hne : s.held ≠ [] := mt List.isEmpty_iff.2 hnil
    have hled := (h.ledger.concat (holds_word h hm hne hkind)).blank hc hb
    have hmode : ∀ r, Mode.code ≠ .blockComment r := by
      intro r hr
      cases hr
    rw [Scanner.readBlank, if_neg hnil]
    exact hled.advances_restart hc h.cursor_eq rfl (fun hlast => absurd hlast hend)
      fun r hr => absurd hr (hmode r)

theorem holds_flag (hc : text[n]? = some ':') :
    Placed.Holds text ⟨⟨⟨.flag, ":"⟩, placeOf text n⟩, n, n + 1⟩ where
  first_le := Nat.le_succ n
  stop_le := (List.getElem?_eq_some_iff.1 hc).1
  pos_eq := rfl
  literal := nofun
  significant _ := ⟨by simp [slice_one hc, significant], ':', hc, by decide⟩
  star := nofun

theorem Ledger.advances_flag (h : Ledger text (placed ++ new) (n + 1))
    (hc : text[n]? = some ':') (hcur : s.cursor = placeOf text n) {es : List Event}
    (hes : new.map Placed.token = es.filterMap Event.token?) :
    Advances text placed n
      (es, s.restart ':' (if s.mode = .label then .code else .label) .flag) := by
  refine h.advances_restart hc hcur hes (fun hlast => ?_) fun r hr => ?_
  · split at hlast <;> exact absurd hlast nofun
  · split at hr <;> exact absurd hr nofun

/-- The word before the first flag is in no token, and stands where such a word may stand. -/
theorem dropped_word (h : s.Tracks text placed d n) (hm : s.mode.endsWords)
    (hlast : s.last = .statementEnd) {q : Placed} (hq : q.token.kind = .flag) (hn : q.first = n)
    {i : Nat} (hdi : d ≤ i) (hin : i < n) : Dropped text (placed ++ [q]) i := by
  have hfresh : s.context.last = .statementEnd := by
    rw [Scanner.context_of_endsWords hm]
    exact hlast
  refine ⟨placed, q, [], rfl, hq, fun p hp => ?_, hn ▸ hin, fun a ha => ?_⟩
  · exact ⟨h.fresh hfresh p hp, (h.ledger.behind p hp).trans hdi⟩
  · exact (h.word hm).inWord a (mem_slice_of_le hdi (hn ▸ ha))

theorem advances_flag (h : s.Tracks text placed d n) (hc : text[n]? = some ':')
    (hm : s.mode.endsWords) : Advances text placed n s.readFlag := by
  have hflag := holds_flag hc
  rw [← h.cursor_eq] at hflag
  by_cases hnil : s.held.isEmpty
  · obtain rfl := (h.word hm).eq_of_nil (List.isEmpty_iff.1 hnil)
    rw [Scanner.readFlag, Scanner.beforeFlag, if_pos hnil]
    exact (h.ledger.concat hflag).advances_flag hc h.cursor_eq rfl
  by_cases hdrop : s.mode = .code ∧ s.last = .statementEnd
  · -- The ledger goes on behind the colon and leaves out the word before it.
    have hled : Ledger text (placed ++ [⟨⟨⟨.flag, ":"⟩, s.cursor⟩, n, n + 1⟩]) (n + 1) := by
      refine h.ledger.append (h.first_le.trans (Nat.le_succ n)) ?_ (List.pairwise_singleton ..)
        fun i h₁ h₂ => ?_
      · simpa using ⟨hflag, h.first_le⟩
      · by_cases hi : i < n
        · exact .inr (.inr (dropped_word h hm hdrop.2 rfl rfl h₁ hi))
        · exact .of_mem (List.mem_append_right placed List.mem_cons_self) (by simpa using hi) h₂
    rw [Scanner.readFlag, Scanner.beforeFlag, if_neg hnil, if_pos hdrop]
    exact hled.advances_flag hc h.cursor_eq rfl
  · have hkind : ¬ Kind.flagLabel.keepsReturns := by decide
    have hne : s.held ≠ [] := mt List.isEmpty_iff.2 hnil
    have hled := (h.ledger.concat (holds_word h hm hne hkind)).concat hflag
    rw [List.append_assoc] at hled
    rw [Scanner.readFlag, Scanner.beforeFlag, if_neg hnil, if_neg hdrop]
    exact hled.advances_flag hc h.cursor_eq rfl

theorem advances_open (h : s.Tracks text placed d n) (hc : text[n]? = some c)
    (hm : s.mode.endsWords) (hh : s.held = ['/']) (hret : c ≠ '\r') {kind : Kind}
    (hk : ¬ kind.keepsReturns) (hcomment : kind.isComment) {mode : Resume → Mode}
    (hcontext : ∀ r, (s.restart c (mode r) kind).context = r)
    (hblock : ∀ r r', mode r = .blockComment r' → kind = .multilineCommentStart) :
    Advances text placed n (s.openComment c kind mode) := by
  have hq : Placed.Holds text ⟨⟨⟨kind, s.text.push c⟩, s.start⟩, d, n + 1⟩ := {
    first_le := h.first_le.trans (Nat.le_succ n)
    stop_le := (List.getElem?_eq_some_iff.1 hc).1
    pos_eq := h.start_eq
    literal := fun hk' => absurd hk' hk
    significant := fun _ => by
      refine ⟨?_, (h.word hm).begins (by simp [hh])⟩
      rw [slice_succ h.first_le hc, significant_append, (h.word hm).significant_eq,
        significant_cons hret, String.toList_push, toList_text]
      rfl
    star := fun hk' => absurd (congrArg Kind.keepsReturns hk') hk }
  refine (h.ledger.concat hq).advances_restart hc h.cursor_eq rfl (fun hlast => ?_) fun r hr => ?_
  · rw [hcontext, ← Scanner.context_of_endsWords hm] at hlast
    intro p hp
    rcases List.mem_append.1 hp with hp | hp
    · exact h.fresh hlast p hp
    · rw [List.mem_singleton.1 hp]
      exact hcomment
  · exact ⟨_, List.getLast?_concat, hblock _ r hr⟩

theorem advances_close (h : s.Tracks text placed d n) (hc : text[n]? = some c) {r : Resume}
    (hr : s.context = r) {held : List Char} {closer : Lexeme} {m : Nat} (hdm : d ≤ m) (hmn : m ≤ n)
    (htext : slice text d m = held.reverse) (hclose : slice text m (n + 1) = closer.value.toList)
    (hk : closer.kind.keepsReturns) (hcomment : closer.kind.isComment)
    (hstar : closer.kind = .multilineCommentEnd → text[m]? = some '*') :
    Advances text placed n (s.closeComment c r held closer (placeOf text m)) := by
  have hq : Placed.Holds text
      ⟨⟨⟨.comment, String.ofList held.reverse⟩, s.start⟩, d, m⟩ := {
    first_le := hdm
    stop_le := hmn.trans h.read_le
    pos_eq := h.start_eq
    literal := fun _ => htext.trans String.toList_ofList.symm
    significant := fun hn => absurd rfl hn
    star := nofun }
  have hq' : Placed.Holds text ⟨⟨closer, placeOf text m⟩, m, n + 1⟩ := {
    first_le := hmn.trans (Nat.le_succ n)
    stop_le := (List.getElem?_eq_some_iff.1 hc).1
    pos_eq := rfl
    literal := fun _ => hclose
    significant := fun hn => absurd hk hn
    star := hstar }
  have hled := (h.ledger.concat hq).concat hq'
  rw [List.append_assoc] at hled
  refine hled.advances_restart hc h.cursor_eq rfl (fun hlast => ?_) fun r' hr' => ?_
  · rw [Scanner.context_of_endsWords (Resume.endsWords_mode r)] at hlast
    have hlast' : s.context.last = .statementEnd := hr ▸ hlast
    intro p hp
    rcases List.mem_append.1 hp with hp | hp
    · exact h.fresh hlast' p hp
    · simp only [List.mem_cons, List.singleton_append, List.not_mem_nil, or_false] at hp
      rcases hp with rfl | rfl
      · rfl
      · exact hcomment
  · have hends := Resume.endsWords_mode r
    rw [hr'] at hends
    exact absurd hends nofun

theorem slice_before_star (h : s.Tracks text placed d n) (hm : ¬ s.mode.endsWords)
    {held : List Char} (hh : s.held = '*' :: held) :
    ∃ m, n = m + 1 ∧ d ≤ m ∧ text[m]? = some '*' ∧ slice text d m = held.reverse := by
  have hslice := h.comment hm
  have hlen := length_slice (d := d) h.read_le
  rw [hslice, hh, List.length_reverse, List.length_cons] at hlen
  obtain ⟨m, rfl⟩ : ∃ m, n = m + 1 := ⟨n - 1, by omega⟩
  have hm' : m < text.length := h.read_le
  have hdm : d ≤ m := by omega
  rw [slice_succ hdm (List.getElem?_eq_getElem hm'), hh, List.reverse_cons,
    List.append_singleton_inj] at hslice
  exact ⟨m, rfl, hdm, hslice.2 ▸ List.getElem?_eq_getElem hm', hslice.1⟩

theorem advances_step (h : s.Tracks text placed d n) (hc : text[n]? = some c) :
    Advances text placed n (s.step c) := by
  have hstep := Scanner.step_spec s c
  generalize s.step c = o at hstep ⊢
  cases hstep with
  | skip hm hret =>
    subst hret
    exact advances_skip h hc hm
  | flag hm hcolon =>
    subst hcolon
    exact advances_flag h hc hm
  | blank hm _ hb => exact advances_blank h hc hm hb
  | openLine hm hh hslash =>
    subst hslash
    have hblock : ∀ r r', Mode.lineComment r = .blockComment r' →
        Kind.commentStart = .multilineCommentStart := by
      intro r r' hmode
      cases hmode
    exact advances_open h hc hm hh (by decide) (by decide) rfl (fun _ => rfl) hblock
  | openBlock hm hh hstar =>
    subst hstar
    have hblock : ∀ r r', Mode.blockComment r = .blockComment r' →
        Kind.multilineCommentStart = .multilineCommentStart := by
      intro r r' _
      rfl
    exact advances_open h hc hm hh (by decide) (by decide) rfl (fun _ => rfl) hblock
  | hold _ _ hb => exact advances_hold h hc fun _ => hb
  | closeLine r hm hnl =>
    subst hnl
    have hcontext : s.context = r := by simp [Scanner.context, hm]
    have htext := h.comment (by simp [hm, Mode.endsWords])
    have hkind : Kind.commentEnd = .multilineCommentEnd → text[n]? = some '*' := by
      intro hk
      cases hk
    rw [h.cursor_eq]
    exact advances_close h hc hcontext h.first_le le_rfl htext (slice_one hc) rfl rfl hkind
  | closeBlock r hm held hh hslash =>
    subst hslash
    have hcontext : s.context = r := by simp [Scanner.context, hm]
    obtain ⟨m, rfl, hdm, hstar, htext⟩ := slice_before_star h (by simp [hm, Mode.endsWords]) hh
    have hclose : slice text m (m + 1 + 1) = ['*', '/'] := by
      rw [slice_succ (Nat.le_succ m) hc, slice_one hstar]
      rfl
    rw [h.cursor_eq, left_placeOf_succ hstar (by decide)]
    exact advances_close h hc hcontext hdm (Nat.le_succ m) htext hclose rfl rfl fun _ => hstar
  | holdLine r hm | holdBlock r hm =>
    have hends : ¬ s.mode.endsWords := by simp [hm, Mode.endsWords]
    exact advances_hold h hc fun h' => absurd h' hends

theorem tracks_run (text : List Char) (hn : n ≤ text.length) :
    ∃ placed d, placed.map Placed.token =
        (Scanner.run {} (text.take n)).1.filterMap Event.token? ∧
      (Scanner.run {} (text.take n)).2.Tracks text placed d n := by
  induction n with
  | zero =>
    refine ⟨[], 0, rfl, ?_⟩
    exact {
      ledger := ledger_nil text
      first_le := le_rfl
      read_le := hn
      start_eq := rfl
      cursor_eq := rfl
      word := fun _ => pendingWord_nil text 0
      comment := fun h => absurd rfl h
      fresh := fun _ => nofun
      opener := nofun }
  | succ n ih =>
    obtain ⟨placed, d, htokens, h⟩ := ih (Nat.le_of_succ_le hn)
    have hc : text[n]? = some text[n] := List.getElem?_eq_getElem hn
    obtain ⟨new, d', hnew, h'⟩ := advances_step h hc
    refine ⟨placed ++ new, d', ?_, ?_⟩
    · rw [List.take_add_one, hc, Option.toList_some, Scanner.run_concat, List.map_append,
        List.filterMap_append, htokens, hnew]
    · rw [List.take_add_one, hc, Option.toList_some, Scanner.run_concat]
      exact h'

end Steps

/-- Every token of a text has its stretch of characters, and all others are blanks, dropped by the
first flag or swallowed by a comment that nothing closes. -/
theorem exists_spans (source : String) :
    ∃ placed : List Placed, placed.map Placed.token = tokenize source ∧
      (∀ q ∈ placed, q.Holds (closed source)) ∧
      (placed.Pairwise fun p q => p.stop ≤ q.first) ∧
      (∀ q ∈ placed, q.token.kind = .multilineCommentEnd →
        q.token.pos = (placeOf (closed source) (q.first + 1)).left ∧
          1 < (placeOf (closed source) (q.first + 1)).column) ∧
      ∀ i c, (closed source)[i]? = some c →
        Covered placed i ∨ Text.isBlank c ∨ Dropped (closed source) placed i ∨
          Swallowed placed i := by
  obtain ⟨placed, d, htokens, h⟩ := tracks_run (closed source) le_rfl
  rw [List.take_length] at htokens h
  refine ⟨placed, htokens, h.ledger.holds, h.ledger.ordered,
    fun q hq => (h.ledger.holds q hq).left_slash, fun i c hc => ?_⟩
  by_cases hi : i < d
  · rcases h.ledger.accounted i hi with ⟨a, ha, hb⟩ | hcov | hdrop
    · rw [hc, Option.some.injEq] at ha
      exact .inr (.inl (ha ▸ hb))
    · exact .inl hcov
    · exact .inr (.inr (.inl hdrop))
  · have hin : i < (closed source).length := (List.getElem?_eq_some_iff.1 hc).1
    have hlast : (Scanner.run {} (closed source)).2 =
        ((Scanner.run {} source.toList).2.step '\n').2 := by
      rw [closed, Scanner.run_concat]
    rcases Scanner.step_newline (Scanner.run {} source.toList).2 with ⟨hm, hnil⟩ | ⟨r, hm⟩
    · have hd := (h.word (hlast ▸ hm)).eq_of_nil (hlast ▸ hnil)
      omega
    · obtain ⟨q, hq, hkind⟩ := h.opener r (hlast ▸ hm)
      have hstop := h.ledger.behind q (List.mem_of_getLast? hq)
      exact .inr (.inr (.inr ⟨q, hq, hkind, by omega⟩))

end ZyxtLexer
