import Mathlib.Algebra.Ring.Parity
import ZyxtLexer.Proofs.Scanner.Reached

/-! What a scanner knows of the tokens before its next word. Comments leave it as it is, words and
flags set it anew, so behind any text it is what two rules say of the tokens: the latest one but
comments is known by its kind, and a label is under way if that is a flag with an odd number. -/
namespace ZyxtLexer

/-- The kind of the latest token that belongs to no comment; without one, that of a finished
statement. -/
def latestKind (ts : List Token) : Kind :=
  ((ts.filter fun t => !t.kind.isComment).getLast?.map fun t => t.kind).getD .statementEnd

section Latest
variable {ts us : List Token} {t : Token}

theorem latestKind_append_comments (h : ∀ t ∈ us, t.kind.isComment) :
    latestKind (ts ++ us) = latestKind ts := by
  have hnone : us.filter (fun t => !t.kind.isComment) = [] :=
    List.filter_eq_nil_iff.2 fun t ht => by simp [h t ht]
  rw [latestKind, List.filter_append, hnone, List.append_nil]
  rfl

theorem latestKind_concat (h : ¬ t.kind.isComment) : latestKind (ts ++ [t]) = t.kind := by
  have hone : [t].filter (fun t => !t.kind.isComment) = [t] := by simp [h]
  rw [latestKind, List.filter_append, hone, List.getLast?_concat]
  rfl

theorem latestKind_spec (ts : List Token) :
    ((∀ t ∈ ts, t.kind.isComment) ∧ latestKind ts = .statementEnd) ∨
      ∃ t ∈ ts, ¬ t.kind.isComment ∧ latestKind ts = t.kind := by
  by_cases h : ∀ t ∈ ts, t.kind.isComment
  · refine .inl ⟨h, ?_⟩
    rw [← List.nil_append ts, latestKind_append_comments h]
    rfl
  · have hne : ts.filter (fun t => !t.kind.isComment) ≠ [] := fun hnil =>
      h fun t ht => by simpa using List.filter_eq_nil_iff.1 hnil t ht
    obtain ⟨hmem, hk⟩ := List.mem_filter.1 (List.getLast_mem hne)
    refine .inr ⟨_, hmem, by simpa using hk, ?_⟩
    rw [latestKind, List.getLast?_eq_some_getLast hne]
    rfl

def flagCount (ts : List Token) : ℕ := ts.countP fun t => t.kind = .flag

theorem flagCount_append : flagCount (ts ++ us) = flagCount ts + flagCount us :=
  List.countP_append

theorem flagCount_eq_zero (h : ∀ t ∈ ts, t.kind ≠ .flag) : flagCount ts = 0 :=
  List.countP_eq_zero.2 fun t ht => by simpa using h t ht

theorem flagCount_singleton (h : t.kind = .flag) : flagCount [t] = 1 :=
  List.countP_eq_length.2 (List.forall_mem_singleton.2 (by simpa using h))

end Latest

theorem Kind.ne_flag_of_isComment {k : Kind} (h : k.isComment) : k ≠ .flag := by
  rintro rfl
  cases h

namespace Resume

/-- The context `r` is what the tokens `ts` amount to. Flags open and close labels in turn, so a
label is under way behind a flag with an odd number. -/
structure Recalls (r : Resume) (ts : List Token) : Prop where
  last_eq : r.last = latestKind ts
  fresh_iff : r.last = .statementEnd ↔ ∀ t ∈ ts, t.kind.isComment
  inFlag_iff : r.inFlag ↔ r.last = .flag ∧ Odd (flagCount ts)

section Recalls
variable {r : Resume} {ts us : List Token} {t : Token}

theorem recalls_initial : initial.Recalls [] where
  last_eq := rfl
  fresh_iff := by simp [initial]
  inFlag_iff := by simp [initial]

theorem recalls_append_comments (hus : ∀ t ∈ us, t.kind.isComment) :
    r.Recalls (ts ++ us) ↔ r.Recalls ts := by
  have hlast : latestKind (ts ++ us) = latestKind ts := latestKind_append_comments hus
  have hall : (∀ t ∈ ts ++ us, t.kind.isComment) ↔ ∀ t ∈ ts, t.kind.isComment := by
    rw [List.forall_mem_append, and_iff_left hus]
  have hcount : flagCount (ts ++ us) = flagCount ts := by
    rw [flagCount_append, flagCount_eq_zero fun t ht => Kind.ne_flag_of_isComment (hus t ht),
      Nat.add_zero]
  constructor
  · intro h
    exact ⟨h.last_eq.trans hlast, h.fresh_iff.trans hall, hcount ▸ h.inFlag_iff⟩
  · intro h
    exact ⟨h.last_eq.trans hlast.symm, h.fresh_iff.trans hall.symm, hcount.symm ▸ h.inFlag_iff⟩

theorem recalls_word (hcomment : ¬ t.kind.isComment) (hflag : t.kind ≠ .flag)
    (hend : t.kind ≠ .statementEnd) : Recalls ⟨t.kind, false⟩ (ts ++ [t]) where
  last_eq := (latestKind_concat hcomment).symm
  fresh_iff := iff_of_false hend fun hall => hcomment (hall t (by simp))
  inFlag_iff := iff_of_false Bool.false_ne_true fun h => hflag h.1

theorem Recalls.coherent (h : r.Recalls ts) : r.Coherent := fun hi => (h.inFlag_iff.1 hi).1

/-- As long as no word has come, the flags alone tell whether a label is under way. -/
theorem Recalls.inFlag_iff_odd (h : r.Recalls ts) (hf : r.takesFlags) :
    r.inFlag ↔ Odd (flagCount ts) := by
  have hlast : r.last = .statementEnd ∨ r.last = .flag := by simpa [takesFlags] using hf
  rcases hlast with hlast | hlast
  · have hcomments : ∀ t ∈ ts, t.kind.isComment := h.fresh_iff.1 hlast
    have hnone : flagCount ts = 0 :=
      flagCount_eq_zero fun t ht => Kind.ne_flag_of_isComment (hcomments t ht)
    rw [h.inFlag_iff, hlast, hnone]
    simp
  · rw [h.inFlag_iff, and_iff_right hlast]

/-- A flag turns the number of flags odd or even, whatever label stands in front of it. -/
theorem Recalls.flag (h : r.Recalls ts) (hf : r.takesFlags) (hus : ∀ u ∈ us, u.kind = .flagLabel)
    (ht : t.kind = .flag) : Recalls ⟨.flag, !r.inFlag⟩ (ts ++ us ++ [t]) where
  last_eq := by
    rw [latestKind_concat (by simp [ht, Kind.isComment]), ht]
  fresh_iff := by
    refine iff_of_false (by simp) fun hall => ?_
    have hcomment : t.kind.isComment := hall t (by simp)
    rw [ht] at hcomment
    cases hcomment
  inFlag_iff := by
    have hlabels : flagCount us = 0 := flagCount_eq_zero fun u hu => by simp [hus u hu]
    have hcount : flagCount (ts ++ us ++ [t]) = flagCount ts + 1 := by
      rw [flagCount_append, flagCount_append, hlabels, flagCount_singleton ht, Nat.add_zero]
    rw [hcount, Nat.odd_add_one, ← h.inFlag_iff_odd hf]
    simp

theorem Recalls.not_comment (h : r.Recalls ts) : ¬ r.last.isComment := by
  rw [h.last_eq]
  rcases latestKind_spec ts with ⟨-, hlast⟩ | ⟨t, -, hcomment, hlast⟩
  · rw [hlast]
    decide
  · rwa [hlast]

end Recalls

end Resume

namespace Scanner

/-- What a step does to the context, with the tokens of which this is the effect. -/
inductive Effect (s : Scanner) (c : Char) (o : List Event × Scanner) : Prop
  /-- Comments leave it, and so does a character that completes nothing. -/
  | keeps (ts : List Token) (hts : ∀ t ∈ ts, t.kind.isComment) (hes : o.1 = ts.map .emit)
    (hcontext : o.2.context = s.context)
  | word (t : Token) (hcomment : ¬ t.kind.isComment) (hflag : t.kind ≠ .flag)
    (hend : t.kind ≠ .statementEnd) (hes : o.1 = [.emit t])
    (hcontext : o.2.context = ⟨t.kind, false⟩)
  | flag (hm : s.mode.endsWords) (hc : c = ':') (hf : s.opensFlag) (ho : o = s.readFlag)
    (hcontext : o.2.context = ⟨.flag, !s.context.inFlag⟩)

variable {s : Scanner} {c : Char}

theorem context_readFlag (hm : s.mode.endsWords) :
    s.readFlag.2.context = ⟨.flag, !s.context.inFlag⟩ := by
  rw [context_of_endsWords hm]
  cases h : s.mode <;> simp [readFlag, restart, context, Mode.suspend, h]

theorem endedKind_plain (s : Scanner) :
    ¬ s.endedKind.isComment ∧ s.endedKind ≠ .flag ∧ s.endedKind ≠ .statementEnd := by
  have hk : ∀ k ∈ Kind.flagLabel :: Vocabulary.kinds,
      ¬ k.isComment ∧ k ≠ .flag ∧ k ≠ .statementEnd := by decide
  exact hk _ (endedKind_mem s)

theorem effect_step (s : Scanner) (c : Char) : Effect s c (s.step c) := by
  have hstep := step_spec s c
  generalize s.step c = o at hstep ⊢
  cases hstep with
  | skip | hold | holdLine | holdBlock => exact .keeps [] nofun rfl rfl
  | flag hm hc hf => exact .flag hm hc hf rfl (context_readFlag hm)
  | blank hm =>
    by_cases hnil : s.held.isEmpty
    · rw [readBlank, if_pos hnil]
      exact .keeps [] nofun rfl rfl
    · obtain ⟨hcomment, hflag, hend⟩ := endedKind_plain s
      rw [readBlank, if_neg hnil]
      exact .word ⟨⟨s.endedKind, s.text⟩, s.start⟩ hcomment hflag hend rfl rfl
  | openLine hm | openBlock hm =>
    refine .keeps [_] ?_ rfl (context_of_endsWords hm).symm
    exact fun t ht => List.mem_singleton.1 ht ▸ rfl
  | closeLine r hm | closeBlock r hm =>
    -- A comment gives back the context that it has kept.
    have hkept : s.context = r := by simp only [context, hm]
    refine .keeps [_, _] ?_ rfl ?_
    · intro t ht
      rcases List.mem_cons.1 ht with rfl | ht
      · rfl
      · rw [List.mem_singleton.1 ht]
        rfl
    · rw [hkept]
      exact (context_of_endsWords (Resume.endsWords_mode r)).trans r.suspend_mode

theorem opensFlag_of_context (hm : s.mode.endsWords) (hr : s.context.Coherent) :
    s.opensFlag = s.context.takesFlags := by
  rw [context_of_endsWords hm] at hr ⊢
  rcases Mode.endsWords_iff.1 hm with h | h
  · simp only [opensFlag, h]
    rfl
  · rw [h] at hr
    simp only [opensFlag, h]
    exact (hr.takesFlags rfl).symm

theorem tokens_readFlag (s : Scanner) :
    s.readFlag.1.filterMap Event.token? =
      s.beforeFlag.filterMap Event.token? ++ [⟨⟨.flag, ":"⟩, s.cursor⟩] := by
  rw [readFlag, List.filterMap_append]
  rfl

theorem recalls_step {ts : List Token} (h : s.context.Recalls ts) (c : Char) :
    (s.step c).2.context.Recalls (ts ++ (s.step c).1.filterMap Event.token?) := by
  have heff := effect_step s c
  generalize s.step c = o at heff ⊢
  cases heff with
  | keeps us hus hes hcontext =>
    rw [hes, hcontext, filterMap_token_emit]
    exact (Resume.recalls_append_comments hus).2 h
  | word t hcomment hflag hend hes hcontext =>
    rw [hes, hcontext]
    exact Resume.recalls_word hcomment hflag hend
  | flag hm _ hf ho hcontext =>
    have hlabels : ∀ u ∈ s.beforeFlag.filterMap Event.token?, u.kind = .flagLabel := by
      intro u hu
      rw [eq_of_mem_beforeFlag (mem_filterMap_token.1 hu)]
    rw [opensFlag_of_context hm h.coherent] at hf
    rw [hcontext, ho, tokens_readFlag, ← List.append_assoc]
    exact h.flag hf hlabels rfl

/-- Behind any text the context is what the tokens amount to. -/
theorem recalls_after (cs : List Char) : (after cs).context.Recalls (tokens {} cs) :=
  holds_after (fun ts s => s.context.Recalls ts) Resume.recalls_initial
    (fun _ _ c h => recalls_step h c) cs

theorem coherent_context_after (cs : List Char) : (after cs).context.Coherent :=
  (recalls_after cs).coherent

end Scanner
end ZyxtLexer
