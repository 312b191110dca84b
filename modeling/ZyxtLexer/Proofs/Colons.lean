import ZyxtLexer.Proofs.Losses

/-! Which colons are flags. Up to the first ordinary word of a text every colon outside comments is
a flag. From that word on none is one: a colon is then part of a word, or of a comment. -/
namespace ZyxtLexer

/-- A token is no ordinary word if it is of a comment, a flag, or a label with a flag right
behind it. -/
def NoWord (t : Token) (behind : List Token) : Prop :=
  t.kind.isComment ∨ t.kind = .flag ∨
    t.kind = .flagLabel ∧ (behind.head?.map fun u => u.kind) = some .flag

instance (t : Token) (behind : List Token) : Decidable (NoWord t behind) :=
  inferInstanceAs (Decidable (_ ∨ _))

/-- The first word of a text, or the first label that a blank ends. -/
def firstWord? : List Token → Option Token
  | [] => none
  | t :: ts => if NoWord t ts then firstWord? ts else some t

section FirstWord
variable {ts us : List Token} {t w : Token}

theorem NoWord.append (h : NoWord t ts) (us : List Token) : NoWord t (ts ++ us) := by
  refine h.imp_right (Or.imp_right (And.imp_right fun hnext => ?_))
  cases ts with
  | nil => cases hnext
  | cons u ts => exact hnext

theorem NoWord.of_append (h : NoWord t (ts ++ us)) (hus : ∀ u ∈ us, u.kind ≠ .flag) :
    NoWord t ts := by
  refine h.imp_right (Or.imp_right (And.imp_right fun hnext => ?_))
  cases ts with
  | nil =>
    obtain ⟨u, hu, hkind⟩ := Option.map_eq_some_iff.1 hnext
    exact absurd hkind (hus u (List.mem_of_mem_head? hu))
  | cons u ts => exact hnext

theorem firstWord?_comments (h : ∀ t ∈ ts, t.kind.isComment) : firstWord? ts = none := by
  induction ts with
  | nil => rfl
  | cons t ts ih =>
    have ht : NoWord t ts := .inl (h t List.mem_cons_self)
    rw [firstWord?, if_pos ht]
    exact ih fun u hu => h u (List.mem_cons_of_mem t hu)

theorem firstWord?_singleton (hcomment : ¬ t.kind.isComment) (hflag : t.kind ≠ .flag) :
    firstWord? [t] = some t := by
  refine if_neg ?_
  rintro (h | h | ⟨-, h⟩)
  · exact hcomment h
  · exact hflag h
  · cases h

theorem firstWord?_append_of_none (h : firstWord? ts = none) (us : List Token) :
    firstWord? (ts ++ us) = firstWord? us := by
  induction ts with
  | nil => rfl
  | cons t ts ih =>
    rw [firstWord?] at h
    split at h
    next ht =>
      rw [List.cons_append, firstWord?, if_pos (ht.append us)]
      exact ih h
    next => cases h

/-- A word that has been found stays the first one, unless it was a label and a flag follows. -/
theorem firstWord?_append_of_some (h : firstWord? ts = some w) (hus : ∀ u ∈ us, u.kind ≠ .flag) :
    firstWord? (ts ++ us) = some w := by
  induction ts with
  | nil => cases h
  | cons t ts ih =>
    rw [firstWord?] at h
    rw [List.cons_append, firstWord?]
    split at h
    next ht =>
      rw [if_pos (ht.append us)]
      exact ih h
    next ht =>
      rw [if_neg fun ht' => ht (ht'.of_append hus)]
      exact h

theorem mem_of_firstWord? (h : firstWord? ts = some w) : w ∈ ts := by
  induction ts with
  | nil => cases h
  | cons t ts ih =>
    rw [firstWord?] at h
    split at h
    · exact List.mem_cons_of_mem t (ih h)
    · rw [Option.some.inj h]
      exact List.mem_cons_self

end FirstWord

/-- The character `c` between `cs` and `ds` is in the stretch of a word, which has the token `t`. -/
structure PartOfWord (cs : List Char) (c : Char) (ds : List Char) (t : Token) : Prop where
  kind : t.kind ∈ Vocabulary.kinds
  stretch : ∃ before first more behind, cs = before ++ first ∧ ds = more ++ behind ∧
    t.pos = Position.origin.past before ∧ t.value.toList = significant (first ++ c :: more)

namespace Scanner

variable {s : Scanner} {cs ds : List Char} {c : Char} {t w : Token}

/-! ### Flags and the text behind them -/

/-- The flags of a text stand before what is pending at its end. -/
theorem pos_lt_start_after (ht : t ∈ tokens {} cs) (hflag : t.kind = .flag) :
    t.pos < (after cs).start := by
  induction cs using List.reverseRecOn with
  | nil => cases ht
  | append_singleton cs c ih =>
    rw [tokens_concat] at ht
    rw [after_concat]
    rcases List.mem_append.1 ht with ht | ht
    · exact Position.lt_of_lt_of_le (ih ht) (start_le_step (start_le_cursor_after cs) c)
    have heff := effect_step (after cs) c
    generalize (after cs).step c = o at heff ht ⊢
    cases heff with
    | keeps ts hts hes =>
      rw [hes, filterMap_token_emit] at ht
      exact absurd hflag (Kind.ne_flag_of_isComment (hts t ht))
    | word t' _ hne _ hes =>
      rw [hes] at ht
      exact absurd (List.mem_singleton.1 ht ▸ hflag) hne
    | flag _ _ _ ho =>
      rw [ho, tokens_readFlag] at ht
      rw [ho]
      rcases List.mem_append.1 ht with ht | ht
      · rw [eq_of_mem_beforeFlag (mem_filterMap_token.1 ht)] at hflag
        cases hflag
      · rw [List.mem_singleton.1 ht]
        exact Position.lt_advance _ ':'

theorem step_colon (hm : s.mode.endsWords) (hf : s.opensFlag) : s.step ':' = s.readFlag := by
  have hcode : s.step ':' = s.readCode ':' := by
    rcases Mode.endsWords_iff.1 hm with h | h <;> simp only [step, h]
  rw [hcode, readCode, if_neg (by decide), if_pos ⟨rfl, hf⟩]

/-! ### Flags and the first word -/

/-- What the tokens of a text say of the colons behind it. -/
inductive Stage (cs : List Char) : Prop
  | flags (hf : (after cs).context.takesFlags) (hnone : firstWord? (tokens {} cs) = none)
  | words (hf : ¬ (after cs).context.takesFlags) (w : Token)
    (hw : firstWord? (tokens {} cs) = some w) (hcolon : ':' ∉ w.value.toList)
    (hbefore : ∀ t ∈ tokens {} cs, t.kind = .flag → t.pos < w.pos)

/-- Once there is a word, no step brings forth a flag, or makes room for one. -/
theorem step_words (hf : ¬ (after cs).context.takesFlags) (c : Char) :
    ¬ ((after cs).step c).2.context.takesFlags ∧
      ∀ t ∈ ((after cs).step c).1.filterMap Event.token?, t.kind ≠ .flag := by
  have heff := effect_step (after cs) c
  generalize (after cs).step c = o at heff ⊢
  cases heff with
  | keeps ts hts hes hcontext =>
    rw [hcontext, hes, filterMap_token_emit]
    exact ⟨hf, fun t ht => Kind.ne_flag_of_isComment (hts t ht)⟩
  | word t _ hflag hend hes hcontext =>
    rw [hcontext, hes]
    exact ⟨by simp [Resume.takesFlags, hend, hflag], fun u hu => List.mem_singleton.1 hu ▸ hflag⟩
  | flag hm _ hopens =>
    rw [opensFlag_of_context hm (coherent_context_after cs)] at hopens
    exact absurd hopens hf

theorem firstWord?_readFlag (s : Scanner) :
    firstWord? (s.readFlag.1.filterMap Event.token?) = none := by
  rw [tokens_readFlag, beforeFlag]
  split
  · rfl
  · split <;> rfl

theorem Stage.step (h : Stage cs) (c : Char) : Stage (cs ++ [c]) := by
  cases h with
  | flags hf hnone =>
    have hnext := firstWord?_append_of_none hnone (((after cs).step c).1.filterMap Event.token?)
    rw [← tokens_concat] at hnext
    cases effect_step (after cs) c with
    | keeps ts hts hes hcontext =>
      rw [hes, filterMap_token_emit, firstWord?_comments hts] at hnext
      exact .flags (by rw [after_concat, hcontext]; exact hf) hnext
    | flag hm _ _ ho hcontext =>
      rw [ho, firstWord?_readFlag] at hnext
      exact .flags (by rw [after_concat, hcontext]; rfl) hnext
    | word t hcomment hflag hend hes hcontext =>
      have hone : ((after cs).step c).1.filterMap Event.token? = [t] := by rw [hes]; rfl
      rw [hone, firstWord?_singleton hcomment hflag] at hnext
      have hmem : .emit t ∈ ((after cs).step c).1 := hes ▸ List.mem_singleton_self _
      obtain ⟨hm, hvalue, hpos⟩ := pending_of_mem_step hmem hcomment hflag
      have hopens : (after cs).opensFlag := by
        rw [opensFlag_of_context hm (coherent_context_after cs)]
        exact hf
      refine .words ?_ t hnext ?_ fun u hu hkind => ?_
      · rw [after_concat, hcontext]
        simp [Resume.takesFlags, hend, hflag]
      · rw [hvalue, toList_text, List.mem_reverse]
        exact (unresolved_after cs).colon hm hopens
      · rw [tokens_concat, hone] at hu
        rcases List.mem_append.1 hu with hu | hu
        · rw [hpos]
          exact pos_lt_start_after hu hkind
        · exact absurd hkind (List.mem_singleton.1 hu ▸ hflag)
  | words hf w hw hcolon hbefore =>
    obtain ⟨hf', hnew⟩ := step_words hf c
    refine .words (by rwa [after_concat]) w ?_ hcolon fun t ht hkind => ?_
    · rw [tokens_concat]
      exact firstWord?_append_of_some hw hnew
    · rw [tokens_concat] at ht
      rcases List.mem_append.1 ht with ht | ht
      · exact hbefore t ht hkind
      · exact absurd hkind (hnew t ht)

theorem stage_after (cs : List Char) : Stage cs := by
  induction cs using List.reverseRecOn with
  | nil => exact .flags rfl rfl
  | append_singleton cs c ih => exact ih.step c

/-- The first word of a text stays the first one as the text goes on. -/
theorem firstWord?_tokens_append (h : firstWord? (tokens {} cs) = some w) (ds : List Char) :
    firstWord? (tokens {} (cs ++ ds)) = some w := by
  induction ds using List.reverseRecOn with
  | nil => rwa [List.append_nil]
  | append_singleton ds d ih =>
    rw [← List.append_assoc, tokens_concat]
    cases stage_after (cs ++ ds) with
    | flags _ hnone => exact absurd (hnone.symm.trans ih) nofun
    | words hf => exact firstWord?_append_of_some ih (step_words hf d).2

/-- A colon outside comments is a flag as long as there is no word. -/
theorem flag_mem_tokens (hm : (after cs).mode.endsWords) (hf : (after cs).context.takesFlags)
    (ds : List Char) :
    (⟨⟨.flag, ":"⟩, Position.origin.past cs⟩ : Token) ∈ tokens {} (cs ++ ':' :: ds) := by
  have hopens : (after cs).opensFlag := by
    rw [opensFlag_of_context hm (coherent_context_after cs)]
    exact hf
  have hsplit : cs ++ ':' :: ds = cs ++ [':'] ++ ds := List.append_cons cs ':' ds
  rw [hsplit, tokens_append, tokens_concat, step_colon hm hopens, tokens_readFlag, cursor_after]
  simp

/-! ### Colons in words -/

theorem run_within_colon {r : Resume} {held more : List Char} (hr : r.Coherent)
    (hf : ¬ r.takesFlags) (ho : ¬ OpensComment held.reverse) (hmore : ∀ a ∈ more, inWord a)
    (start cursor : Position) :
    (within r held start cursor).run (':' :: more) =
      ([], within r ((significant more).reverse ++ ':' :: held) start
        (cursor.past (':' :: more))) := by
  have hplain : ∀ v, ¬ OpensComment (held.reverse ++ ':' :: v) := by
    intro v hopens
    rcases hopens.cases_append with h | ⟨-, h⟩ | ⟨-, h, -⟩
    · exact ho h
    · exact absurd h (by decide)
    · exact absurd h (by decide)
  have hword : ¬ OpensComment ((':' :: held).reverse ++ significant more) := by
    simpa using hplain (significant more)
  rw [run_cons, step_within_hold hr (by decide) (fun h => absurd h hf) (hplain [])]
  simp only [run_within hr hmore (fun h => absurd h hf) (List.cons_ne_nil ':' held) hword]
  rfl

theorem tokens_within_colon {r : Resume} {held more : List Char} {b : Char} (hr : r.Coherent)
    (hf : ¬ r.takesFlags) (ho : ¬ OpensComment held.reverse) (hmore : ∀ a ∈ more, inWord a)
    (hb : ¬ inWord b) (start cursor : Position) (rest : List Char) :
    ∃ word, word.toList = held.reverse ++ ':' :: significant more ∧
      ⟨⟨r.kindOf word, word⟩, start⟩ ∈
        (within r held start cursor).tokens (':' :: more ++ b :: rest) := by
  obtain ⟨hret, hblank⟩ : b ≠ '\r' ∧ Text.isBlank b := by simpa [inWord] using hb
  have hheld : (significant more).reverse ++ ':' :: held ≠ [] := by simp
  refine ⟨String.ofList ((significant more).reverse ++ ':' :: held).reverse, by simp, ?_⟩
  rw [mem_tokens, run_append, run_within_colon hr hf ho hmore, run_cons,
    step_within_blank hheld hblank hret]
  exact List.mem_cons_self

/-- Once there is a word, a colon outside comments is part of another one. -/
theorem partOfWord_colon (hm : (after cs).mode.endsWords) (hf : ¬ (after cs).context.takesFlags)
    (ds : List Char) : ∃ t ∈ tokens {} (cs ++ ':' :: ds ++ ['\n']), PartOfWord cs ':' ds t := by
  -- The newline behind the text is such a blank too.
  obtain ⟨b, rest, hrest, hb⟩ :
      ∃ b rest, ds.dropWhile inWord ++ ['\n'] = b :: rest ∧ ¬ inWord b := by
    cases h : ds.dropWhile inWord with
    | nil => exact ⟨'\n', [], rfl, by decide⟩
    | cons b rest => exact ⟨b, rest ++ ['\n'], rfl, not_of_dropWhile_eq_cons h⟩
  have hsplit : cs ++ ':' :: ds ++ ['\n'] = cs ++ (':' :: ds.takeWhile inWord ++ b :: rest) := by
    rw [← hrest, List.append_assoc, List.cons_append, List.cons_append, ← List.append_assoc,
      List.takeWhile_append_dropWhile]
  have hr : (after cs).context.Coherent := coherent_context_after cs
  obtain ⟨word, hword, hmem⟩ := tokens_within_colon hr hf ((unresolved_after cs).opener hm)
    (fun a ha => List.mem_takeWhile_imp ha) hb (after cs).start (after cs).cursor rest
  rw [← eq_within hm] at hmem
  refine ⟨⟨⟨(after cs).context.kindOf word, word⟩, (after cs).start⟩, ?_, ?_, ?_⟩
  · rw [hsplit, tokens_append]
    exact List.mem_append_right _ hmem
  · have hinFlag : ¬ (after cs).context.inFlag := fun h => hf (hr.takesFlags h)
    have hkind : (after cs).context.kindOf word = wordKind word := if_neg hinFlag
    exact hkind ▸ wordKind_mem word
  · obtain ⟨placed, d, h⟩ := exists_tracks_after cs
    have hheld : significant (cs.drop d) = (after cs).held.reverse := by
      rw [← (h.word hm).significant_eq, slice, List.take_length]
    refine ⟨cs.take d, cs.drop d, ds.takeWhile inWord, ds.dropWhile inWord,
      (List.take_append_drop d cs).symm, List.takeWhile_append_dropWhile.symm, h.start_eq, ?_⟩
    rw [hword, significant_append, hheld, significant_cons (by decide)]

end Scanner

open Scanner

/-- In a text with a first word every colon outside comments that comes before the word is a flag,
the word has no colon, and behind it no colon is a flag: each is in a comment or part of a word.
Without such a word every colon outside comments is a flag. -/
theorem tokenize_colons (source : String) :
    (∀ w, firstWord? (tokenize source) = some w →
      ':' ∉ w.value.toList ∧ ∀ t ∈ tokenize source, t.kind = .flag → t.pos < w.pos) ∧
    ∀ cs ds, source.toList = cs ++ ':' :: ds →
      ((after cs).mode.endsWords →
        (∀ w, firstWord? (tokenize source) = some w → Position.origin.past cs < w.pos) →
        (⟨⟨.flag, ":"⟩, Position.origin.past cs⟩ : Token) ∈ tokenize source) ∧
      ∀ w, firstWord? (tokenize source) = some w → w.pos ≤ Position.origin.past cs →
        (∀ t ∈ tokenize source, t.kind = .flag → t.pos ≠ Position.origin.past cs) ∧
          ((after cs).mode.endsWords → ∃ t ∈ tokenize source, PartOfWord cs ':' ds t) := by
  have hfirst : ∀ w, firstWord? (tokenize source) = some w →
      ':' ∉ w.value.toList ∧ ∀ t ∈ tokenize source, t.kind = .flag → t.pos < w.pos := by
    intro w hw
    rw [tokenize_eq_tokens] at hw ⊢
    cases stage_after (closed source) with
    | flags _ hnone => exact absurd (hnone.symm.trans hw) nofun
    | words _ w' hw' hcolon hbefore =>
      cases hw'.symm.trans hw
      exact ⟨hcolon, hbefore⟩
  refine ⟨hfirst, fun cs ds hsource => ?_⟩
  have hclosed : closed source = cs ++ ':' :: ds ++ ['\n'] := by rw [closed, hsource]
  have htokens : tokenize source = tokens {} (cs ++ ':' :: (ds ++ ['\n'])) := by
    rw [tokenize_eq_tokens, hclosed, List.append_assoc, List.cons_append]
  have hstage := stage_after cs
  refine ⟨fun hm hbefore => ?_, fun w hw hbehind => ⟨fun t ht hkind hpos => ?_, fun hm => ?_⟩⟩
  · rw [htokens]
    cases hstage with
    | flags hf => exact flag_mem_tokens hm hf _
    | words _ w hw =>
      -- A word that has come before the colon does not stand behind it.
      have hlt : w.pos < Position.origin.past cs :=
        cursor_after cs ▸ pos_lt_cursor_after cs (mem_of_firstWord? hw)
      have hgt := hbefore w (htokens ▸ firstWord?_tokens_append hw _)
      exact absurd (Position.le_of_lt hgt) (Position.not_le_of_lt hlt)
  · exact Position.not_le_of_lt ((hfirst w hw).2 t ht hkind) (hpos ▸ hbehind)
  · cases hstage with
    | flags hf =>
      have hflag := (hfirst w hw).2 _ (htokens ▸ flag_mem_tokens hm hf (ds ++ ['\n'])) rfl
      exact absurd hbehind (Position.not_le_of_lt hflag)
    | words hf =>
      rw [tokenize_eq_tokens, hclosed]
      exact partOfWord_colon hm hf ds

/-- A text with a flag, a comment, the first word and a further one, each with a colon. -/
theorem tokenize_colons_around_word :
    firstWord? (tokenize "x:m: /*:*/ w c:d") = some ⟨⟨.variableName, "w"⟩, ⟨1, 12⟩⟩ ∧
      (∀ t ∈ tokenize "x:m: /*:*/ w c:d", t.kind = .flag → t.pos < ⟨1, 12⟩) ∧
      (⟨⟨.flag, ":"⟩, ⟨1, 4⟩⟩ : Token) ∈ tokenize "x:m: /*:*/ w c:d" ∧
      ∃ t ∈ tokenize "x:m: /*:*/ w c:d", PartOfWord "x:m: /*:*/ w c".toList ':' ['d'] t := by
  have hw : firstWord? (tokenize "x:m: /*:*/ w c:d") =
      some ⟨⟨.variableName, "w"⟩, ⟨1, 12⟩⟩ := by decide
  obtain ⟨hfirst, hcolons⟩ := tokenize_colons "x:m: /*:*/ w c:d"
  refine ⟨hw, (hfirst _ hw).2, ?_, ?_⟩
  · refine (hcolons "x:m".toList " /*:*/ w c:d".toList (by simp)).1 (by decide) fun w h => ?_
    rw [← Option.some.inj (hw.symm.trans h)]
    exact Position.lt_iff.2 (by decide)
  · have hbehind := (hcolons "x:m: /*:*/ w c".toList ['d'] (by simp)).2 _ hw
    exact (hbehind (Position.le_iff.2 (by decide))).2 (by decide)

end ZyxtLexer
