import ZyxtLexer.Proofs.Scanner.Context
import ZyxtLexer.Scanner.Log

/-! The log of a scan reports all that is lost, and nothing else. Text can be lost to the first flag
of a text only, since behind a flag there is a label or a word between it and any further text, and
to a block comment that nothing closes. -/
namespace ZyxtLexer
namespace Scanner

/-- On the way through `text`, the character `c` behind `cs` brings forth the token `t`, alone. -/
structure ReadAt (text cs : List Char) (c : Char) (t : Token) : Prop where
  text_eq : ∃ ds, text = cs ++ c :: ds
  tokens_eq : (after cs).tokens [c] = [t]

/-- The colon behind `cs` is the first flag of `text`, with only comments before it and the tokens
`rest` behind it. -/
structure FirstFlag (text cs : List Char) (flag : Token) (rest : List Token) : Prop where
  read : ReadAt text cs ':' flag
  kind : flag.kind = .flag
  pos : flag.pos = Position.origin.past cs
  comments : ∀ t ∈ tokens {} cs, t.kind.isComment
  tokens_eq : tokens {} text = tokens {} cs ++ flag :: rest

/-- What a text brings forth: its tokens, and just before the first flag the text that is pending
there. -/
inductive Found (text : List Char) : List Event → Prop
  | unflagged (h : ∀ t ∈ tokens {} text, t.kind ≠ .flag) : Found text ((tokens {} text).map .emit)
  | kept (cs : List Char) (flag : Token) (rest : List Token) (h : FirstFlag text cs flag rest)
    (hheld : (after cs).held = []) : Found text ((tokens {} text).map .emit)
  | dropped (cs : List Char) (flag : Token) (rest : List Token) (h : FirstFlag text cs flag rest)
    (hheld : (after cs).held ≠ []) (htext : (after cs).text ≠ "")
    (hword : ∀ c ∈ (after cs).text.toList, ¬ Text.isBlank c ∧ c ≠ ':') :
    Found text ((tokens {} cs).map .emit ++
      .drop (after cs).text flag.pos :: (flag :: rest).map .emit)

/-- Where a text is lost in a block comment: just behind the star of the opener that is its last
token. -/
inductive Lost (text : List Char) : Option Position → Prop
  | closed (h : ∀ t, (tokens {} text).getLast? = some t → t.kind ≠ .multilineCommentStart) :
    Lost text none
  | unclosed (cs : List Char) (opener : Token) (h : ReadAt text cs '*' opener)
    (hkind : opener.kind = .multilineCommentStart)
    (hlast : tokens {} text = tokens {} cs ++ [opener]) :
    Lost text (some (Position.origin.past (cs ++ ['*'])))

variable {s : Scanner} {cs ds : List Char} {c d : Char} {t : Token} {rest : List Token}
  {es : List Event}

theorem ReadAt.concat (h : ReadAt cs ds d t) (c : Char) : ReadAt (cs ++ [c]) ds d t where
  text_eq := by
    obtain ⟨es, hes⟩ := h.text_eq
    exact ⟨es ++ [c], by rw [hes, List.append_assoc, List.cons_append]⟩
  tokens_eq := h.tokens_eq

theorem FirstFlag.concat (h : FirstFlag cs ds t rest) (c : Char) :
    FirstFlag (cs ++ [c]) ds t (rest ++ ((after cs).step c).1.filterMap Event.token?) where
  read := h.read.concat c
  kind := h.kind
  pos := h.pos
  comments := h.comments
  tokens_eq := by rw [tokens_concat, h.tokens_eq, List.append_assoc, List.cons_append]

theorem FirstFlag.flag_mem (h : FirstFlag cs ds t rest) : t ∈ tokens {} cs := by
  rw [h.tokens_eq]
  exact List.mem_append_right _ List.mem_cons_self

/-! ### What is pending at a flag -/

theorem beforeFlag_first (hm : s.mode.endsWords) (hr : s.context.Coherent)
    (hlast : s.context.last = .statementEnd) :
    s.beforeFlag = if s.held = [] then [] else [.drop s.text s.cursor] := by
  have hinFlag : ¬ s.context.inFlag := fun h => absurd ((hr h).symm.trans hlast) (by decide)
  rw [context_of_endsWords hm] at hlast hinFlag
  have hcode : s.mode = .code ∧ s.last = .statementEnd := by
    rcases Mode.endsWords_iff.1 hm with h | h
    · exact ⟨h, hlast⟩
    · exact absurd (by rw [h]; rfl) hinFlag
  simp only [beforeFlag, if_pos hcode, List.isEmpty_iff]

theorem beforeFlag_later (hm : s.mode.endsWords) (hlast : s.context.last ≠ .statementEnd) :
    ∃ ts : List Token, s.beforeFlag = ts.map .emit := by
  rw [context_of_endsWords hm] at hlast
  by_cases hnil : s.held.isEmpty
  · exact ⟨[], by rw [beforeFlag, if_pos hnil]; rfl⟩
  · refine ⟨[⟨⟨.flagLabel, s.text⟩, s.start⟩], ?_⟩
    rw [beforeFlag, if_neg hnil, if_neg fun h => hlast h.2]
    rfl

/-! ### A step -/

/-- Tokens are added to what has been found, as long as the first flag is not among them. -/
theorem Found.emits {ts : List Token} (h : Found cs es)
    (hstep : ((after cs).step c).1 = ts.map .emit)
    (hts : (∀ t ∈ ts, t.kind ≠ .flag) ∨ ∃ t ∈ tokens {} cs, t.kind = .flag) :
    Found (cs ++ [c]) (es ++ ((after cs).step c).1) := by
  have hnew : ((after cs).step c).1.filterMap Event.token? = ts := by
    rw [hstep, filterMap_token_emit]
  have htokens : (tokens {} (cs ++ [c])).map Event.emit =
      (tokens {} cs).map .emit ++ ((after cs).step c).1 := by
    rw [tokens_concat, hnew, List.map_append, hstep]
  cases h with
  | unflagged hnone =>
    rw [← htokens]
    refine .unflagged fun t ht => ?_
    rw [tokens_concat, hnew] at ht
    rcases hts with hts | ⟨t', ht', hkind⟩
    · exact (List.mem_append.1 ht).elim (hnone t) (hts t)
    · exact absurd hkind (hnone t' ht')
  | kept ds flag rest hfirst hheld =>
    rw [← htokens]
    exact .kept ds flag _ (hfirst.concat c) hheld
  | dropped ds flag rest hfirst hheld htext hword =>
    have hdropped := Found.dropped ds flag _ (hfirst.concat c) hheld htext hword
    rw [hnew] at hdropped
    rw [hstep, List.append_assoc, List.cons_append, ← List.map_append]
    exact hdropped

/-- The first flag. All that has been found before it are comments. -/
theorem Found.first (h : Found cs es) (hm : (after cs).mode.endsWords) (hf : (after cs).opensFlag)
    (hlast : (after cs).context.last = .statementEnd)
    (hstep : (after cs).step ':' = (after cs).readFlag) :
    Found (cs ++ [':']) (es ++ ((after cs).step ':').1) := by
  have hcomments : ∀ t ∈ tokens {} cs, t.kind.isComment := (recalls_after cs).fresh_iff.1 hlast
  have hes : es = (tokens {} cs).map .emit := by
    cases h with
    | unflagged | kept => rfl
    | dropped _ _ _ hfirst =>
      have hflag := hcomments _ hfirst.flag_mem
      rw [hfirst.kind] at hflag
      cases hflag
  have hbefore := beforeFlag_first hm (coherent_context_after cs) hlast
  have hnone : (after cs).beforeFlag.filterMap Event.token? = [] := by
    rw [hbefore]
    split <;> rfl
  have hone : ((after cs).step ':').1.filterMap Event.token? =
      [⟨⟨.flag, ":"⟩, (after cs).cursor⟩] := by
    rw [hstep, tokens_readFlag, hnone, List.nil_append]
  have hfirst : FirstFlag (cs ++ [':']) cs ⟨⟨.flag, ":"⟩, (after cs).cursor⟩ [] := {
    read := ⟨⟨[], rfl⟩, by rw [tokens, run_singleton, hone]⟩
    kind := rfl
    pos := cursor_after cs
    comments := hcomments
    tokens_eq := by rw [tokens_concat, hone] }
  by_cases hheld : (after cs).held = []
  · have hkept := Found.kept cs _ [] hfirst hheld
    rw [hfirst.tokens_eq, List.map_append] at hkept
    rw [hes, hstep, readFlag, hbefore, if_pos hheld, List.nil_append]
    exact hkept
  · have htext : (after cs).text ≠ "" := fun h => hheld <| by
      rw [← List.reverse_eq_nil_iff, ← toList_text, h]
      rfl
    rw [hes, hstep, readFlag, hbefore, if_neg hheld]
    refine .dropped cs _ [] hfirst hheld htext fun c hc => ?_
    rw [toList_text, List.mem_reverse] at hc
    have hword := unresolved_after cs
    exact ⟨hword.blank hm c hc, fun he => hword.colon hm hf (he ▸ hc)⟩

theorem Found.step (h : Found cs es) (c : Char) :
    Found (cs ++ [c]) (es ++ ((after cs).step c).1) := by
  cases effect_step (after cs) c with
  | keeps ts hts hes =>
    exact h.emits hes (.inl fun t ht => Kind.ne_flag_of_isComment (hts t ht))
  | word t _ hflag _ hes =>
    have hone : ((after cs).step c).1 = [t].map .emit := hes
    have hts : ∀ u ∈ [t], u.kind ≠ .flag := fun u hu => List.mem_singleton.1 hu ▸ hflag
    exact h.emits hone (.inl hts)
  | flag hm hc hf ho =>
    subst hc
    by_cases hlast : (after cs).context.last = .statementEnd
    · exact h.first hm hf hlast ho
    · -- A flag that is not the first one follows another: the context says so.
      have hbehind : (after cs).context.last = .flag := by
        rw [opensFlag_of_context hm (coherent_context_after cs), Resume.takesFlags] at hf
        simpa [hlast] using hf
      have hflag : ∃ t ∈ tokens {} cs, t.kind = .flag := by
        rw [(recalls_after cs).last_eq] at hbehind
        rcases latestKind_spec (tokens {} cs) with ⟨-, hnone⟩ | ⟨t, ht, -, hkind⟩
        · exact absurd (hnone.symm.trans hbehind) (by decide)
        · exact ⟨t, ht, hkind.symm.trans hbehind⟩
      obtain ⟨ts, hts⟩ := beforeFlag_later hm hlast
      have hes : ((after cs).step ':').1 =
          List.map Event.emit (ts ++ [⟨⟨.flag, ":"⟩, (after cs).cursor⟩]) := by
        rw [ho, readFlag, hts, List.map_append]
        rfl
      exact h.emits hes (.inr hflag)

/-- A character that brings forth nothing leaves a text as lost as it was. -/
theorem Lost.silent {p : Option Position} (h : Lost cs p) (hstep : ((after cs).step c).1 = []) :
    Lost (cs ++ [c]) p := by
  have htokens : tokens {} (cs ++ [c]) = tokens {} cs := by
    rw [tokens_concat, hstep]
    exact List.append_nil _
  cases h with
  | closed hlast => exact .closed (htokens ▸ hlast)
  | unclosed ds opener hread hkind hlast =>
    exact .unclosed ds opener (hread.concat c) hkind (htokens.trans hlast)

theorem lost_none (hlast : (((after cs).step c).1.filterMap Event.token?).getLast? = some t)
    (hkind : t.kind ≠ .multilineCommentStart) : Lost (cs ++ [c]) none := by
  refine .closed fun u hu => ?_
  rw [tokens_concat, List.getLast?_append, hlast, Option.some_or, Option.some.injEq] at hu
  exact hu ▸ hkind

theorem unclosed_of_endsWords (hm : s.mode.endsWords) : s.unclosed? = none := by
  rcases Mode.endsWords_iff.1 hm with h | h <;> simp only [unclosed?, h]

theorem Lost.step (h : Lost cs (after cs).unclosed?) (c : Char) :
    Lost (cs ++ [c]) ((after cs).step c).2.unclosed? := by
  have hstep := step_spec (after cs) c
  have hsilent : ((after cs).step c).1 = [] → Lost (cs ++ [c]) (after cs).unclosed? := h.silent
  have hnone : ∀ t : Token, (((after cs).step c).1.filterMap Event.token?).getLast? = some t →
      t.kind ≠ .multilineCommentStart → Lost (cs ++ [c]) none := fun _ => lost_none
  have htokens := tokens_concat cs c
  have hread : (after cs).tokens [c] = ((after cs).step c).1.filterMap Event.token? := by
    rw [tokens, run_singleton]
  generalize (after cs).step c = o at hstep hsilent hnone htokens hread ⊢
  cases hstep with
  | skip hm =>
    have hm' : ((after cs).skip c).mode.endsWords := hm
    rw [unclosed_of_endsWords hm']
    exact unclosed_of_endsWords hm ▸ hsilent rfl
  | hold | holdLine | holdBlock => exact hsilent rfl
  | flag hm =>
    rw [unclosed_of_endsWords (after cs).endsWords_readFlag]
    refine hnone ⟨⟨.flag, ":"⟩, (after cs).cursor⟩ ?_ (by simp)
    rw [tokens_readFlag, List.getLast?_concat]
  | blank hm =>
    by_cases hnil : (after cs).held.isEmpty
    · rw [readBlank, if_pos hnil] at hsilent ⊢
      have hm' : ((after cs).restart c (after cs).mode (after cs).last).mode.endsWords := hm
      rw [unclosed_of_endsWords hm']
      exact unclosed_of_endsWords hm ▸ hsilent rfl
    · rw [readBlank, if_neg hnil] at hnone ⊢
      refine hnone ⟨⟨(after cs).endedKind, (after cs).text⟩, (after cs).start⟩ rfl fun hkind => ?_
      have hcomment := (endedKind_plain (after cs)).1
      exact hcomment (congrArg Kind.isComment hkind)
  | openLine =>
    exact hnone ⟨⟨.commentStart, (after cs).text.push c⟩, (after cs).start⟩ rfl (by simp)
  | openBlock _ _ hc =>
    subst hc
    have hplace : (after cs).cursor.advance '*' = Position.origin.past (cs ++ ['*']) := by
      rw [cursor_after, Position.past_append]
      rfl
    have hstart : ((after cs).openComment '*' .multilineCommentStart .blockComment).2.unclosed? =
        some ((after cs).cursor.advance '*') := rfl
    rw [hstart, hplace]
    exact .unclosed cs _ ⟨⟨[], rfl⟩, hread⟩ rfl htokens
  | closeLine r =>
    rw [unclosed_of_endsWords r.endsWords_mode]
    exact hnone ⟨⟨.commentEnd, "\n"⟩, (after cs).cursor⟩ rfl (by simp)
  | closeBlock r =>
    rw [unclosed_of_endsWords r.endsWords_mode]
    exact hnone ⟨⟨.multilineCommentEnd, "*/"⟩, (after cs).cursor.left⟩ rfl (by simp)

/-! ### A run -/

end Scanner

open Scanner

example : (scanLog "/**/ b:/*").map LogEntry.message =
    ["tokenize", "emit", "emit", "emit", "text before opening flag dropped", "emit", "emit",
      "block comment not closed before end of input", "tokenized input"] := by decide

end ZyxtLexer
