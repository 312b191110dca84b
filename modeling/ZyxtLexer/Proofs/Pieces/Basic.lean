import ZyxtLexer.Proofs.Text.Legible
import ZyxtLexer.Render
import ZyxtLexer.Scanner.Basic
import ZyxtLexer.Text.Classes
import ZyxtLexer.Token.Vocabulary

/-! Reading a text piece by piece: whole comments, flags, labels and words, each found by looking
ahead for its end. Nothing here goes through the scanner. What can be cut off a text is also given
by rules, and cutting finds exactly what the rules allow. -/
namespace ZyxtLexer

theorem not_of_dropWhile_eq_cons {p : Char → Bool} {cs rest : List Char} {c : Char}
    (h : cs.dropWhile p = c :: rest) : ¬ p c := by
  simpa [h] using List.head_dropWhile_not p (l := cs) (by simp [h])

/-- A carriage return is a blank that separates nothing. -/
def inWord (c : Char) : Bool := c = '\r' || !Text.isBlank c

theorem ne_return_of_not_blank {c : Char} (hc : ¬ Text.isBlank c) : c ≠ '\r' := by
  rintro rfl
  exact hc (by decide)

theorem inWord_of_not_blank {c : Char} (hc : ¬ Text.isBlank c) : inWord c := by simp [inWord, hc]

theorem not_blank_of_inWord {c : Char} (hc : inWord c) (hret : c ≠ '\r') : ¬ Text.isBlank c := by
  simpa [inWord, hret] using hc

/-- What is left of the text of a word without its carriage returns. -/
def significant (cs : List Char) : List Char := cs.filter (· ≠ '\r')

@[simp] theorem significant_nil : significant [] = [] := rfl

@[simp] theorem significant_append (cs ds : List Char) :
    significant (cs ++ ds) = significant cs ++ significant ds := List.filter_append ..

theorem significant_return (cs : List Char) : significant ('\r' :: cs) = significant cs := rfl

theorem significant_cons {c : Char} (hc : c ≠ '\r') (cs : List Char) :
    significant (c :: cs) = c :: significant cs := List.filter_cons_of_pos (by simpa using hc)

theorem significant_returns {v : List Char} (hv : ∀ b ∈ v, b = '\r') : significant v = [] :=
  List.filter_eq_nil_iff.2 fun b hb => by simp [hv b hb]

theorem significant_eq_self {cs : List Char} (h : '\r' ∉ cs) : significant cs = cs :=
  List.filter_eq_self.2 (decide_ne_of_not_mem h)

@[simp] theorem mem_significant {c : Char} {cs : List Char} :
    c ∈ significant cs ↔ c ∈ cs ∧ c ≠ '\r' := by simp [significant]

theorem inWord_slash {v : List Char} (hv : ∀ b ∈ v, b = '\r') : ∀ c ∈ '/' :: v, inWord c := by
  intro c hc
  rcases List.mem_cons.1 hc with rfl | hc
  · decide
  · rw [hv c hc]
    decide

namespace Resume

def initial : Resume := ⟨.statementEnd, false⟩

/-- Whether no word has come yet, so that a colon is a flag. -/
def takesFlags (r : Resume) : Bool := r.last = .statementEnd || r.last = .flag

/-- A label can only be under way right behind a flag. -/
def Coherent (r : Resume) : Prop := r.inFlag → r.last = .flag

theorem coherent_initial : initial.Coherent := nofun

def kindOf (r : Resume) (word : String) : Kind := if r.inFlag then .flagLabel else wordKind word

theorem Coherent.takesFlags {r : Resume} (h : r.Coherent) (hf : r.inFlag) : r.takesFlags := by
  simp [Resume.takesFlags, h hf]

end Resume

inductive Piece where
  | line (text : String)
  | block (text : String)
  /-- The opener of a block comment that nothing closes. -/
  | unclosed
  /-- The colon of a flag, with the label that is attached in front of it. -/
  | flag (label? : Option String)
  /-- A label that ends without a colon. -/
  | label (name : String)
  | word (text : String)
deriving DecidableEq

namespace Piece

def lexemes : Piece → List Lexeme
  | line text => [⟨.commentStart, "//"⟩, ⟨.comment, text⟩, ⟨.commentEnd, "\n"⟩]
  | block text => [⟨.multilineCommentStart, "/*"⟩, ⟨.comment, text⟩, ⟨.multilineCommentEnd, "*/"⟩]
  | unclosed => [⟨.multilineCommentStart, "/*"⟩]
  | flag label? => (label?.map fun name => ⟨.flagLabel, name⟩).toList ++ [⟨.flag, ":"⟩]
  | label name => [⟨.flagLabel, name⟩]
  | word text => [⟨wordKind text, text⟩]

def after (r : Resume) : Piece → Resume
  | line _ | block _ | unclosed => r
  | flag _ => ⟨.flag, !r.inFlag⟩
  | label _ => ⟨.flagLabel, false⟩
  | word text => ⟨wordKind text, false⟩

theorem coherent_after {r : Resume} (h : r.Coherent) (p : Piece) : (p.after r).Coherent := by
  cases p with
  | line | block | unclosed => exact h
  | flag => exact fun _ => rfl
  | label | word => exact nofun

end Piece

/-- The first two characters that are no carriage returns, of a text that begins with such a
character, and what follows them. -/
def firstTwo? : List Char → Option (Char × Char × List Char)
  | [] => none
  | c :: cs => match cs.dropWhile (· = '\r') with
    | [] => none
    | d :: rest => some (c, d, rest)

def splitCloser? : List Char → Option (List Char × List Char)
  | [] => none
  | '*' :: '/' :: rest => some ([], rest)
  | c :: cs => (splitCloser? cs).map fun split => (c :: split.1, split.2)

/-- The first piece of a word `w` with the text `rest` behind it. Where colons are flags, the
first one cuts the word, and what stands before it is a label unless it opens the first flag. -/
def cutWord (r : Resume) (w rest : List Char) : Piece × List Char :=
  if r.takesFlags ∧ ':' ∈ w then
    let name := significant (w.takeWhile (· ≠ ':'))
    (.flag (if name ≠ [] ∧ r.last = .flag then some (String.ofList name) else none),
      (w.dropWhile (· ≠ ':')).tail ++ rest)
  else if r.inFlag then (.label (String.ofList (significant w)), rest)
  else (.word (String.ofList (significant w)), rest)

/-- The first piece of a text that begins with no blank, and the text behind it. -/
def cut (r : Resume) (cs : List Char) : Piece × List Char :=
  match firstTwo? cs with
  | some ('/', '/', body) =>
    (.line (String.ofList (body.takeWhile (· ≠ '\n'))), (body.dropWhile (· ≠ '\n')).tail)
  | some ('/', '*', body) =>
    match splitCloser? body with
    | some (text, rest) => (.block (String.ofList text), rest)
    | none => (.unclosed, [])
  | _ => cutWord r (cs.takeWhile inWord) (cs.dropWhile inWord)

theorem firstTwo_eq_some {cs rest : List Char} {c d : Char} (h : firstTwo? cs = some (c, d, rest)) :
    ∃ v, cs = c :: v ++ d :: rest ∧ ∀ b ∈ v, b = '\r' := by
  cases cs with
  | nil => simp [firstTwo?] at h
  | cons a as =>
    rw [firstTwo?] at h
    split at h
    · simp at h
    · next e =>
      simp only [Option.some.injEq, Prod.mk.injEq] at h
      obtain ⟨rfl, rfl, rfl⟩ := h
      refine ⟨as.takeWhile (· = '\r'), ?_, fun b hb => by simpa using List.mem_takeWhile_imp hb⟩
      rw [← e, List.cons_append, List.takeWhile_append_dropWhile]

theorem firstTwo_append {v : List Char} (hv : ∀ b ∈ v, b = '\r') (c : Char) {d : Char}
    (hd : d ≠ '\r') (rest : List Char) : firstTwo? (c :: v ++ d :: rest) = some (c, d, rest) := by
  have hv' : ∀ b ∈ v, decide (b = '\r') = true := fun b hb => by simpa using hv b hb
  rw [List.cons_append, firstTwo?, List.dropWhile_append_of_pos hv',
    List.dropWhile_cons_of_neg (by simpa using hd)]

theorem exists_firstTwo {c d : Char} {cs ds : List Char} (h : significant cs = d :: ds) :
    ∃ rest, firstTwo? (c :: cs) = some (c, d, rest) := by
  induction cs with
  | nil => simp at h
  | cons a as ih =>
    by_cases ha : a = '\r'
    · subst ha
      simpa [firstTwo?] using ih h
    · rw [significant_cons ha, List.cons.injEq] at h
      obtain ⟨rfl, -⟩ := h
      exact ⟨as, by simp [firstTwo?, ha]⟩

def OpensComment (w : List Char) : Prop := ['/', '/'] <+: w ∨ ['/', '*'] <+: w

theorem OpensComment.append {u : List Char} (h : OpensComment u) (v : List Char) :
    OpensComment (u ++ v) :=
  h.imp (·.trans (List.prefix_append u v)) (·.trans (List.prefix_append u v))

/-- An opener ends within a text, with the character behind the text, or further on. -/
theorem OpensComment.cases_append {u v : List Char} {c : Char} (h : OpensComment (u ++ c :: v)) :
    OpensComment u ∨ u = ['/'] ∧ (c = '/' ∨ c = '*') ∨ u = [] ∧ c = '/' ∧ v ≠ [] := by
  match u with
  | [] =>
    cases v with
    | nil => simp [OpensComment] at h
    | cons d v =>
      simp only [OpensComment, List.nil_append, List.cons_prefix_cons] at h
      exact .inr (.inr ⟨rfl, h.elim (·.1.symm) (·.1.symm), List.cons_ne_nil d v⟩)
  | [a] =>
    simp only [OpensComment, List.cons_append, List.nil_append, List.cons_prefix_cons] at h
    refine .inr (.inl ?_)
    rcases h with ⟨ha, hc, -⟩ | ⟨ha, hc, -⟩
    · exact ⟨by rw [ha], .inl hc.symm⟩
    · exact ⟨by rw [ha], .inr hc.symm⟩
  | a :: b :: u =>
    simp only [OpensComment, List.cons_append, List.cons_prefix_cons, List.nil_prefix,
      and_true] at h ⊢
    exact .inl h

theorem OpensComment.exists_firstTwo {c : Char} {cs : List Char} (hc : c ≠ '\r')
    (h : OpensComment (significant (c :: cs))) :
    ∃ d rest, (d = '/' ∨ d = '*') ∧ firstTwo? (c :: cs) = some ('/', d, rest) := by
  rw [significant_cons hc] at h
  rcases h with ⟨ds, hds⟩ | ⟨ds, hds⟩
  all_goals
    simp only [List.cons_append, List.nil_append, List.cons.injEq] at hds
    obtain ⟨rfl, hds⟩ := hds
    obtain ⟨rest, hrest⟩ := ZyxtLexer.exists_firstTwo (c := '/') hds.symm
  · exact ⟨'/', rest, .inl rfl, hrest⟩
  · exact ⟨'*', rest, .inr rfl, hrest⟩

theorem not_opensComment_word {c : Char} (hc : ¬ Text.isBlank c) {cs : List Char}
    (hline : ∀ body, firstTwo? (c :: cs) = some ('/', '/', body) → False)
    (hblock : ∀ body, firstTwo? (c :: cs) = some ('/', '*', body) → False) :
    ¬ OpensComment (significant ((c :: cs).takeWhile inWord)) := by
  intro h
  have h' := h.append (significant ((c :: cs).dropWhile inWord))
  rw [← significant_append, List.takeWhile_append_dropWhile] at h'
  obtain ⟨d, rest, rfl | rfl, hd⟩ := h'.exists_firstTwo (ne_return_of_not_blank hc)
  · exact hline rest hd
  · exact hblock rest hd

theorem splitCloser_eq_some {cs text rest : List Char} (h : splitCloser? cs = some (text, rest)) :
    cs = text ++ '*' :: '/' :: rest ∧ ¬ ['*', '/'] <:+: text := by
  fun_induction splitCloser? cs generalizing text with
  | case1 => simp at h
  | case2 => simp_all
  | case3 c cs hcs ih =>
    obtain ⟨⟨t, r⟩, hs, he⟩ := Option.map_eq_some_iff.1 h
    simp only [Prod.mk.injEq] at he
    obtain ⟨rfl, rfl⟩ := he
    obtain ⟨hct, ht⟩ := ih hs
    refine ⟨by rw [hct]; rfl, fun hi => ?_⟩
    rcases List.infix_cons_iff.1 hi with hp | hi
    · obtain ⟨u, hu⟩ := hp
      simp only [List.cons_append, List.nil_append, List.cons.injEq] at hu
      refine hcs (u ++ '*' :: '/' :: r) hu.1.symm ?_
      rw [hct, ← hu.2]
      rfl
    · exact ht hi

theorem splitCloser_eq_none {cs : List Char} : splitCloser? cs = none ↔ ¬ ['*', '/'] <:+: cs := by
  constructor
  · intro h
    fun_induction splitCloser? cs with
    | case1 => simp
    | case2 => simp at h
    | case3 c cs hcs ih =>
      intro hi
      rcases List.infix_cons_iff.1 hi with hp | hi
      · obtain ⟨u, hu⟩ := hp
        simp only [List.cons_append, List.nil_append, List.cons.injEq] at hu
        exact hcs u hu.1.symm hu.2.symm
      · exact ih (Option.map_eq_none_iff.1 h) hi
  · intro h
    cases hs : splitCloser? cs with
    | none => rfl
    | some split =>
      obtain ⟨rfl, -⟩ := splitCloser_eq_some hs
      exact absurd ⟨split.1, split.2, by simp⟩ h

/-- A closer ends with the character behind a text only if that is the slash behind its star. -/
theorem closer_infix_concat_iff {c : Char} {text : List Char} :
    ['*', '/'] <:+: text ++ [c] ↔ text.getLast? = some '*' ∧ c = '/' ∨ ['*', '/'] <:+: text := by
  have hsuffix : ['*', '/'] <:+ text ++ [c] ↔ text.getLast? = some '*' ∧ c = '/' := by
    have hreverse : ['*', '/'].reverse = '/' :: ['*'].reverse := rfl
    rw [← List.reverse_prefix, List.reverse_concat, hreverse, List.cons_prefix_cons,
      List.reverse_prefix, List.singleton_suffix_iff_getLast?_eq_some, and_comm, @eq_comm _ c]
  rw [List.infix_concat_iff, hsuffix]

theorem closer_infix_concat {c : Char} (hc : c ≠ '/') {text : List Char} :
    ['*', '/'] <:+: text ++ [c] ↔ ['*', '/'] <:+: text := by
  rw [closer_infix_concat_iff, or_iff_right fun h => hc h.2]

theorem splitCloser_append {text : List Char} (h : ¬ ['*', '/'] <:+: text) (rest : List Char) :
    splitCloser? (text ++ '*' :: '/' :: rest) = some (text, rest) := by
  induction text with
  | nil => rfl
  | cons c cs ih =>
    have hc : ∀ u, c = '*' → cs ++ '*' :: '/' :: rest = '/' :: u → False := by
      rintro u rfl hu
      cases cs with
      | nil => simp at hu
      | cons d ds =>
        rw [List.cons_append, List.cons.injEq] at hu
        exact h ⟨[], ds, by simp [hu.1]⟩
    rw [List.cons_append, splitCloser?.eq_3 _ _ hc, ih fun hi => h (List.infix_cons hi)]
    rfl

/-- A text begins with the word `w`, which ends where `rest` begins. -/
structure LeadingWord (w rest : List Char) : Prop where
  ne_nil : w ≠ []
  head_ne : w.head? ≠ some '\r'
  inWord : ∀ c ∈ w, inWord c
  not_comment : ¬ OpensComment (significant w)
  ends : ∀ b ds, rest = b :: ds → ¬ ZyxtLexer.inWord b

inductive CutsWord (r : Resume) (rest : List Char) : List Char → Piece → List Char → Prop
  | flag {u : List Char} (v : List Char) (ht : r.takesFlags) (hu : ':' ∉ u) :
    CutsWord r rest (u ++ ':' :: v)
      (.flag (if significant u ≠ [] ∧ r.last = .flag then some (String.ofList (significant u))
        else none)) (v ++ rest)
  | label {w : List Char} (hi : r.inFlag) (hw : r.takesFlags → ':' ∉ w) :
    CutsWord r rest w (.label (String.ofList (significant w))) rest
  | word {w : List Char} (hi : ¬ r.inFlag) (hw : r.takesFlags → ':' ∉ w) :
    CutsWord r rest w (.word (String.ofList (significant w))) rest

/-- What a text that begins with no blank is cut into. -/
inductive Cuts (r : Resume) : List Char → Piece → List Char → Prop
  | line {v : List Char} (hv : ∀ b ∈ v, b = '\r') (body : List Char) :
    Cuts r ('/' :: v ++ '/' :: body) (.line (String.ofList (body.takeWhile (· ≠ '\n'))))
      (body.dropWhile (· ≠ '\n')).tail
  | block {v text : List Char} (hv : ∀ b ∈ v, b = '\r') (ht : ¬ ['*', '/'] <:+: text)
    (rest : List Char) :
    Cuts r ('/' :: v ++ '*' :: (text ++ '*' :: '/' :: rest)) (.block (String.ofList text)) rest
  | unclosed {v body : List Char} (hv : ∀ b ∈ v, b = '\r') (hb : ¬ ['*', '/'] <:+: body) :
    Cuts r ('/' :: v ++ '*' :: body) .unclosed []
  | word {w rest rest' : List Char} {p : Piece} (hw : LeadingWord w rest)
    (h : CutsWord r rest w p rest') : Cuts r (w ++ rest) p rest'

section Cuts
variable {r : Resume} {p : Piece} {w cs rest rest' : List Char}

theorem CutsWord.eq (h : CutsWord r rest w p rest') : cutWord r w rest = (p, rest') := by
  cases h with
  | flag v ht hu =>
    rw [cutWord, if_pos ⟨ht, List.mem_append_right _ List.mem_cons_self⟩, takeWhile_ne_append hu,
      dropWhile_ne_append hu, List.tail_cons]
  | label hi hw => rw [cutWord, if_neg fun h => hw h.1 h.2, if_pos hi]
  | word hi hw => rw [cutWord, if_neg fun h => hw h.1 h.2, if_neg hi]

theorem cutsWord_cutWord (r : Resume) (w rest : List Char) :
    CutsWord r rest w (cutWord r w rest).1 (cutWord r w rest).2 := by
  by_cases hf : r.takesFlags ∧ ':' ∈ w
  · obtain ⟨u, v, rfl, hu⟩ := List.eq_append_cons_of_mem hf.2
    have h : CutsWord r rest (u ++ ':' :: v) _ _ := .flag v hf.1 hu
    rwa [h.eq]
  · have hw : r.takesFlags → ':' ∉ w := fun ht hm => hf ⟨ht, hm⟩
    by_cases hi : r.inFlag
    · have h : CutsWord r rest w _ _ := .label hi hw
      rwa [h.eq]
    · have h : CutsWord r rest w _ _ := .word hi hw
      rwa [h.eq]

theorem LeadingWord.significant_ne_nil (hw : LeadingWord w rest) : significant w ≠ [] := by
  cases w with
  | nil => exact absurd rfl hw.ne_nil
  | cons c w =>
    have hret : c ≠ '\r' := fun e => hw.head_ne (by simp [e])
    rw [significant_cons hret]
    exact List.cons_ne_nil c _

theorem LeadingWord.takeWhile_eq (hw : LeadingWord w rest) :
    (w ++ rest).takeWhile ZyxtLexer.inWord = w := by
  rw [List.takeWhile_append_of_pos hw.inWord]
  cases rest with
  | nil => exact List.append_nil w
  | cons b ds => rw [List.takeWhile_cons_of_neg (hw.ends b ds rfl), List.append_nil]

theorem LeadingWord.dropWhile_eq (hw : LeadingWord w rest) :
    (w ++ rest).dropWhile ZyxtLexer.inWord = rest := by
  rw [List.dropWhile_append_of_pos hw.inWord]
  cases rest with
  | nil => rfl
  | cons b ds => exact List.dropWhile_cons_of_neg (hw.ends b ds rfl)

theorem LeadingWord.firstTwo_ne (hw : LeadingWord w rest) {d : Char} (hd : d = '/' ∨ d = '*')
    (body : List Char) : firstTwo? (w ++ rest) ≠ some ('/', d, body) := by
  intro h
  obtain ⟨v, hv, hret⟩ := firstTwo_eq_some h
  have hin := inWord_slash hret
  have hdin : ZyxtLexer.inWord d := by rcases hd with rfl | rfl <;> decide
  have hdret : d ≠ '\r' := by rcases hd with rfl | rfl <;> decide
  have htake := hw.takeWhile_eq
  rw [hv, List.takeWhile_append_of_pos hin, List.takeWhile_cons_of_pos hdin] at htake
  refine hw.not_comment ?_
  rw [← htake, List.cons_append, significant_cons (by decide), significant_append,
    significant_returns hret, List.nil_append, significant_cons hdret]
  rcases hd with rfl | rfl
  · exact .inl ⟨_, rfl⟩
  · exact .inr ⟨_, rfl⟩

/-- There is but one way to cut a text. -/
theorem Cuts.eq (h : Cuts r cs p rest) : cut r cs = (p, rest) := by
  cases h with
  | line hv body => simp only [cut, firstTwo_append hv '/' (by decide : '/' ≠ '\r')]
  | block hv ht =>
    simp only [cut, firstTwo_append hv '/' (by decide : '*' ≠ '\r'), splitCloser_append ht]
  | unclosed hv hb =>
    simp only [cut, firstTwo_append hv '/' (by decide : '*' ≠ '\r'), splitCloser_eq_none.2 hb]
  | word hw h =>
    unfold cut
    split
    · next body hb => exact absurd hb (hw.firstTwo_ne (.inl rfl) body)
    · next body hb => exact absurd hb (hw.firstTwo_ne (.inr rfl) body)
    · rw [hw.takeWhile_eq, hw.dropWhile_eq, h.eq]

theorem cuts_cut (r : Resume) {c : Char} (hc : ¬ Text.isBlank c) (cs : List Char) :
    Cuts r (c :: cs) (cut r (c :: cs)).1 (cut r (c :: cs)).2 := by
  unfold cut
  split
  · next body h =>
    obtain ⟨v, hv, hret⟩ := firstTwo_eq_some h
    rw [hv]
    exact .line hret body
  · next body h =>
    obtain ⟨v, hv, hret⟩ := firstTwo_eq_some h
    rw [hv]
    split
    · next text rest hs =>
      obtain ⟨rfl, htext⟩ := splitCloser_eq_some hs
      exact .block hret htext rest
    · next hs => exact .unclosed hret (splitCloser_eq_none.1 hs)
  · next hline hblock =>
    have hw : (c :: cs).takeWhile inWord = c :: cs.takeWhile inWord :=
      List.takeWhile_cons_of_pos (inWord_of_not_blank hc)
    have hlead : LeadingWord ((c :: cs).takeWhile inWord) ((c :: cs).dropWhile inWord) := {
      ne_nil := by simp [hw]
      head_ne := by simpa [hw] using ne_return_of_not_blank hc
      inWord := fun _ hd => List.mem_takeWhile_imp hd
      not_comment := not_opensComment_word hc hline hblock
      ends := fun _ _ => not_of_dropWhile_eq_cons }
    have h := Cuts.word hlead (cutsWord_cutWord r _ _)
    rwa [List.takeWhile_append_dropWhile] at h

theorem CutsWord.length_lt (h : CutsWord r rest w p rest') (hw : w ≠ []) :
    rest'.length < (w ++ rest).length := by
  have hpos := List.length_pos_iff.2 hw
  cases h with
  | flag v =>
    simp only [List.length_append, List.length_cons]
    omega
  | label | word =>
    rw [List.length_append]
    omega

theorem Cuts.length_lt (h : Cuts r cs p rest) : rest.length < cs.length := by
  cases h with
  | line _ body =>
    have hdrop := List.length_dropWhile_le (· ≠ '\n') body
    simp only [List.length_tail, List.length_append, List.length_cons]
    omega
  | block | unclosed =>
    simp only [List.length_append, List.length_cons, List.length_nil]
    omega
  | word hw h => exact h.length_lt hw.ne_nil

theorem Cuts.head_not_blank (h : Cuts r cs p rest) :
    ∃ c ds, cs = c :: ds ∧ ¬ Text.isBlank c := by
  cases h with
  | line | block | unclosed => exact ⟨'/', _, rfl, by decide⟩
  | @word w rest _ _ hw =>
    cases w with
    | nil => exact absurd rfl hw.ne_nil
    | cons c w =>
      have hret : c ≠ '\r' := fun e => hw.head_ne (by simp [e])
      exact ⟨c, w ++ rest, rfl, not_blank_of_inWord (hw.inWord c List.mem_cons_self) hret⟩

end Cuts

/-- The pieces of a text that begins in the context `r`. -/
def pieces (r : Resume) (cs : List Char) : List Piece :=
  match _h : cs.dropWhile Text.isBlank with
  | [] => []
  | c :: rest =>
    (cut r (c :: rest)).1 :: pieces ((cut r (c :: rest)).1.after r) (cut r (c :: rest)).2
termination_by cs.length
decreasing_by
  have hl := (cuts_cut r (not_of_dropWhile_eq_cons _h) rest).length_lt
  rw [← _h] at hl ⊢
  exact hl.trans_le (List.length_dropWhile_le ..)

theorem pieces_eq (r : Resume) (cs : List Char) :
    pieces r cs = match cs.dropWhile Text.isBlank with
      | [] => []
      | c :: rest =>
        (cut r (c :: rest)).1 :: pieces ((cut r (c :: rest)).1.after r) (cut r (c :: rest)).2 := by
  rw [pieces]
  split <;> next h => simp only [h]

theorem pieces_blanks (r : Resume) {bs : List Char} (hb : ∀ b ∈ bs, Text.isBlank b)
    (cs : List Char) : pieces r (bs ++ cs) = pieces r cs := by
  rw [pieces_eq, pieces_eq r cs, List.dropWhile_append_of_pos hb]

theorem pieces_of_cuts {r : Resume} {cs rest : List Char} {p : Piece} (h : Cuts r cs p rest) :
    pieces r cs = p :: pieces (p.after r) rest := by
  obtain ⟨c, ds, rfl, hc⟩ := h.head_not_blank
  rw [pieces_eq, List.dropWhile_cons_of_neg hc]
  simp only [h.eq]

end ZyxtLexer
