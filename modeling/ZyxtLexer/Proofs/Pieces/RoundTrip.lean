import Mathlib.Logic.Function.Iterate
import ZyxtLexer.Proofs.Pieces.Fit
import ZyxtLexer.Proofs.Pieces.Refinement

/-! Writing pieces down and reading them again. Pieces that fit are found again in their text, and
their text is what rendering makes of their lexemes, so a rendered text has the lexemes it was
made from. -/
namespace ZyxtLexer

/-- A piece as it is written, with a space behind what only a blank can end. -/
def Piece.text : Piece → List Char
  | line text => '/' :: '/' :: (text.toList ++ ['\n'])
  | block text => '/' :: '*' :: (text.toList ++ ['*', '/', ' '])
  | unclosed => ['/', '*']
  | flag label? => (label?.map String.toList).getD [] ++ [':']
  | label name => name.toList ++ [' ']
  | word text => text.toList ++ [' ']

variable {r : Resume}

theorem significant_word {w : List Char} (hw : ∀ c ∈ w, ¬ Text.isBlank c) : significant w = w :=
  significant_eq_self fun h => hw _ h (by decide)

theorem IsWord.head_ne {w : List Char} (hw : IsWord w) : w.head? ≠ some '\r' :=
  fun h => hw.not_blank _ (List.mem_of_mem_head? h) (by decide)

theorem OpensComment.of_append_colon {u : List Char} (hne : u ≠ []) {cs : List Char}
    (h : OpensComment (u ++ ':' :: cs)) : OpensComment u := by
  cases u with
  | nil => exact absurd rfl hne
  | cons a u =>
    cases u with
    | nil => simp [OpensComment] at h
    | cons b u => simpa [OpensComment] using h

theorem IsWord.leadingWord {w : List Char} (hw : IsWord w) (cs : List Char) :
    LeadingWord w (' ' :: cs) where
  ne_nil := hw.ne_nil
  head_ne := hw.head_ne
  inWord c hc := inWord_of_not_blank (hw.not_blank c hc)
  not_comment := by
    rw [significant_word hw.not_blank]
    exact hw.not_comment
  ends := by
    rintro b ds ⟨⟩
    decide

theorem leadingWord_colon {u : List Char} (hu : u ≠ [] → IsLabel u) (cs : List Char) :
    LeadingWord (u ++ ':' :: cs.takeWhile inWord) (cs.dropWhile inWord) := by
  have hends : ∀ b ds, cs.dropWhile inWord = b :: ds → ¬ inWord b :=
    fun _ _ => not_of_dropWhile_eq_cons
  have hin : ∀ c ∈ ':' :: cs.takeWhile inWord, inWord c := by
    intro c hc
    rcases List.mem_cons.1 hc with rfl | hc
    · decide
    · exact List.mem_takeWhile_imp hc
  by_cases hne : u = []
  · subst hne
    have hopens : ¬ OpensComment (significant (':' :: cs.takeWhile inWord)) := by
      simp [significant_cons, OpensComment]
    exact ⟨List.cons_ne_nil _ _, by simp, hin, hopens, hends⟩
  · have hword := (hu hne).1
    refine ⟨by simp, ?_, ?_, ?_, hends⟩
    · cases u with
      | nil => exact absurd rfl hne
      | cons c u => exact hword.head_ne
    · intro c hc
      rcases List.mem_append.1 hc with hc | hc
      · exact inWord_of_not_blank (hword.not_blank c hc)
      · exact hin c hc
    · rw [significant_append, significant_word hword.not_blank, significant_cons (by decide)]
      exact fun h => hword.not_comment (h.of_append_colon hne)

theorem cuts_flag (ht : r.takesFlags) {u : List Char} (hu : u ≠ [] → IsLabel u) (cs : List Char) :
    Cuts r (u ++ ':' :: cs)
      (.flag (if u ≠ [] ∧ r.last = .flag then some (String.ofList u) else none)) cs := by
  have hcolon : ':' ∉ u := fun h => (hu (List.ne_nil_of_mem h)).2 h
  have hsig : significant u = u := by
    by_cases hne : u = []
    · rw [hne, significant_nil]
    · exact significant_word (hu hne).1.not_blank
  have hcuts := Cuts.word (leadingWord_colon hu cs) (.flag (cs.takeWhile inWord) ht hcolon)
  rwa [List.append_assoc, List.cons_append, List.takeWhile_append_dropWhile, hsig] at hcuts

theorem cuts_label {w : List Char} (hw : IsLabel w) (hi : r.inFlag) (cs : List Char) :
    Cuts r (w ++ ' ' :: cs) (.label (String.ofList w)) (' ' :: cs) := by
  have hcuts := Cuts.word (hw.1.leadingWord cs) (.label hi fun _ => hw.2)
  rwa [significant_word hw.1.not_blank] at hcuts

theorem cuts_word {w : List Char} (hw : IsWord w) (hi : ¬ r.inFlag)
    (hf : r.takesFlags → ':' ∉ w) (cs : List Char) :
    Cuts r (w ++ ' ' :: cs) (.word (String.ofList w)) (' ' :: cs) := by
  have hcuts := Cuts.word (hw.leadingWord cs) (.word hi hf)
  rwa [significant_word hw.not_blank] at hcuts

theorem pieces_space (r : Resume) (cs : List Char) : pieces r (' ' :: cs) = pieces r cs :=
  pieces_blanks r (List.forall_mem_singleton.2 (by decide)) cs

/-- A piece is found again at the front of a text. -/
theorem pieces_text_append {p : Piece} (hp : p.WellFormed) (hf : p.Follows r)
    (hu : p ≠ .unclosed) (cs : List Char) :
    pieces r (p.text ++ cs) = p :: pieces (p.after r) cs := by
  cases p with
  | line text =>
    have hcuts := Cuts.line (r := r) (v := []) nofun (text.toList ++ '\n' :: cs)
    rw [takeWhile_ne_append hp, dropWhile_ne_append hp, String.ofList_toList,
      List.tail_cons] at hcuts
    have htext : (Piece.line text).text ++ cs = ['/'] ++ '/' :: (text.toList ++ '\n' :: cs) := by
      simp [Piece.text]
    rw [htext]
    exact pieces_of_cuts hcuts
  | block text =>
    have hcuts := Cuts.block (r := r) (v := []) nofun hp (' ' :: cs)
    rw [String.ofList_toList] at hcuts
    have htext : (Piece.block text).text ++ cs =
        ['/'] ++ '*' :: (text.toList ++ '*' :: '/' :: ' ' :: cs) := by
      simp [Piece.text]
    rw [htext, pieces_of_cuts hcuts, pieces_space]
  | unclosed => exact absurd rfl hu
  | flag label? =>
    cases label? with
    | none => exact pieces_of_cuts (cuts_flag hf.1 (u := []) (absurd rfl ·) cs)
    | some name =>
      have hname := hp name rfl
      have hcuts := cuts_flag hf.1 (fun _ => hname) cs
      rw [if_pos ⟨hname.1.ne_nil, hf.2 (Option.some_ne_none name)⟩, String.ofList_toList] at hcuts
      have htext : (Piece.flag (some name)).text ++ cs = name.toList ++ ':' :: cs := by
        simp [Piece.text]
      rw [htext]
      exact pieces_of_cuts hcuts
  | label name =>
    have hcuts := cuts_label hp hf cs
    rw [String.ofList_toList] at hcuts
    have htext : (Piece.label name).text ++ cs = name.toList ++ ' ' :: cs := by simp [Piece.text]
    rw [htext, pieces_of_cuts hcuts, pieces_space]
  | word text =>
    have hcuts := cuts_word hp hf.1 hf.2 cs
    rw [String.ofList_toList] at hcuts
    have htext : (Piece.word text).text ++ cs = text.toList ++ ' ' :: cs := by simp [Piece.text]
    rw [htext, pieces_of_cuts hcuts, pieces_space]

theorem pieces_unclosed : pieces r Piece.unclosed.text = [.unclosed] := by
  have hcuts : Cuts r Piece.unclosed.text .unclosed [] := .unclosed (v := []) nofun (by simp)
  rw [pieces_of_cuts hcuts, pieces_eq]
  rfl

/-- Pieces that fit are the pieces of their text. -/
theorem pieces_flatMap_text {ps : List Piece} (h : Fit r ps) :
    pieces r (ps.flatMap Piece.text) = ps := by
  induction ps generalizing r with
  | nil =>
    rw [pieces_eq]
    rfl
  | cons p ps ih =>
    obtain ⟨⟨hp, hf⟩, hlast, hps⟩ := h
    by_cases hu : p = .unclosed
    · rw [hu, hlast hu]
      exact pieces_unclosed
    · rw [List.flatMap_cons, pieces_text_append hp hf hu, ih hps]

theorem gap_wordKind (word : String) (next : Option Kind) : gap (wordKind word) next = " " := by
  have h : ∀ k ∈ Vocabulary.kinds, ∀ next, gap k next = " " := by
    simp [Vocabulary.kinds, Vocabulary.tables, gap]
  exact h _ (wordKind_mem word) next

/-- Once colons are no flags any more, none follows. -/
theorem head_lexemes_ne_flag (hr : ¬ r.takesFlags) {ps : List Piece} (h : Fit r ps) :
    ((ps.flatMap Piece.lexemes).head?.map Lexeme.kind) ≠ some .flag := by
  cases ps with
  | nil => exact nofun
  | cons p ps =>
    cases p with
    | line | block | unclosed => simp [Piece.lexemes]
    | flag => exact absurd h.1.2.1 hr
    | label => simp [Piece.lexemes]
    | word text => simp [Piece.lexemes, wordKind_ne_flag]

theorem render_flatMap_lexemes {ps : List Piece} (h : Fit r ps) :
    (render (ps.flatMap Piece.lexemes)).toList = ps.flatMap Piece.text := by
  induction ps generalizing r with
  | nil => rfl
  | cons p ps ih =>
    obtain ⟨-, -, hps⟩ := h
    rw [List.flatMap_cons, List.flatMap_cons, ← ih hps]
    cases p with
    | line text => simp [Piece.lexemes, Piece.text, render_cons, gap]
    | block text => simp [Piece.lexemes, Piece.text, render_cons, gap]
    | unclosed => simp [Piece.lexemes, Piece.text, render_cons, gap]
    | flag label? => cases label? <;> simp [Piece.lexemes, Piece.text, render_cons, gap]
    | label name =>
      have hafter : ¬ (Resume.mk .flagLabel false).takesFlags := by decide
      have hnext := head_lexemes_ne_flag hafter hps
      simp [Piece.lexemes, Piece.text, render_cons, gap, hnext]
    | word text => simp [Piece.lexemes, Piece.text, render_cons, gap_wordKind]

theorem lexemes_render_pieces {ps : List Piece} (h : Fit .initial ps) :
    lexemes (render (ps.flatMap Piece.lexemes)) = ps.flatMap Piece.lexemes := by
  rw [Scanner.lexemes_eq, Scanner.lexemes_ready Resume.coherent_initial, render_flatMap_lexemes h,
    pieces_flatMap_text h]

def normal (source : String) : String := render (lexemes source)

theorem lexemes_normal (source : String) : lexemes (normal source) = lexemes source := by
  have hlex : lexemes source = (pieces .initial source.toList).flatMap Piece.lexemes :=
    Scanner.lexemes_ready Resume.coherent_initial .origin source.toList
  rw [normal, hlex]
  exact lexemes_render_pieces (fit_pieces Resume.coherent_initial _)

theorem normal_normal (source : String) : normal (normal source) = normal source := by
  rw [normal, lexemes_normal]
  rfl

theorem normal_iterate (source : String) (n : Nat) : normal^[n + 1] source = normal source := by
  induction n with
  | zero => rfl
  | succ n ih => rw [Function.iterate_succ_apply', ih, normal_normal]

/-- Rendering keeps the kinds and values of a text, and doing it again, however often, changes
neither the text nor its tokens. -/
theorem normal_roundTrip (source : String) :
    lexemes (normal source) = lexemes source ∧
      ∀ n, normal^[n + 1] source = normal source ∧
        tokenize (normal^[n + 1] source) = tokenize (normal source) :=
  ⟨lexemes_normal source, fun n => ⟨normal_iterate source n, by rw [normal_iterate]⟩⟩

example : normal " x:\t a\r\n b //c" = ":a b //c\n" := by rfl

end ZyxtLexer
