import ZyxtLexer.Proofs.Pieces.Basic
import ZyxtLexer.Scanner.Basic

/-! How the scanner reads whole stretches of text: blanks, the characters of a word, the text of a
comment. Each stretch leads from one plain form of the scanner to another, places included. -/
namespace ZyxtLexer

@[simp] theorem Resume.suspend_mode (r : Resume) : r.mode.suspend r.last = r := by
  obtain ⟨last, inFlag⟩ := r
  cases inFlag <;> rfl

theorem Resume.mode_eq_label {r : Resume} : r.mode = .label ↔ r.inFlag := by
  obtain ⟨last, inFlag⟩ := r
  cases inFlag <;> simp [mode]

theorem Resume.mode_eq_code {r : Resume} : r.mode = .code ↔ ¬ r.inFlag := by
  obtain ⟨last, inFlag⟩ := r
  cases inFlag <;> simp [mode]

namespace Scanner

theorem run_singleton (s : Scanner) (c : Char) : s.run [c] = s.step c := by simp [run_cons]

theorem run_concat (s : Scanner) (cs : List Char) (c : Char) :
    s.run (cs ++ [c]) =
      ((s.run cs).1 ++ ((s.run cs).2.step c).1, ((s.run cs).2.step c).2) := by
  rw [run_append, run_singleton]

/-- Outside comments, with `held` pending since `start`. -/
def within (r : Resume) (held : List Char) (start cursor : Position) : Scanner :=
  { mode := r.mode, last := r.last, held, start, cursor }

def ready (r : Resume) (p : Position) : Scanner := within r [] p p

def inLine (r : Resume) (held : List Char) (start cursor : Position) : Scanner :=
  { mode := .lineComment r, last := .commentStart, held, start, cursor }

def inBlock (r : Resume) (held : List Char) (start cursor : Position) : Scanner :=
  { mode := .blockComment r, last := .multilineCommentStart, held, start, cursor }

variable {r : Resume} {held : List Char} {start cursor : Position}

theorem step_within (c : Char) :
    (within r held start cursor).step c = (within r held start cursor).readCode c := by
  obtain ⟨last, inFlag⟩ := r
  cases inFlag <;> rfl

theorem opensFlag_within (hr : r.Coherent) :
    (within r held start cursor).opensFlag = r.takesFlags := by
  obtain ⟨last, inFlag⟩ := r
  cases inFlag with
  | false => rfl
  | true => exact (hr.takesFlags rfl).symm

theorem step_blank (r : Resume) (p : Position) {b : Char} (hb : Text.isBlank b) :
    (ready r p).step b = ([], ready r (p.advance b)) := by
  have hc : b ≠ ':' := by rintro rfl; exact absurd hb (by decide)
  rw [ready, step_within, readCode]
  by_cases hret : b = '\r'
  · rw [if_pos hret]
    rfl
  · rw [if_neg hret, if_neg fun h => hc h.1, if_pos hb]
    rfl

theorem run_blanks (r : Resume) (p : Position) {bs : List Char} (hb : ∀ b ∈ bs, Text.isBlank b) :
    (ready r p).run bs = ([], ready r (p.past bs)) := by
  induction bs generalizing p with
  | nil => rfl
  | cons b bs ih =>
    rw [run_cons, step_blank r p (hb b List.mem_cons_self)]
    simp only [ih (p.advance b) fun c hc => hb c (List.mem_cons_of_mem _ hc)]
    rfl

theorem step_within_return (hh : held ≠ []) :
    (within r held start cursor).step '\r' =
      ([], within r held start (cursor.advance '\r')) := by
  rw [step_within, readCode, if_pos rfl]
  simp [skip, within, hh]

theorem step_within_hold (hr : r.Coherent) {c : Char} (hb : ¬ Text.isBlank c)
    (hf : r.takesFlags → c ≠ ':') (ho : ¬ OpensComment (held.reverse ++ [c])) :
    (within r held start cursor).step c =
      ([], within r (c :: held) start (cursor.advance c)) := by
  rw [step_within, readCode, if_neg (ne_return_of_not_blank hb), opensFlag_within hr,
    if_neg fun h => hf h.2 h.1, if_neg hb, if_neg, if_neg]
  · rfl
  · rintro ⟨hh, rfl⟩
    exact ho (.inr (by simp [show held = ['/'] from hh]))
  · rintro ⟨hh, rfl⟩
    exact ho (.inl (by simp [show held = ['/'] from hh]))

/-- Characters of a word that has begun are held, carriage returns apart. -/
theorem run_within (hr : r.Coherent) {w : List Char} (hw : ∀ c ∈ w, inWord c)
    (hf : r.takesFlags → ':' ∉ w) (hh : held ≠ [])
    (ho : ¬ OpensComment (held.reverse ++ significant w)) :
    (within r held start cursor).run w =
      ([], within r ((significant w).reverse ++ held) start (cursor.past w)) := by
  induction w generalizing held cursor with
  | nil => rfl
  | cons c w ih =>
    have hw' : ∀ d ∈ w, inWord d := fun d hd => hw d (List.mem_cons_of_mem _ hd)
    have hf' : r.takesFlags → ':' ∉ w := fun h hm => hf h (List.mem_cons_of_mem _ hm)
    rw [run_cons]
    by_cases hret : c = '\r'
    · subst hret
      rw [step_within_return hh]
      simp only [ih hw' hf' hh ho, significant_return]
      rfl
    · have hb : ¬ Text.isBlank c := not_blank_of_inWord (hw c List.mem_cons_self) hret
      have hc : r.takesFlags → c ≠ ':' := fun h e => hf h (e ▸ List.mem_cons_self)
      rw [significant_cons hret] at ho
      have hs : ¬ OpensComment (held.reverse ++ [c]) :=
        fun h => ho (by simpa using h.append (significant w))
      rw [step_within_hold hr hb hc hs]
      simp only [ih hw' hf' (List.cons_ne_nil c held) (by simpa using ho), significant_cons hret]
      simp

theorem run_word (hr : r.Coherent) (p : Position) {w : List Char} (hw : ∀ c ∈ w, inWord c)
    (hf : r.takesFlags → ':' ∉ w) (hh : w.head? ≠ some '\r')
    (ho : ¬ OpensComment (significant w)) :
    (ready r p).run w = ([], within r (significant w).reverse p (p.past w)) := by
  cases w with
  | nil => rfl
  | cons c w =>
    have hret : c ≠ '\r' := fun e => hh (by simp [e])
    have hb : ¬ Text.isBlank c := not_blank_of_inWord (hw c List.mem_cons_self) hret
    have hc : r.takesFlags → c ≠ ':' := fun h e => hf h (e ▸ List.mem_cons_self)
    have hw' : ∀ d ∈ w, inWord d := fun d hd => hw d (List.mem_cons_of_mem _ hd)
    have hf' : r.takesFlags → ':' ∉ w := fun h hm => hf h (List.mem_cons_of_mem _ hm)
    rw [significant_cons hret] at ho ⊢
    have hs : ¬ OpensComment (([] : List Char).reverse ++ [c]) := by simp [OpensComment]
    rw [run_cons, ready, step_within_hold hr hb hc hs]
    simp only [run_within hr hw' hf' (List.cons_ne_nil c []) ho]
    simp

theorem step_within_blank (hh : held ≠ []) {b : Char} (hb : Text.isBlank b) (hret : b ≠ '\r') :
    (within r held start cursor).step b =
      ([.emit ⟨⟨r.kindOf (String.ofList held.reverse), String.ofList held.reverse⟩, start⟩],
        ready ⟨r.kindOf (String.ofList held.reverse), false⟩ (cursor.advance b)) := by
  have hc : b ≠ ':' := by rintro rfl; exact absurd hb (by decide)
  have hk : (within r held start cursor).endedKind = r.kindOf (String.ofList held.reverse) := by
    simp only [endedKind, within, Resume.mode_eq_label]
    rfl
  rw [step_within, readCode, if_neg hret, if_neg fun h => hc h.1, if_pos hb, readBlank, if_neg, hk]
  · rfl
  · simpa [within] using hh

theorem step_within_flag (hr : r.Coherent) (hf : r.takesFlags) :
    (within r held start cursor).step ':' =
      ((within r held start cursor).beforeFlag ++ [.emit ⟨⟨.flag, ":"⟩, cursor⟩],
        ready ⟨.flag, !r.inFlag⟩ (cursor.advance ':')) := by
  rw [step_within, readCode, if_neg (by decide), opensFlag_within hr, if_pos ⟨rfl, hf⟩, readFlag]
  obtain ⟨last, inFlag⟩ := r
  cases inFlag <;> rfl

/-- Of the text before a flag only a label is kept, and there is none before the first flag. -/
theorem beforeFlag_within (hr : r.Coherent) (hf : r.takesFlags) :
    (within r held start cursor).beforeFlag.filterMap Event.token? =
      if held ≠ [] ∧ r.last = .flag then [⟨⟨.flagLabel, String.ofList held.reverse⟩, start⟩]
      else [] := by
  have hlast : r.last = .statementEnd ∨ r.last = .flag := by simpa [Resume.takesFlags] using hf
  have hmode : r.last = .statementEnd → r.mode = .code := fun h =>
    Resume.mode_eq_code.2 fun hi => by simp [hr hi] at h
  cases held with
  | nil => rfl
  | cons c held =>
    rcases hlast with h | h
    · simp [beforeFlag, within, h, hmode h, Event.token?]
    · simp [beforeFlag, within, h, Event.token?, text]

variable {v : List Char}

/-- The first character of an opener, with carriage returns behind it. -/
theorem run_slash (hr : r.Coherent) (p : Position) (hv : ∀ c ∈ v, c = '\r') :
    (ready r p).run ('/' :: v) = ([], within r ['/'] p (p.past ('/' :: v))) := by
  have hs : significant ('/' :: v) = ['/'] := by
    rw [significant_cons (by decide), significant_returns hv]
  have hcolon : ':' ∉ '/' :: v := by
    intro hc
    rcases List.mem_cons.1 hc with h | h
    · exact absurd h (by decide)
    · exact absurd (hv _ h) (by decide)
  have hopens : ¬ OpensComment (significant ('/' :: v)) := by simp [hs, OpensComment]
  have hrun := run_word hr p (inWord_slash hv) (fun _ => hcolon) (by simp) hopens
  rwa [hs] at hrun

theorem step_within_lineOpener :
    (within r ['/'] start cursor).step '/' =
      ([.emit ⟨⟨.commentStart, "//"⟩, start⟩],
        inLine r [] (cursor.advance '/') (cursor.advance '/')) := by
  rw [step_within, readCode, if_neg (by decide), if_neg (by simp), if_neg (by decide),
    if_pos ⟨rfl, rfl⟩, openComment]
  simp only [within, Resume.suspend_mode]
  rfl

theorem step_within_blockOpener :
    (within r ['/'] start cursor).step '*' =
      ([.emit ⟨⟨.multilineCommentStart, "/*"⟩, start⟩],
        inBlock r [] (cursor.advance '*') (cursor.advance '*')) := by
  rw [step_within, readCode, if_neg (by decide), if_neg (by simp), if_neg (by decide),
    if_neg (by simp), if_pos ⟨rfl, rfl⟩, openComment]
  simp only [within, Resume.suspend_mode]
  rfl

theorem run_line_text (hv : '\n' ∉ v) :
    (inLine r held start cursor).run v =
      ([], inLine r (v.reverse ++ held) start (cursor.past v)) := by
  induction v generalizing held cursor with
  | nil => rfl
  | cons c v ih =>
    have hc : c ≠ '\n' := fun e => hv (e ▸ List.mem_cons_self)
    have hstep : (inLine r held start cursor).step c =
        ([], inLine r (c :: held) start (cursor.advance c)) := if_neg hc
    rw [run_cons, hstep]
    simp only [ih fun h => hv (List.mem_cons_of_mem _ h)]
    simp

theorem step_inLine_newline :
    (inLine r held start cursor).step '\n' =
      ([.emit ⟨⟨.comment, String.ofList held.reverse⟩, start⟩,
        .emit ⟨⟨.commentEnd, "\n"⟩, cursor⟩], ready r (cursor.advance '\n')) := rfl

/-- The text of a block comment is held as long as no closer is complete. -/
theorem run_block_text (hv : ¬ ['*', '/'] <:+: held.reverse ++ v) :
    (inBlock r held start cursor).run v =
      ([], inBlock r (v.reverse ++ held) start (cursor.past v)) := by
  induction v generalizing held cursor with
  | nil => rfl
  | cons c v ih =>
    have hc : ¬ (held.head? = some '*' ∧ c = '/') := by
      rintro ⟨hh, rfl⟩
      obtain ⟨held, rfl⟩ := List.head?_eq_some_iff.1 hh
      exact hv ⟨held.reverse, v, by simp⟩
    have hstep : (inBlock r held start cursor).step c =
        ([], inBlock r (c :: held) start (cursor.advance c)) := if_neg hc
    rw [run_cons, hstep]
    have hv' : ¬ ['*', '/'] <:+: (c :: held).reverse ++ v := by simpa using hv
    simp only [ih hv']
    simp

theorem step_inBlock_closer :
    (inBlock r ('*' :: held) start cursor).step '/' =
      ([.emit ⟨⟨.comment, String.ofList held.reverse⟩, start⟩,
        .emit ⟨⟨.multilineCommentEnd, "*/"⟩, cursor.left⟩], ready r (cursor.advance '/')) := rfl

end Scanner
end ZyxtLexer
