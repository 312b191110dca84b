import Mathlib.Data.List.TakeWhile

/-! Texts that can be told from whatever is written behind them, such as those that end at a
character which they do not contain. Pieces of this sort can be put behind each other and into
lists, and the whole still tells what each piece says. -/
namespace ZyxtLexer

theorem decide_ne_of_not_mem {d : Char} {u : List Char} (h : d ∉ u) :
    ∀ c ∈ u, decide (c ≠ d) = true := by
  intro c hc
  have hne : c ≠ d := fun e => h (e ▸ hc)
  exact decide_eq_true hne

theorem takeWhile_ne_append {d : Char} {u : List Char} (h : d ∉ u) (v : List Char) :
    (u ++ d :: v).takeWhile (· ≠ d) = u := by
  rw [List.takeWhile_append_of_pos (decide_ne_of_not_mem h),
    List.takeWhile_cons_of_neg (by simp), List.append_nil]

theorem dropWhile_ne_append {d : Char} {u : List Char} (h : d ∉ u) (v : List Char) :
    (u ++ d :: v).dropWhile (· ≠ d) = d :: v := by
  rw [List.dropWhile_append_of_pos (decide_ne_of_not_mem h),
    List.dropWhile_cons_of_neg (by simp)]

/-- Whatever is written behind it, what is written for `a` shows where it ends, and it shows
`view a`. -/
def Legible {α β : Type} (write : α → List Char) (view : α → β) : Prop :=
  ∀ ⦃a b : α⦄ ⦃r s : List Char⦄, write a ++ r = write b ++ s → view a = view b ∧ r = s

namespace Legible

variable {α β γ δ : Type} {write : α → List Char} {write' : α → List Char} {view : α → β}
  {view' : α → γ}

theorem view_eq (h : Legible write view) {a b : α} (he : write a = write b) : view a = view b := by
  have hnothing : write a ++ [] = write b ++ [] := congrArg (· ++ []) he
  exact (h hnothing).1

theorem literal (text : List Char) : Legible (fun _ : α => text) fun _ => () :=
  fun _ _ _ _ he => ⟨rfl, List.append_cancel_left he⟩

theorem append (h : Legible write view) (h' : Legible write' view') :
    Legible (fun a => write a ++ write' a) fun a => (view a, view' a) := by
  intro a b r s he
  rw [List.append_assoc, List.append_assoc] at he
  obtain ⟨hview, hrest⟩ := h he
  obtain ⟨hview', hrest'⟩ := h' hrest
  exact ⟨Prod.ext hview hview', hrest'⟩

theorem of (h : Legible write view) (f : δ → α) :
    Legible (fun d => write (f d)) fun d => view (f d) := fun _ _ _ _ he => h he

theorem imp (h : Legible write view) (view' : α → γ)
    (hv : ∀ ⦃a b : α⦄, view a = view b → view' a = view' b) : Legible write view' :=
  fun _ _ _ _ he => (h he).imp_left fun hview => hv hview

/-- A text ends where a character follows that it does not contain. -/
theorem upTo {text : List Char} {c : Char} (htext : text.head? = some c) (h : ∀ a, c ∉ write a) :
    Legible (fun a => write a ++ text) write := by
  obtain ⟨cs, rfl⟩ := List.head?_eq_some_iff.1 htext
  intro a b r s he
  rw [List.append_assoc, List.append_assoc, List.cons_append, List.cons_append] at he
  have hwrite := congrArg (List.takeWhile (· ≠ c)) he
  have hrest := congrArg (List.dropWhile (· ≠ c)) he
  rw [takeWhile_ne_append (h a), takeWhile_ne_append (h b)] at hwrite
  rw [dropWhile_ne_append (h a), dropWhile_ne_append (h b)] at hrest
  exact ⟨hwrite, List.append_cancel_left (List.tail_eq_of_cons_eq hrest)⟩

/-- A list ends at a character with which none of its elements begins. -/
theorem list (h : Legible write view) {c : Char}
    (hc : ∀ a, ∃ d cs, write a = d :: cs ∧ d ≠ c) :
    Legible (fun as => as.flatMap write ++ [c]) (List.map view) := by
  intro as
  induction as with
  | nil =>
    intro bs r s he
    cases bs with
    | nil => exact ⟨rfl, List.append_cancel_left he⟩
    | cons b bs =>
      obtain ⟨d, cs, hd, hne⟩ := hc b
      simp only [List.flatMap_nil, List.flatMap_cons, hd, List.cons_append, List.nil_append,
        List.cons.injEq] at he
      exact absurd he.1.symm hne
  | cons a as ih =>
    intro bs r s he
    cases bs with
    | nil =>
      obtain ⟨d, cs, hd, hne⟩ := hc a
      simp only [List.flatMap_nil, List.flatMap_cons, hd, List.cons_append, List.nil_append,
        List.cons.injEq] at he
      exact absurd he.1 hne
    | cons b bs =>
      simp only [List.flatMap_cons, List.append_assoc] at he
      obtain ⟨hview, hrest⟩ := h he
      rw [← List.append_assoc, ← List.append_assoc] at hrest
      obtain ⟨hviews, hend⟩ := ih hrest
      exact ⟨by rw [List.map_cons, List.map_cons, hview, hviews], hend⟩

end Legible
end ZyxtLexer
