import ZyxtLexer.Token.Basic

/-! The reading order of places, and moves of places that go along with reading: the move that
takes one place to another with all that follows it, and the one that makes room for a character
within a line. -/
namespace ZyxtLexer

namespace Position

instance : LT Position := ltOfOrd

instance : LE Position := leOfOrd

theorem lt_iff {p q : Position} :
    p < q ↔ p.line < q.line ∨ p.line = q.line ∧ p.column < q.column := by
  change (compare p.line q.line).then (compare p.column q.column) = .lt ↔ _
  rw [Ordering.then_eq_lt, Nat.compare_eq_lt, Nat.compare_eq_eq, Nat.compare_eq_lt]

theorem le_iff {p q : Position} :
    p ≤ q ↔ p.line < q.line ∨ p.line = q.line ∧ p.column ≤ q.column := by
  change ((compare p.line q.line).then (compare p.column q.column)).isLE ↔ _
  rw [Ordering.isLE_then_iff_or, Nat.compare_eq_lt, Nat.compare_eq_eq, Nat.isLE_compare]

protected theorem le_refl (p : Position) : p ≤ p := le_iff.2 (.inr ⟨rfl, Nat.le_refl _⟩)

theorem le_of_lt {p q : Position} (h : p < q) : p ≤ q := by
  rw [lt_iff] at h
  rw [le_iff]
  omega

theorem not_le_of_lt {p q : Position} (h : p < q) : ¬ q ≤ p := by
  rw [lt_iff] at h
  rw [le_iff]
  omega

theorem lt_of_le_of_lt {p q r : Position} (hpq : p ≤ q) (hqr : q < r) : p < r := by
  rw [le_iff] at hpq
  rw [lt_iff] at hqr ⊢
  omega

theorem lt_of_lt_of_le {p q r : Position} (hpq : p < q) (hqr : q ≤ r) : p < r := by
  rw [le_iff] at hqr
  rw [lt_iff] at hpq ⊢
  omega

theorem lt_advance (p : Position) (c : Char) : p < p.advance c := by
  rw [lt_iff]
  by_cases hc : c = '\n'
  · rw [hc, advance_newline]
    exact .inl (Nat.lt_succ_self _)
  · rw [advance_of_ne hc]
    exact .inr ⟨rfl, Nat.lt_succ_self _⟩

theorem le_past (p : Position) (cs : List Char) : p ≤ p.past cs := by
  induction cs generalizing p with
  | nil => exact p.le_refl
  | cons c cs ih =>
    have hnext : p.advance c ≤ (p.advance c).past cs := ih (p.advance c)
    have hstep := lt_advance p c
    rw [lt_iff] at hstep
    rw [le_iff] at hnext
    rw [past_cons, le_iff]
    omega

theorem one_le_column_advance (p : Position) (c : Char) : 1 ≤ (p.advance c).column := by
  by_cases hc : c = '\n'
  · exact Nat.le_of_eq (by rw [hc, advance_newline])
  · rw [advance_of_ne hc]
    exact Nat.le_add_left 1 _

theorem one_le_column_past {p : Position} (hp : 1 ≤ p.column) (cs : List Char) :
    1 ≤ (p.past cs).column := by
  induction cs generalizing p with
  | nil => exact hp
  | cons c cs ih => exact ih (one_le_column_advance p c)

theorem left_le {p : Position} (hp : 1 ≤ p.column) : p.left ≤ p := by
  have hmax : max (p.column - 1) 1 ≤ p.column := by omega
  exact le_iff.2 (.inr ⟨rfl, hmax⟩)

/-- `f` goes along with reading from `p` on: the place behind a text is moved to where the text
ends if it is read at the moved place. -/
def Follows (f : Position → Position) (p : Position) : Prop :=
  ∀ cs, f (p.past cs) = (f p).past cs

section Follows
variable {f : Position → Position} {p : Position}

theorem Follows.advance (h : Follows f p) (c : Char) : f (p.advance c) = (f p).advance c := h [c]

theorem Follows.next (h : Follows f p) (c : Char) : Follows f (p.advance c) := by
  intro cs
  rw [← past_cons, h (c :: cs), past_cons, h.advance c]

theorem follows_of_advance (h : ∀ q c, p ≤ q → f (q.advance c) = (f q).advance c) :
    Follows f p := by
  have hall : ∀ cs q, p ≤ q → f (q.past cs) = (f q).past cs := by
    intro cs
    induction cs with
    | nil => exact fun _ _ => rfl
    | cons c cs ih =>
      intro q hq
      have hnext : p ≤ q.advance c := le_of_lt (lt_of_le_of_lt hq (lt_advance q c))
      rw [past_cons, past_cons, ih (q.advance c) hnext, h q c hq]
  exact fun cs => hall cs p p.le_refl

end Follows

/-- The move of a text that began at `p` to where it begins at `q`. Only on its first line does
this change columns. -/
def shift (p q r : Position) : Position :=
  if r.line = p.line then ⟨q.line, q.column + r.column - p.column⟩
  else ⟨q.line + r.line - p.line, r.column⟩

/-- Makes room for a character at `p`: what stands behind it on the same line moves to the
right. -/
def nudge (p r : Position) : Position :=
  if r.line = p.line ∧ p.column ≤ r.column then ⟨r.line, r.column + 1⟩ else r

@[simp] theorem shift_self (p q : Position) : shift p q p = q := by
  simp [shift]

theorem follows_shift (p q : Position) : Follows (shift p q) p := by
  refine follows_of_advance fun r c hr => ?_
  rw [le_iff] at hr
  by_cases hc : c = '\n'
  · subst hc
    have hline : r.line + 1 ≠ p.line := by omega
    rw [advance_newline, advance_newline, shift, if_neg hline]
    by_cases h : r.line = p.line
    · simp only [shift, if_pos h, Position.mk.injEq, and_true]
      omega
    · simp only [shift, if_neg h, Position.mk.injEq, and_true]
      omega
  · rw [advance_of_ne hc, advance_of_ne hc]
    by_cases h : r.line = p.line
    · simp only [shift, if_pos h, Position.mk.injEq, true_and]
      omega
    · simp only [shift, if_neg h]

theorem nudge_self (p : Position) : nudge p p = ⟨p.line, p.column + 1⟩ :=
  if_pos ⟨rfl, Nat.le_refl _⟩

theorem nudge_of_lt {p r : Position} (h : r < p) : nudge p r = r := by
  rw [lt_iff] at h
  refine if_neg fun hr => ?_
  omega

theorem follows_nudge (p : Position) : Follows (nudge p) p := by
  refine follows_of_advance fun r c hr => ?_
  rw [le_iff] at hr
  by_cases hc : c = '\n'
  · subst hc
    have hline : ¬ (r.line + 1 = p.line ∧ p.column ≤ 1) := by omega
    rw [advance_newline, advance_newline, nudge, if_neg hline]
    by_cases h : r.line = p.line ∧ p.column ≤ r.column
    · simp only [nudge, if_pos h]
    · simp only [nudge, if_neg h]
  · rw [advance_of_ne hc, advance_of_ne hc]
    by_cases h : r.line = p.line ∧ p.column ≤ r.column
    · have hnext : r.line = p.line ∧ p.column ≤ r.column + 1 := by omega
      simp only [nudge, if_pos h, if_pos hnext]
    · have hnext : ¬ (r.line = p.line ∧ p.column ≤ r.column + 1) := by omega
      simp only [nudge, if_neg h, if_neg hnext]

end Position
end ZyxtLexer
