/-! Byte offsets into a text that is kept in UTF-8: how many bytes it takes, and where it can be
cut. -/
namespace ZyxtLexer.Text

def byteLength : List Char → Nat
  | [] => 0
  | c :: cs => c.utf8Size + byteLength cs

@[simp] theorem byteLength_nil : byteLength [] = 0 := rfl

@[simp] theorem byteLength_cons (c : Char) (cs : List Char) :
    byteLength (c :: cs) = c.utf8Size + byteLength cs := rfl

@[simp] theorem byteLength_append (cs ds : List Char) :
    byteLength (cs ++ ds) = byteLength cs + byteLength ds := by
  induction cs with
  | nil => simp
  | cons c cs ih => simp [ih, Nat.add_assoc]

/-- What lies before an offset and what lies after it, unless it lies inside a character. -/
def cutAt? : List Char → Nat → Option (List Char × List Char)
  | cs, 0 => some ([], cs)
  | [], _ + 1 => none
  | c :: cs, n + 1 =>
    if c.utf8Size ≤ n + 1 then (cutAt? cs (n + 1 - c.utf8Size)).map fun p => (c :: p.1, p.2)
    else none

@[simp] theorem cutAt?_zero (cs : List Char) : cutAt? cs 0 = some ([], cs) := by
  cases cs <;> rfl

@[simp] theorem cutAt?_byteLength_append (cs ds : List Char) :
    cutAt? (cs ++ ds) (byteLength cs) = some (cs, ds) := by
  induction cs with
  | nil => simp
  | cons c cs ih =>
    obtain ⟨n, hn⟩ : ∃ n, c.utf8Size + byteLength cs = n + 1 :=
      ⟨c.utf8Size + byteLength cs - 1, by have := c.utf8Size_pos; omega⟩
    rw [List.cons_append, byteLength_cons, hn, cutAt?, if_pos (by omega), ← hn,
      Nat.add_sub_cancel_left, ih]
    rfl

/-- A text can be cut at the ends of what it begins with, and nowhere else. -/
theorem cutAt?_eq_some_iff {cs ds es : List Char} {n : Nat} :
    cutAt? cs n = some (ds, es) ↔ ds ++ es = cs ∧ byteLength ds = n := by
  constructor
  · intro h
    induction cs generalizing n ds with
    | nil => cases n <;> simp_all [cutAt?]
    | cons c cs ih =>
      cases n with
      | zero => simp_all
      | succ n =>
        rw [cutAt?] at h
        split at h
        · obtain ⟨p, hp, he⟩ := Option.map_eq_some_iff.1 h
          obtain ⟨rfl, rfl⟩ := Prod.mk.injEq .. ▸ he
          obtain ⟨hcs, hn⟩ := ih hp
          exact ⟨by simp [hcs], by rw [byteLength_cons]; omega⟩
        · simp at h
  · rintro ⟨rfl, rfl⟩
    exact cutAt?_byteLength_append ds es

/-- As many characters from the front as fit into so many bytes. -/
def fitting : Nat → List Char → List Char
  | _, [] => []
  | n, c :: cs => if c.utf8Size ≤ n then c :: fitting (n - c.utf8Size) cs else []

end ZyxtLexer.Text
