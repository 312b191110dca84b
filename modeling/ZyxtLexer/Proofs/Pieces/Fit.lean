import ZyxtLexer.Proofs.Pieces.Basic
import ZyxtLexer.Token.Vocabulary

/-! Which pieces can follow one another. A list of pieces fits a context if each piece is well
formed and the contexts between them allow it, and the pieces of a text always fit. -/
namespace ZyxtLexer

/-- A word as the tokens have it: something without blanks that is no beginning of a comment. -/
structure IsWord (w : List Char) : Prop where
  ne_nil : w ≠ []
  not_blank : ∀ c ∈ w, ¬ Text.isBlank c
  not_comment : ¬ OpensComment w

def IsLabel (w : List Char) : Prop := IsWord w ∧ ':' ∉ w

namespace Piece

def isComment : Piece → Bool
  | line _ | block _ | unclosed => true
  | flag _ | label _ | word _ => false

/-- What a text demands of a piece wherever it stands. -/
def WellFormed : Piece → Prop
  | line text => '\n' ∉ text.toList
  | block text => ¬ ['*', '/'] <:+: text.toList
  | unclosed => True
  | flag label? => ∀ name ∈ label?, IsLabel name.toList
  | label name => IsLabel name.toList
  | word text => IsWord text.toList

def Follows (r : Resume) : Piece → Prop
  | line _ | block _ | unclosed => True
  | flag label? => r.takesFlags ∧ (label? ≠ none → r.last = .flag)
  | label _ => r.inFlag
  | word text => ¬ r.inFlag ∧ (r.takesFlags → ':' ∉ text.toList)

end Piece

/-- Whether the pieces can stand one behind the other, from the context `r` to the end of a
text. -/
def Fit (r : Resume) : List Piece → Prop
  | [] => True
  | p :: ps =>
    (p.WellFormed ∧ p.Follows r) ∧ (p = .unclosed → ps = []) ∧ Fit (p.after r) ps

variable {r : Resume} {p : Piece} {w cs rest rest' : List Char}

theorem LeadingWord.isWord (hw : LeadingWord w rest) : IsWord (significant w) where
  ne_nil := hw.significant_ne_nil
  not_blank c hc := by
    obtain ⟨hc, hret⟩ := mem_significant.1 hc
    exact not_blank_of_inWord (hw.inWord c hc) hret
  not_comment := hw.not_comment

theorem IsWord.isLabel {u v : List Char} (h : IsWord (u ++ v)) (hne : u ≠ []) (hu : ':' ∉ u) :
    IsLabel u := by
  refine ⟨⟨hne, fun c hc => ?_, fun hopens => ?_⟩, hu⟩
  · exact h.not_blank c (List.mem_append_left v hc)
  · exact h.not_comment (hopens.append v)

theorem CutsWord.wellFormed (h : CutsWord r rest w p rest') (hr : r.Coherent)
    (hw : IsWord (significant w)) : p.WellFormed := by
  cases h with
  | @flag u v _ hu =>
    intro name hname
    obtain ⟨⟨hne, -⟩, hname⟩ := Option.mem_ite_none_right.1 hname
    rw [significant_append] at hw
    have hcolon : ':' ∉ significant u := fun h => hu (mem_significant.1 h).1
    rw [← Option.mem_some.1 hname, String.toList_ofList]
    exact hw.isLabel hne hcolon
  | label hi hcolon =>
    have hlabel : IsLabel (significant w) :=
      ⟨hw, fun h => hcolon (hr.takesFlags hi) (mem_significant.1 h).1⟩
    simpa only [Piece.WellFormed, String.toList_ofList] using hlabel
  | word => simpa only [Piece.WellFormed, String.toList_ofList] using hw

theorem CutsWord.follows (h : CutsWord r rest w p rest') : p.Follows r := by
  cases h with
  | flag v ht => exact ⟨ht, fun h => (by simpa using h : _ ∧ _).2⟩
  | label hi => exact hi
  | word hi hcolon =>
    refine ⟨hi, fun ht hm => hcolon ht ?_⟩
    rw [String.toList_ofList] at hm
    exact (mem_significant.1 hm).1

theorem Cuts.wellFormed (h : Cuts r cs p rest) (hr : r.Coherent) : p.WellFormed := by
  cases h with
  | line =>
    simp only [Piece.WellFormed, String.toList_ofList]
    exact fun h => by simpa using List.mem_takeWhile_imp h
  | block _ ht => simpa only [Piece.WellFormed, String.toList_ofList] using ht
  | unclosed => trivial
  | word hw h => exact h.wellFormed hr hw.isWord

theorem Cuts.follows (h : Cuts r cs p rest) : p.Follows r := by
  cases h with
  | line | block | unclosed => trivial
  | word _ h => exact h.follows

theorem Cuts.eq_nil_of_unclosed (h : Cuts r cs p rest) (hp : p = .unclosed) : rest = [] := by
  cases h with
  | line | block => exact absurd hp nofun
  | unclosed => rfl
  | word _ h => cases h <;> exact absurd hp nofun

/-- The pieces of a text fit together. -/
theorem fit_pieces (hr : r.Coherent) (cs : List Char) : Fit r (pieces r cs) := by
  fun_induction pieces r cs with
  | case1 => trivial
  | case2 r cs c rest h ih =>
    have hcut := cuts_cut r (not_of_dropWhile_eq_cons h) rest
    refine ⟨⟨hcut.wellFormed hr, hcut.follows⟩, fun hu => ?_, ih (Piece.coherent_after hr _)⟩
    rw [hcut.eq_nil_of_unclosed hu, pieces_eq]
    rfl

end ZyxtLexer
