import ZyxtLexer.Json.Value
import ZyxtLexer.Proofs.Json.Values

/-! Values of an expected type: the ways to write one are read as it, and whatever is read as a
value of some type would have been passed over to the same end. -/
namespace ZyxtLexer.Json

theorem readBool_true {b : List Char} (hb : Blanks b) (r : Bytes) :
    readBool (encode b ++ (encode ['t', 'r', 'u', 'e'] ++ r)) = .ok (true, r) := by
  rw [readBool, encode_ascii (by decide), List.cons_append, skipBlanks_token hb (by decide)]
  simp only [if_true]
  rw [readWord_encode (by decide)]
  rfl

theorem readBool_false {b : List Char} (hb : Blanks b) (r : Bytes) :
    readBool (encode b ++ (encode ['f', 'a', 'l', 's', 'e'] ++ r)) = .ok (false, r) := by
  rw [readBool, encode_ascii (by decide), List.cons_append, skipBlanks_token hb (by decide)]
  simp only [if_true]
  rw [if_neg (by decide), readWord_encode (by decide)]
  rfl

theorem encode_quoted (cs : List Char) (r : Bytes) :
    encode ('"' :: (cs ++ ['"'])) ++ r = '"'.toUInt8 :: (encode cs ++ '"'.toUInt8 :: r) := by
  simp

theorem readString_encode {b cs s : List Char} (hb : Blanks b) (h : Spells cs s) (r : Bytes) :
    readString (encode b ++ (encode ('"' :: (cs ++ ['"'])) ++ r)) = .ok (String.ofList s, r) := by
  rw [encode_quoted, readString, skipBlanks_token hb (by decide)]
  simp only [if_true]
  exact readText_spells h r

theorem readUnitVariant_encode {α : Type} {ofName? : String → Option α} {expected : String} {v : α}
    {b cs s : List Char} (hb : Blanks b) (h : Spells cs s)
    (hv : ofName? (String.ofList s) = some v) (r : Bytes) :
    readUnitVariant ofName? expected (encode b ++ (encode ('"' :: (cs ++ ['"'])) ++ r))
      = .ok (v, r) := by
  rw [encode_quoted, readUnitVariant, skipBlanks_token hb (by decide)]
  simp only [if_true]
  rw [readVariant, readText_spells h]
  simp [hv, bind, Except.bind, pure, Except.pure]

section Skip

variable {bs r : Bytes} {frames : List Frame}

theorem skip_of_readNull (h : readNull bs = .ok r) :
    skip true frames bs = skip false frames r := by
  unfold readNull at h
  split at h
  · simp [refuse] at h
  · rename_i hb
    split at h
    · rename_i hn
      subst hn
      exact skip_scalar hb (by decide) h
    · exact absurd h mistyped_ne_ok

theorem skip_of_readBool {v : Bool} (h : readBool bs = .ok (v, r)) :
    skip true frames bs = skip false frames r := by
  unfold readBool at h
  split at h
  · simp [refuse] at h
  · rename_i hb
    split at h
    · rename_i hn
      subst hn
      obtain ⟨s, hs, h⟩ := bind_eq_ok.1 h
      cases h
      exact skip_scalar hb (by decide) hs
    · split at h
      · rename_i hn
        subst hn
        obtain ⟨s, hs, h⟩ := bind_eq_ok.1 h
        cases h
        exact skip_scalar hb (by decide) hs
      · exact absurd h mistyped_ne_ok

theorem skip_of_readString {s : String} (h : readString bs = .ok (s, r)) :
    skip true frames bs = skip false frames r := by
  unfold readString at h
  split at h
  · simp [refuse] at h
  · rename_i hb
    split at h
    · rename_i hn
      subst hn
      exact skip_scalar hb (by decide) (skipString_of_readText h)
    · exact absurd h mistyped_ne_ok

theorem skipString_of_readVariant {α : Type} {ofName? : String → Option α} {expected : String}
    {v : α} (h : readVariant ofName? expected bs = .ok (v, r)) : skipString bs = .ok r := by
  obtain ⟨⟨n, s⟩, hn, h⟩ := bind_eq_ok.1 h
  simp only at h
  split at h
  · cases h
    exact skipString_of_readText hn
  · simp [refuse] at h

theorem skip_variantObject {s t u v w : Bytes} (hb : skipBlanks bs = '{'.toUInt8 :: r)
    (hq : skipBlanks r = '"'.toUInt8 :: s) (hs : skipString s = .ok t) (ht : readColon t = .ok u)
    (hu : readNull u = .ok v) (hv : skipBlanks v = '}'.toUInt8 :: w) :
    skip true frames bs = skip false frames w := by
  have hl : Frame.object.skipLabel r = .ok u := by
    rw [Frame.skipLabel, skipKey, hq]
    simp [hs, ht, bind, Except.bind]
  have ho : Frame.ofOpener? '{'.toUInt8 = some .object := rfl
  rw [skip_full hb ho hq (by decide), ← hq, skipItem_skipBlanks, skipItem, hl]
  show skip true (.object :: frames) u = _
  rw [skip_of_readNull hu, skip_closer hv]

theorem skip_of_readUnitVariant {α : Type} {ofName? : String → Option α} {expected : String}
    {v : α} (h : readUnitVariant ofName? expected bs = .ok (v, r)) :
    skip true frames bs = skip false frames r := by
  unfold readUnitVariant at h
  split at h
  · simp [refuse] at h
  · rename_i hb
    split at h
    · rename_i hq
      subst hq
      exact skip_scalar hb (by decide) (skipString_of_readVariant h)
    · split at h
      · rename_i ho
        subst ho
        split at h
        · simp [refuse] at h
        · rename_i hc
          split at h
          · rename_i hq
            subst hq
            obtain ⟨⟨w, s⟩, hw, h⟩ := bind_eq_ok.1 h
            obtain ⟨t, ht, h⟩ := bind_eq_ok.1 h
            obtain ⟨u, hu, h⟩ := bind_eq_ok.1 h
            split at h
            · simp [refuse] at h
            · rename_i hd
              split at h
              · rename_i he
                subst he
                cases h
                exact skip_variantObject hb hc (skipString_of_readVariant hw) ht hu hd
              · simp [refuse] at h
          · split at h <;> simp [refuse] at h
      · simp [refuse] at h

end Skip

end ZyxtLexer.Json
