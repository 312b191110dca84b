import ZyxtLexer.Proofs.Json.Encoding
import ZyxtLexer.Proofs.Json.Grammar

/-! Strings: what the grammar allows is read to its end and decoded, and passed over to the same
end. -/
namespace ZyxtLexer.Json

theorem hexDigit?_eq {c : Char} {n : Nat} (h : HexDigit c n) :
    c.toNat < 128 ∧ hexDigit? c.toUInt8 = some n := by
  obtain ⟨hn, rfl | rfl⟩ := h
  · have := (by decide : ∀ n < 16, (Nat.digitChar n).toNat < 128 ∧
      hexDigit? (Nat.digitChar n).toUInt8 = some n)
    exact this n hn
  · have := (by decide : ∀ n < 16, (Nat.digitChar n).toUpper.toNat < 128 ∧
      hexDigit? (Nat.digitChar n).toUpper.toUInt8 = some n)
    exact this n hn

theorem readUnit_encode {us : List Char} {n : Nat} (h : FourDigits us n) (r : Bytes) :
    readUnit (encode us ++ r) = .ok (n, r) := by
  obtain ⟨ha, hb, hc, hd⟩ := h
  obtain ⟨ha, ha'⟩ := hexDigit?_eq ha
  obtain ⟨hb, hb'⟩ := hexDigit?_eq hb
  obtain ⟨hc, hc'⟩ := hexDigit?_eq hc
  obtain ⟨hd, hd'⟩ := hexDigit?_eq hd
  simp [ha, hb, hc, hd, readUnit, hexValue?, ha', hb', hc', hd']

theorem readCodePoint_unit {us : List Char} {n : Nat} (h : FourDigits us n)
    (hn : n < 0xd800 ∨ 0xdfff < n) (r : Bytes) : readCodePoint (encode us ++ r) = .ok (n, r) := by
  have hl : isLowSurrogate n = false := by simp [isLowSurrogate]; omega
  have hh : isHighSurrogate n = false := by simp [isHighSurrogate]; omega
  simp [readCodePoint, readUnit_encode h, hl, hh, bind, Except.bind, pure, Except.pure]

theorem readCodePoint_pair {us vs : List Char} {m n : Nat} (hu : FourDigits us m)
    (hm : 0xd800 ≤ m ∧ m ≤ 0xdbff) (hv : FourDigits vs n) (hn : 0xdc00 ≤ n ∧ n ≤ 0xdfff)
    (r : Bytes) :
    readCodePoint (encode us ++ '\\'.toUInt8 :: 'u'.toUInt8 :: (encode vs ++ r))
      = .ok (paired m n, r) := by
  have hl : isLowSurrogate m = false := by simp [isLowSurrogate]; omega
  have hh : isHighSurrogate m = true := by simp [isHighSurrogate]; omega
  have hl' : isLowSurrogate n = true := by simp [isLowSurrogate]; omega
  simp [readCodePoint, readUnit_encode hu, readUnit_encode hv, expectByte, hl, hh, hl', bind,
    Except.bind, pure, Except.pure]

theorem shortEscape?_eq {e c : Char} (h : (e, c) ∈ shortEscapes) :
    e.toNat < 128 ∧ c.toNat < 128 ∧ shortEscape? e.toUInt8 = some c.toUInt8 := by
  have := (by decide : ∀ p ∈ shortEscapes, p.1.toNat < 128 ∧ p.2.toNat < 128 ∧
    shortEscape? p.1.toUInt8 = some p.2.toUInt8)
  exact this (e, c) h

theorem readEscape_short {e c : Char} (h : (e, c) ∈ shortEscapes) (r : Bytes) :
    readEscape (e.toUInt8 :: r) = .ok (encode [c], r) := by
  obtain ⟨_, hc, he⟩ := shortEscape?_eq h
  simp [readEscape, he, hc]

theorem readEscape_unit {bs r : Bytes} {n : Nat} (h : readCodePoint bs = .ok (n, r)) :
    readEscape ('u'.toUInt8 :: bs) = .ok (encode [Char.ofNat n], r) := by
  have hu : shortEscape? 'u'.toUInt8 = none := by decide
  simp [readEscape, hu, h, encode, bind, Except.bind, pure, Except.pure]

def IsPlainByte (b : UInt8) : Prop := b ≠ '"'.toUInt8 ∧ b ≠ '\\'.toUInt8 ∧ ¬ b < 32

theorem isPlainByte_of_mem {c : Char} (h : IsPlain c) {b : UInt8}
    (hb : b ∈ String.utf8EncodeChar c) : IsPlainByte b := by
  obtain ⟨h, hq, hs⟩ := h
  rcases Nat.lt_or_ge c.toNat 128 with hc | hc
  · rw [utf8EncodeChar_ascii hc, List.mem_singleton] at hb
    subst hb
    refine ⟨fun e => hq ((toUInt8_inj hc (by decide)).1 e),
      fun e => hs ((toUInt8_inj hc (by decide)).1 e), ?_⟩
    rw [UInt8.lt_iff_toNat_lt, toNat_toUInt8 hc]
    exact Nat.not_lt.2 h
  · have := high_of_mem_utf8EncodeChar hc hb
    refine ⟨?_, ?_, ?_⟩
    · rintro rfl; revert this; decide
    · rintro rfl; revert this; decide
    · rw [UInt8.lt_iff_toNat_lt]; simp; omega

theorem readBytes_quote (done r : Bytes) :
    readBytes done ('"'.toUInt8 :: r) = .ok (done.reverse, r) := by
  rw [readBytes, if_pos rfl]

theorem readBytes_escape {e r r' : Bytes} (h : readEscape r = .ok (e, r')) (done : Bytes) :
    readBytes done ('\\'.toUInt8 :: r) = readBytes (e.reverse ++ done) r' := by
  rw [readBytes_backslash, h]
  rfl

theorem readBytes_plain {bs : Bytes} (h : ∀ b ∈ bs, IsPlainByte b) (done r : Bytes) :
    readBytes done (bs ++ r) = readBytes (bs.reverse ++ done) r := by
  induction bs generalizing done with
  | nil => rfl
  | cons b bs ih =>
    obtain ⟨hq, hs, hb⟩ := h b (by simp)
    rw [List.cons_append, readBytes, if_neg hq, if_neg hs, if_neg hb,
      ih fun b hb => h b (by simp [hb])]
    simp

theorem readBytes_short {e c : Char} (h : (e, c) ∈ shortEscapes) (done r : Bytes) :
    readBytes done ('\\'.toUInt8 :: e.toUInt8 :: r)
      = readBytes ((encode [c]).reverse ++ done) r :=
  readBytes_escape (readEscape_short h r) done

theorem readBytes_unit {us : List Char} {n : Nat} (h : FourDigits us n)
    (hn : n < 0xd800 ∨ 0xdfff < n) (done r : Bytes) :
    readBytes done ('\\'.toUInt8 :: 'u'.toUInt8 :: (encode us ++ r))
      = readBytes ((encode [Char.ofNat n]).reverse ++ done) r :=
  readBytes_escape (readEscape_unit (readCodePoint_unit h hn r)) done

theorem readBytes_pair {us vs : List Char} {m n : Nat} (hu : FourDigits us m)
    (hm : 0xd800 ≤ m ∧ m ≤ 0xdbff) (hv : FourDigits vs n) (hn : 0xdc00 ≤ n ∧ n ≤ 0xdfff)
    (done r : Bytes) :
    readBytes done ('\\'.toUInt8 :: 'u'.toUInt8 ::
        (encode us ++ '\\'.toUInt8 :: 'u'.toUInt8 :: (encode vs ++ r)))
      = readBytes ((encode
          [Char.ofNat (0x10000 + (m - 0xd800) * 0x400 + (n - 0xdc00))]).reverse ++ done) r := by
  have h := readBytes_escape (readEscape_unit (readCodePoint_pair hu hm hv hn r)) done
  unfold paired at h
  exact h

theorem reverse_decoded (c : Char) (s : List Char) (done : Bytes) :
    ((encode [c]).reverse ++ done).reverse ++ encode s = done.reverse ++ encode (c :: s) := by
  rw [List.reverse_append, List.reverse_reverse, List.append_assoc, ← encode_append,
    List.singleton_append]

theorem readBytes_spells {cs s : List Char} (h : Spells cs s) (done r : Bytes) :
    readBytes done (encode cs ++ '"'.toUInt8 :: r) = .ok (done.reverse ++ encode s, r) := by
  have backslash : '\\'.toNat < 128 := by decide
  have letter : 'u'.toNat < 128 := by decide
  induction h generalizing done with
  | nil => simp [readBytes_quote]
  | plain hc _ ih =>
    rw [encode_cons, List.append_assoc, readBytes_plain fun b hb => isPlainByte_of_mem hc hb, ih]
    simp [encode_cons]
  | short he _ ih =>
    simp only [encode_ascii backslash, encode_ascii (shortEscape?_eq he).1, List.cons_append]
    rw [readBytes_short he, ih, reverse_decoded]
  | unit hu hn _ ih =>
    simp only [encode_ascii backslash, encode_ascii letter, encode_append, List.cons_append,
      List.append_assoc]
    rw [readBytes_unit hu hn, ih, reverse_decoded]
  | pair hu hh hv hl _ ih =>
    simp only [encode_ascii backslash, encode_ascii letter, encode_append, List.cons_append,
      List.append_assoc]
    rw [readBytes_pair hu hh hv hl, ih, reverse_decoded]

theorem readText_spells {cs s : List Char} (h : Spells cs s) (r : Bytes) :
    readText (encode cs ++ '"'.toUInt8 :: r) = .ok (String.ofList s, r) := by
  simp [readText, readBytes_spells h, decodeText_encode, bind, Except.bind, pure, Except.pure]

theorem skipString_quote (r : Bytes) : skipString ('"'.toUInt8 :: r) = .ok r := by
  rw [skipString, if_pos rfl]

theorem skipString_escape {r r' : Bytes} (h : skipEscape r = .ok r') :
    skipString ('\\'.toUInt8 :: r) = skipString r' := by
  rw [skipString_backslash, h]
  rfl

theorem skipString_plain {bs : Bytes} (h : ∀ b ∈ bs, IsPlainByte b) (r : Bytes) :
    skipString (bs ++ r) = skipString r := by
  induction bs with
  | nil => rfl
  | cons b bs ih =>
    obtain ⟨hq, hs, hb⟩ := h b (by simp)
    rw [List.cons_append, skipString, if_neg hq, if_neg hs, if_neg hb,
      ih fun b hb => h b (by simp [hb])]

theorem skipEscape_short {b e : UInt8} (h : shortEscape? b = some e) (r : Bytes) :
    skipEscape (b :: r) = .ok r := by
  rw [skipEscape, h, if_pos Option.isSome_some]

theorem skipEscape_unit {bs r : Bytes} {n : Nat} (h : readUnit bs = .ok (n, r)) :
    skipEscape ('u'.toUInt8 :: bs) = .ok r := by
  have hu : shortEscape? 'u'.toUInt8 = none := by decide
  simp [skipEscape, hu, h, bind, Except.bind, pure, Except.pure]

theorem skipString_body {cs : List Char} (h : StringBody cs) (r : Bytes) :
    skipString (encode cs ++ '"'.toUInt8 :: r) = .ok r := by
  induction h with
  | nil => exact skipString_quote r
  | plain hc _ ih =>
    rw [encode_cons, List.append_assoc, skipString_plain fun b hb => isPlainByte_of_mem hc hb, ih]
  | short he _ ih =>
    obtain ⟨ha, _, he⟩ := shortEscape?_eq he
    simp [ha, skipString_escape (skipEscape_short he _), ih]
  | unit hu _ ih =>
    simp [skipString_escape (skipEscape_unit (readUnit_encode hu _)), ih]

/-- The units of a code point that was read: one, or two that are escapes of their own. -/
theorem units_of_readCodePoint {bs r : Bytes} {n : Nat} (h : readCodePoint bs = .ok (n, r)) :
    ∃ m s, readUnit bs = .ok (m, s) ∧
      (s = r ∨ ∃ l t, s = '\\'.toUInt8 :: 'u'.toUInt8 :: t ∧ readUnit t = .ok (l, r)) := by
  have expected {b : UInt8} {s t : Bytes} (h : expectByte b s = .ok t) : s = b :: t := by
    cases s with
    | nil => simp [expectByte, refuse] at h
    | cons c s =>
      simp only [expectByte] at h
      split at h <;> simp_all [refuse]
  obtain ⟨⟨m, s⟩, hm, h⟩ := bind_eq_ok.1 h
  refine ⟨m, s, hm, ?_⟩
  simp only at h
  split at h
  · simp [refuse] at h
  · split at h
    · obtain ⟨t, ht, h⟩ := bind_eq_ok.1 h
      obtain ⟨u, hu, h⟩ := bind_eq_ok.1 h
      obtain ⟨⟨l, v⟩, hl, h⟩ := bind_eq_ok.1 h
      simp only at h
      split at h
      · simp only [pure, Except.pure, Except.ok.injEq, Prod.mk.injEq] at h
        exact .inr ⟨l, u, by rw [expected ht, expected hu], h.2 ▸ hl⟩
      · simp [refuse] at h
    · simp only [pure, Except.pure, Except.ok.injEq, Prod.mk.injEq] at h
      exact .inl h.2

/-- Passing over an escape that can be read gets to the same place, in one step or in two. -/
theorem skipString_of_readEscape {e bs r : Bytes} (h : readEscape bs = .ok (e, r)) :
    skipString ('\\'.toUInt8 :: bs) = skipString r := by
  cases bs with
  | nil => simp [readEscape, refuse] at h
  | cons b bs =>
    simp only [readEscape] at h
    split at h
    · rename_i he
      simp only [Except.ok.injEq, Prod.mk.injEq] at h
      rw [skipString_escape (skipEscape_short he _), h.2]
    · split at h
      · rename_i hu
        obtain ⟨⟨n, s⟩, hn, h⟩ := bind_eq_ok.1 h
        simp only [pure, Except.pure, Except.ok.injEq, Prod.mk.injEq] at h
        obtain ⟨m, t, hm, ht⟩ := units_of_readCodePoint hn
        rw [hu, skipString_escape (skipEscape_unit hm), ← h.2]
        obtain rfl | ⟨l, u, rfl, hl⟩ := ht
        · rfl
        · rw [skipString_escape (skipEscape_unit hl)]
      · simp [refuse] at h

theorem skipString_of_readBytes {done bs s r : Bytes} (h : readBytes done bs = .ok (s, r)) :
    skipString bs = .ok r := by
  fun_induction readBytes done bs with
  | case1 => simp [refuse] at h
  | case2 =>
    simp only [Except.ok.injEq, Prod.mk.injEq] at h
    rw [skipString_quote, h.2]
  | case3 => simp at h
  | case4 done r e r' he _ ih => rw [skipString_of_readEscape he, ih h]
  | case5 => simp [refuse] at h
  | case6 done b r hq hs hb ih =>
    rw [← List.singleton_append, skipString_plain (List.forall_mem_singleton.2 ⟨hq, hs, hb⟩), ih h]

theorem skipString_of_readText {bs r : Bytes} {s : String} (h : readText bs = .ok (s, r)) :
    skipString bs = .ok r := by
  obtain ⟨⟨d, t⟩, hd, h⟩ := bind_eq_ok.1 h
  obtain ⟨u, _, h⟩ := bind_eq_ok.1 h
  simp only [pure, Except.pure, Except.ok.injEq, Prod.mk.injEq] at h
  exact h.2 ▸ skipString_of_readBytes hd

end ZyxtLexer.Json
