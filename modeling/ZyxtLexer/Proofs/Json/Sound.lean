import ZyxtLexer.Json.Value
import ZyxtLexer.Proofs.Json.Encoding

/-! Reading the bytes of a text. All that the reader looks for are characters of one byte, so a
string begins and ends between characters, and its bytes are those of characters too: no text is
refused because of its bytes. -/
namespace ZyxtLexer.Json

def Encoded (bs : Bytes) : Prop := ∃ cs, bs = encode cs

/-- What is left of a text, the first character of which may have been cut. -/
def OfText (bs : Bytes) : Prop := ∃ u cs, bs = u ++ encode cs ∧ ∀ b ∈ u, 128 ≤ b.toNat

/-- What reading a text may lead to: something with the property `P`, or a fault that does not lie
in the bytes of a string. -/
inductive Sound {α : Type} (P : α → Prop) : Except Fault α → Prop
  | ok {a : α} (h : P a) : Sound P (.ok a)
  | error {f : Fault} (h : f.cause ≠ .invalidCodePoint) : Sound P (.error f)

section Rests
variable {bs r : Bytes} {b : UInt8}

theorem Encoded.ofText (h : Encoded bs) : OfText bs := by
  obtain ⟨cs, rfl⟩ := h
  exact ⟨[], cs, rfl, by simp⟩

/-- The first byte of a character: it is the only one, or all others are high. -/
theorem exists_utf8EncodeChar (c : Char) :
    ∃ b u, String.utf8EncodeChar c = b :: u ∧ (∀ d ∈ u, 128 ≤ d.toNat) ∧
      (b.toNat < 128 → u = []) := by
  rcases Nat.lt_or_ge c.toNat 128 with hc | hc
  · exact ⟨c.toUInt8, [], utf8EncodeChar_ascii hc, by simp, fun _ => rfl⟩
  · cases h : String.utf8EncodeChar c with
    | nil => exact absurd h (String.utf8EncodeChar_ne_nil)
    | cons b u =>
      have hhigh : ∀ d ∈ b :: u, 128 ≤ d.toNat := fun d hd => high_of_mem_utf8EncodeChar hc (h ▸ hd)
      refine ⟨b, u, rfl, fun d hd => hhigh d (List.mem_cons_of_mem b hd), fun hb => ?_⟩
      exact absurd (hhigh b List.mem_cons_self) (Nat.not_le.2 hb)

theorem OfText.uncons (h : OfText (b :: r)) : OfText r ∧ (b.toNat < 128 → Encoded r) := by
  obtain ⟨u, cs, hbs, hu⟩ := h
  cases u with
  | cons a u =>
    obtain ⟨rfl, rfl⟩ := List.cons.inj hbs
    have hb : 128 ≤ b.toNat := hu b List.mem_cons_self
    refine ⟨⟨u, cs, rfl, fun d hd => hu d (List.mem_cons_of_mem b hd)⟩, fun hlt => ?_⟩
    exact absurd hb (Nat.not_le.2 hlt)
  | nil =>
    cases cs with
    | nil => cases hbs
    | cons c cs =>
      obtain ⟨a, v, hc, hv, hone⟩ := exists_utf8EncodeChar c
      rw [List.nil_append, encode_cons, hc, List.cons_append] at hbs
      obtain ⟨rfl, rfl⟩ := List.cons.inj hbs
      exact ⟨⟨v, cs, rfl, hv⟩, fun hb => ⟨cs, by rw [hone hb, List.nil_append]⟩⟩

theorem OfText.next (h : OfText (b :: r)) : OfText r := h.uncons.1

theorem OfText.encoded (h : OfText (b :: r)) (hb : b.toNat < 128) : Encoded r := h.uncons.2 hb

theorem OfText.dropWhile (h : OfText bs) (p : UInt8 → Bool) : OfText (bs.dropWhile p) := by
  induction bs with
  | nil => exact h
  | cons b r ih =>
    rw [List.dropWhile_cons]
    split
    · exact ih h.next
    · exact h

end Rests

namespace Sound
variable {α β : Type} {P : α → Prop} {Q : β → Prop} {x y : Except Fault α}

theorem bind (h : Sound P x) {k : α → Except Fault β} (hk : ∀ a, P a → Sound Q (k a)) :
    Sound Q (x >>= k) := by
  cases h with
  | ok h => exact hk _ h
  | error h => exact .error h

/-- What a value and the rest of the text lead to is sound if it is for each of them. -/
theorem bind_value {x : Except Fault (α × Bytes)} {P : α × Bytes → Prop} (h : Sound P x)
    {k : α × Bytes → Except Fault β} (hk : ∀ a r, P (a, r) → Sound Q (k (a, r))) :
    Sound Q (x >>= k) :=
  h.bind fun p hp => hk p.1 p.2 hp

theorem ite {p : Prop} [Decidable p] (h : p → Sound P x) (h' : ¬ p → Sound P y) :
    Sound P (if p then x else y) := by
  by_cases hp : p
  · rw [if_pos hp]
    exact h hp
  · rw [if_neg hp]
    exact h' hp

theorem of_ok (h : Sound P x) {a : α} (hx : x = .ok a) : P a := by
  cases h with
  | ok h =>
    cases hx
    exact h
  | error => cases hx

theorem of_error (h : Sound P x) {f : Fault} (hx : x = .error f) : Sound Q (.error f) := by
  cases h with
  | ok => cases hx
  | error h =>
    cases hx
    exact .error h

theorem refuse {cause : Cause} {place : Place} {r : Bytes} (h : cause ≠ .invalidCodePoint) :
    Sound P (Json.refuse cause place r) := .error h

theorem blanks {bs : Bytes} (h : OfText bs) {l : UInt8 → Bytes → Except Fault α} (hnil : Sound P x)
    (hcons : ∀ b r, OfText (b :: r) → Sound P (l b r)) :
    Sound P (match skipBlanks bs with
      | [] => x
      | b :: r => l b r) := by
  have hrest : OfText (skipBlanks bs) := h.dropWhile isBlank
  cases hbs : skipBlanks bs with
  | nil => exact hnil
  | cons b r => exact hcons b r (hbs ▸ hrest)

end Sound

/-! ### Strings -/

section Strings
variable {bs : Bytes} {b : UInt8}

theorem hexDigit_ascii {n : Nat} (h : hexDigit? b = some n) : b.toNat < 128 := by
  unfold hexDigit? at h
  split at h
  · rename_i hb
    have hle : b.toNat ≤ '9'.toUInt8.toNat := UInt8.le_iff_toNat_le.1 hb.2
    exact Nat.lt_of_le_of_lt hle (by decide)
  · split at h
    · rename_i hb
      have hle : b.toNat ≤ 'F'.toUInt8.toNat := UInt8.le_iff_toNat_le.1 hb.2
      exact Nat.lt_of_le_of_lt hle (by decide)
    · split at h
      · rename_i hb
        have hle : b.toNat ≤ 'f'.toUInt8.toNat := UInt8.le_iff_toNat_le.1 hb.2
        exact Nat.lt_of_le_of_lt hle (by decide)
      · cases h

theorem shortEscape_ascii {e : UInt8} (h : shortEscape? b = some e) :
    b.toNat < 128 ∧ e.toNat < 128 := by
  have hall : (List.range 256).all fun n => (shortEscape? (UInt8.ofNat n)).all fun e =>
      n < 128 && e.toNat < 128 := by decide +kernel
  have hb := List.all_eq_true.1 hall b.toNat (List.mem_range.2 b.toNat_lt)
  rw [UInt8.ofNat_toNat, h] at hb
  simpa using hb

theorem sound_readUnit (h : OfText bs) : Sound (fun p => Encoded p.2) (readUnit bs) := by
  match bs with
  | [] | [_] | [_, _] | [_, _, _] => exact .refuse (by simp)
  | a :: b :: c :: d :: r =>
    rw [readUnit]
    cases hv : hexValue? a b c d with
    | none => exact .refuse (by simp)
    | some n =>
      have hd : d.toNat < 128 := by
        simp only [hexValue?, Option.bind_eq_bind, Option.bind_eq_some_iff] at hv
        obtain ⟨_, _, _, _, _, _, _, hd, _⟩ := hv
        exact hexDigit_ascii hd
      exact .ok (h.next.next.next.encoded hd)

theorem sound_expectByte (h : OfText bs) (b : UInt8) : Sound OfText (expectByte b bs) := by
  cases bs with
  | nil => exact .refuse (by simp)
  | cons c r => exact .ite (fun _ => .ok h.next) fun _ => .refuse (by simp)

theorem sound_readCodePoint (h : OfText bs) :
    Sound (fun p => Encoded p.2) (readCodePoint bs) := by
  refine (sound_readUnit h).bind_value fun n r hr => ?_
  refine .ite (fun _ => .refuse (by simp)) fun _ => .ite (fun _ => ?_) fun _ => .ok hr
  refine (sound_expectByte hr.ofText _).bind fun r hr => ?_
  refine (sound_expectByte hr _).bind fun r hr => ?_
  refine (sound_readUnit hr).bind_value fun m r hr => ?_
  exact .ite (fun _ => .ok hr) fun _ => .refuse (by simp)

theorem sound_readEscape (h : OfText bs) :
    Sound (fun p => (∃ c, p.1 = encode [c]) ∧ Encoded p.2) (readEscape bs) := by
  cases bs with
  | nil => exact .refuse (by simp)
  | cons b r =>
    rw [readEscape]
    cases he : shortEscape? b with
    | some e =>
      obtain ⟨hb, hascii⟩ := shortEscape_ascii he
      have hone : encode [Char.ofUInt8 e] = [e] := by
        have hc : (Char.ofUInt8 e).toNat < 128 := hascii
        rw [encode_ascii hc, toUInt8_ofUInt8, encode_nil]
      exact .ok ⟨⟨Char.ofUInt8 e, hone.symm⟩, h.encoded hb⟩
    | none =>
      refine .ite (fun hb => ?_) fun _ => .refuse (by simp)
      refine (sound_readCodePoint h.next).bind_value fun n r hr => ?_
      exact .ok ⟨⟨Char.ofNat n, (List.append_nil _).symm⟩, hr⟩

theorem sound_skipEscape (h : OfText bs) : Sound OfText (skipEscape bs) := by
  cases bs with
  | nil => exact .refuse (by simp)
  | cons b r =>
    refine .ite (fun _ => .ok h.next) fun _ => .ite (fun _ => ?_) fun _ => .refuse (by simp)
    exact (sound_readUnit h.next).bind fun _ hr => .ok hr.ofText

/-- Within a string of a text: what has been decoded are characters, apart from the beginning of
one that goes on in what is to be read. -/
def Decoding (done bs : Bytes) : Prop :=
  ∃ u ds cs, bs = u ++ encode cs ∧ (∀ b ∈ u, 128 ≤ b.toNat) ∧ done.reverse ++ u = encode ds

theorem Decoding.ofText {done : Bytes} (h : Decoding done bs) : OfText bs := by
  obtain ⟨u, ds, cs, hbs, hu, -⟩ := h
  exact ⟨u, cs, hbs, hu⟩

theorem decoding {done : Bytes} (hdone : Encoded done.reverse) (hbs : Encoded bs) :
    Decoding done bs := by
  obtain ⟨ds, hds⟩ := hdone
  obtain ⟨cs, hcs⟩ := hbs
  exact ⟨[], ds, cs, hcs, by simp, by rw [List.append_nil, hds]⟩

theorem Decoding.plain {done r : Bytes} (h : Decoding done (b :: r)) : Decoding (b :: done) r := by
  obtain ⟨u, ds, cs, hbs, hu, hdone⟩ := h
  cases u with
  | cons a u =>
    obtain ⟨rfl, rfl⟩ := List.cons.inj hbs
    exact ⟨u, ds, cs, rfl, fun d hd => hu d (List.mem_cons_of_mem b hd), by simpa using hdone⟩
  | nil =>
    cases cs with
    | nil => cases hbs
    | cons c cs =>
      obtain ⟨a, v, hc, hv, -⟩ := exists_utf8EncodeChar c
      rw [List.nil_append, encode_cons, hc, List.cons_append] at hbs
      obtain ⟨rfl, rfl⟩ := List.cons.inj hbs
      refine ⟨v, ds ++ [c], cs, rfl, hv, ?_⟩
      rw [List.append_nil] at hdone
      rw [List.reverse_cons, hdone, encode_append, encode_cons, hc]
      simp

/-- At a character of one byte, what has been decoded are whole characters. -/
theorem Decoding.whole {done r : Bytes} (h : Decoding done (b :: r)) (hb : b.toNat < 128) :
    Encoded done.reverse ∧ Encoded r := by
  refine ⟨?_, h.ofText.encoded hb⟩
  obtain ⟨u, ds, cs, hbs, hu, hdone⟩ := h
  cases u with
  | cons a u =>
    obtain ⟨rfl, -⟩ := List.cons.inj hbs
    exact absurd (hu b List.mem_cons_self) (Nat.not_le.2 hb)
  | nil => exact ⟨ds, by rw [← hdone, List.append_nil]⟩

theorem sound_readBytes {done : Bytes} (h : Decoding done bs) :
    Sound (fun p => Encoded p.1 ∧ Encoded p.2) (readBytes done bs) := by
  fun_induction readBytes done bs with
  | case1 => exact .refuse (by simp)
  | case2 done r => exact .ok (h.whole (by decide))
  | case3 done r fault he => exact (sound_readEscape h.ofText.next).of_error he
  | case4 done r e r' he _ ih =>
    obtain ⟨⟨ds, hds⟩, -⟩ := h.whole (by decide)
    obtain ⟨⟨c, hc⟩, hr⟩ := (sound_readEscape h.ofText.next).of_ok he
    refine ih (decoding ⟨ds ++ [c], ?_⟩ hr)
    rw [List.reverse_append, List.reverse_reverse, hds, encode_append]
    exact congrArg (encode ds ++ ·) hc
  | case5 => exact .refuse (by simp)
  | case6 done b r _ _ _ ih => exact ih h.plain

/-- A string of a text is one of characters. -/
theorem sound_readText (h : Encoded bs) : Sound (fun p => OfText p.2) (readText bs) := by
  refine (sound_readBytes (decoding ⟨[], rfl⟩ h)).bind_value ?_
  rintro decoded r ⟨⟨ds, hds⟩, hr⟩
  have hdecode : decodeText decoded r = .ok (String.ofList ds) := by
    rw [show decoded = encode ds from hds, decodeText_encode]
  simp only [hdecode]
  exact .ok hr.ofText

theorem sound_skipString (h : OfText bs) : Sound OfText (skipString bs) := by
  fun_induction skipString bs with
  | case1 => exact .refuse (by simp)
  | case2 => exact .ok h.next
  | case3 r fault he => exact (sound_skipEscape h.next).of_error he
  | case4 r r' he _ ih => exact ih ((sound_skipEscape h.next).of_ok he)
  | case5 => exact .refuse (by simp)
  | case6 b r _ _ _ ih => exact ih h.next

end Strings

/-! ### Numbers -/

section Numbers
variable {bs : Bytes}

theorem OfText.tail (h : OfText bs) : OfText bs.tail := by
  cases bs with
  | nil => exact h
  | cons b r => exact h.next

theorem sound_readScaled (h : OfText bs) (negative : Bool) (v : Nat) (e : Int) :
    Sound (fun p => OfText p.2) (readScaled negative v e bs) := by
  rw [readScaled]
  cases scaled? negative v e with
  | none => exact .refuse (by simp)
  | some x => exact .ok h

theorem OfText.behind_sign (h : OfText bs) {p : Prop} [Decidable p] {b : UInt8} {r : Bytes}
    (hbs : (if p then bs.tail else bs) = b :: r) : OfText (b :: r) := by
  rw [← hbs]
  split
  · exact h.tail
  · exact h

theorem sound_readExponent (h : OfText bs) (negative : Bool) (v : Nat) (e : Int) :
    Sound (fun p => OfText p.2) (readExponent negative v e bs) := by
  simp only [readExponent]
  split
  · exact .refuse (by simp)
  · rename_i b r hbs
    have hrest : OfText (r.dropWhile isDigit) := (h.behind_sign hbs).next.dropWhile isDigit
    refine .ite (fun _ => ?_) fun _ => .refuse (by simp)
    cases accumulatePower 0 (b :: r.takeWhile isDigit) with
    | ok p => exact sound_readScaled hrest negative v _
    | error left => exact .ite (fun _ => .refuse (by simp)) fun _ => .ok hrest

theorem sound_readScale (h : OfText bs) (negative : Bool) (v : Nat) (e : Int) :
    Sound (fun p => OfText p.2) (readScale negative v e bs) := by
  cases bs with
  | nil => exact sound_readScaled h negative v e
  | cons b r =>
    exact .ite (fun _ => sound_readExponent h.next negative v e)
      fun _ => sound_readScaled h negative v e

theorem sound_readFraction (h : OfText bs) (negative : Bool) (v : Nat) (e : Int) :
    Sound (fun p => OfText p.2) (readFraction negative v e bs) := by
  have hrest : OfText (bs.dropWhile isDigit) := h.dropWhile isDigit
  simp only [readFraction]
  cases bs.takeWhile isDigit with
  | nil => cases bs.dropWhile isDigit <;> exact .refuse (by simp)
  | cons d ds => exact sound_readScale hrest negative _ _

theorem sound_readRest (h : OfText bs) (negative : Bool) (digits : Bytes) :
    Sound (fun p => OfText p.2) (readRest negative digits bs) := by
  have hwhole : ∀ (v : Nat) (left : Bytes), Sound (fun p => OfText p.2)
      (if left ≠ [] ∨ (negative ∧ (v = 0 ∨ maxNegative < v)) then
        readScaled negative v left.length bs
      else .ok (.integer (if negative then -v else v), bs)) :=
    fun v left => .ite (fun _ => sound_readScaled h negative v _) fun _ => .ok h
  simp only [readRest]
  cases bs with
  | nil => exact hwhole _ _
  | cons b r =>
    exact .ite (fun _ => sound_readFraction h.next negative _ _) fun _ =>
      .ite (fun _ => sound_readExponent h.next negative _ _) fun _ => hwhole _ _

theorem sound_readNumber (h : OfText bs) (negative : Bool) :
    Sound (fun p => OfText p.2) (readNumber negative bs) := by
  cases bs with
  | nil => exact .refuse (by simp)
  | cons b r =>
    refine .ite (fun _ => ?_) fun _ => .ite (fun _ => ?_) fun _ => .refuse (by simp)
    · exact .ite (fun _ => .refuse (by simp)) fun _ => sound_readRest h.next negative _
    · exact sound_readRest (h.next.dropWhile isDigit) negative _

theorem sound_skipExponent (h : OfText bs) : Sound OfText (skipExponent bs) := by
  rw [skipExponent]
  split
  · exact .refuse (by simp)
  · rename_i b r hbs
    have hrest : OfText (r.dropWhile isDigit) := (h.behind_sign hbs).next.dropWhile isDigit
    exact .ite (fun _ => .ok hrest) fun _ => .refuse (by simp)

theorem sound_skipScale (h : OfText bs) : Sound OfText (skipScale bs) := by
  cases bs with
  | nil => exact .ok h
  | cons b r => exact .ite (fun _ => sound_skipExponent h.next) fun _ => .ok h

theorem sound_skipRest (h : OfText bs) : Sound OfText (skipRest bs) := by
  cases bs with
  | nil => exact .ok h
  | cons b r =>
    refine .ite (fun _ => ?_) fun _ => sound_skipScale h
    exact .ite (fun _ => sound_skipScale (h.next.dropWhile isDigit)) fun _ => .refuse (by simp)

theorem sound_skipNumber (h : OfText bs) : Sound OfText (skipNumber bs) := by
  cases bs with
  | nil => exact .refuse (by simp)
  | cons b r =>
    refine .ite (fun _ => ?_) fun _ => .ite (fun _ => ?_) fun _ => .refuse (by simp)
    · exact .ite (fun _ => .refuse (by simp)) fun _ => sound_skipRest h.next
    · exact sound_skipRest (h.next.dropWhile isDigit)

end Numbers

/-! ### Values that are passed over -/

section Skipping
variable {bs r : Bytes} {b : UInt8}

theorem sound_readWord (h : OfText bs) (cs : List Char) : Sound OfText (readWord cs bs) := by
  induction cs generalizing bs with
  | nil => exact .ok h
  | cons c cs ih =>
    cases bs with
    | nil => exact .refuse (by simp)
    | cons b r => exact .ite (fun _ => ih h.next) fun _ => .refuse (by simp)

theorem sound_readColon (h : OfText bs) : Sound OfText (readColon bs) :=
  .blanks h (.refuse (by simp)) fun _ _ h => .ite (fun _ => .ok h.next) fun _ => .refuse (by simp)

theorem sound_skipScalar (h : OfText (b :: r)) : Sound OfText (skipScalar b r) := by
  rw [skipScalar]
  split
  · exact sound_readWord h.next _
  · exact sound_readWord h.next _
  · exact sound_readWord h.next _
  · exact sound_skipNumber h.next
  · exact sound_skipString h.next
  · exact .ite (fun _ => sound_skipNumber h) fun _ => .refuse (by simp)

theorem sound_skipKey (h : OfText bs) : Sound OfText (skipKey bs) := by
  refine .blanks h (.refuse (by simp)) fun b r h => .ite (fun _ => ?_) fun _ => .refuse (by simp)
  exact (sound_skipString h.next).bind fun r hr => sound_readColon hr

theorem sound_skipLabel (h : OfText bs) (f : Frame) : Sound OfText (f.skipLabel bs) := by
  cases f with
  | list => exact .ok h
  | object => exact sound_skipKey h

theorem Frame.atEnd_ne (f : Frame) : f.atEnd ≠ .invalidCodePoint := by cases f <;> decide

theorem Frame.expected_ne (f : Frame) : f.expected ≠ .invalidCodePoint := by cases f <;> decide

theorem OfText.skipBlanks (h : OfText bs) (hb : skipBlanks bs = b :: r) : OfText (b :: r) :=
  hb ▸ h.dropWhile isBlank

theorem sound_skip (h : OfText bs) (value : Bool) (frames : List Frame) :
    Sound OfText (skip value frames bs) := by
  fun_induction skip value frames bs with
  | case1 => exact .refuse (by simp)
  | case2 frames bs b r hb _ fault hs => exact (sound_skipScalar (h.skipBlanks hb)).of_error hs
  | case3 frames bs b r hb _ s hs ih => exact ih ((sound_skipScalar (h.skipBlanks hb)).of_ok hs)
  | case4 _ _ _ _ _ f => exact .refuse f.atEnd_ne
  | case5 frames bs b r hb f _ s hc ih => exact ih ((h.skipBlanks hb).next.skipBlanks hc).next
  | case6 frames bs b r hb f _ c s hc _ fault hl =>
    exact (sound_skipLabel ((h.skipBlanks hb).next.skipBlanks hc) f).of_error hl
  | case7 frames bs b r hb f _ c s hc _ t hl ih =>
    exact ih ((sound_skipLabel ((h.skipBlanks hb).next.skipBlanks hc) f).of_ok hl)
  | case8 => exact .ok h
  | case9 _ f => exact .refuse f.atEnd_ne
  | case10 bs f frames r hb ih => exact ih (h.skipBlanks hb).next
  | case11 bs f frames r fault hl hb => exact (sound_skipLabel (h.skipBlanks hb).next f).of_error hl
  | case12 bs f frames r t hl hb _ ih =>
    exact ih ((sound_skipLabel (h.skipBlanks hb).next f).of_ok hl)
  | case13 _ f => exact .refuse f.expected_ne

end Skipping

/-! ### Values of an expected type -/

section Values
variable {α : Type} {bs r : Bytes} {b : UInt8}

theorem sound_quoted (h : OfText (b :: r)) (hb : b = '"'.toUInt8) :
    Sound (fun p => OfText p.2) (readText r) := by
  subst hb
  exact sound_readText (h.encoded (by decide))

theorem sound_identify (h : OfText bs) : Sound (fun _ => True) (identify bs) := by
  cases bs with
  | nil => exact .refuse (by simp)
  | cons b r =>
    rw [identify]
    split
    · exact (sound_readWord h.next _).bind fun _ _ => .ok trivial
    · exact (sound_readWord h.next _).bind fun _ _ => .ok trivial
    · exact (sound_readWord h.next _).bind fun _ _ => .ok trivial
    · exact (sound_readNumber h.next true).bind fun _ _ => .ok trivial
    · rename_i hc
      have hb : b = '"'.toUInt8 := by rw [← hc, toUInt8_ofUInt8]
      exact (sound_quoted h hb).bind fun _ _ => .ok trivial
    · exact .ok trivial
    · exact .ok trivial
    · refine .ite (fun _ => ?_) fun _ => .refuse (by simp)
      exact (sound_readNumber h false).bind fun _ _ => .ok trivial

theorem sound_mistyped {P : α → Prop} (h : OfText bs) (expected : String) :
    Sound P (mistyped expected bs) := by
  have hfound := sound_identify h
  rw [mistyped]
  split
  · rename_i he
    exact hfound.of_error he
  · exact .refuse (by simp)

theorem sound_readBool (h : OfText bs) : Sound (fun p => OfText p.2) (readBool bs) := by
  refine .blanks h (.refuse (by simp)) fun b r h => ?_
  refine .ite (fun _ => ?_) fun _ => .ite (fun _ => ?_) fun _ => sound_mistyped h _
  · exact (sound_readWord h.next _).bind fun _ hr => .ok hr
  · exact (sound_readWord h.next _).bind fun _ hr => .ok hr

theorem sound_readString (h : OfText bs) : Sound (fun p => OfText p.2) (readString bs) :=
  .blanks h (.refuse (by simp)) fun _ _ h => .ite (sound_quoted h) fun _ => sound_mistyped h _

theorem sound_readNull (h : OfText bs) : Sound OfText (readNull bs) :=
  .blanks h (.refuse (by simp)) fun _ _ h =>
    .ite (fun _ => sound_readWord h.next _) fun _ => sound_mistyped h _

theorem sound_readVariant (h : OfText (b :: r)) (hb : b = '"'.toUInt8)
    (ofName? : String → Option α) (expected : String) :
    Sound (fun p => OfText p.2) (readVariant ofName? expected r) := by
  refine (sound_quoted h hb).bind_value fun name r hr => ?_
  simp only
  cases ofName? name with
  | some v => exact .ok hr
  | none => exact .refuse (by simp)

theorem sound_readUnitVariant (h : OfText bs) (ofName? : String → Option α) (expected : String) :
    Sound (fun p => OfText p.2) (readUnitVariant ofName? expected bs) := by
  refine .blanks h (.refuse (by simp)) fun b r h => ?_
  refine .ite (fun hb => sound_readVariant h hb ofName? expected) fun _ =>
    .ite (fun _ => ?_) fun _ => .refuse (by simp)
  refine .blanks h.next (.refuse (by simp)) fun c r h => ?_
  refine .ite (fun hc => ?_) fun _ => .ite (fun _ => .refuse (by simp)) fun _ => .refuse (by simp)
  refine (sound_readVariant h hc ofName? expected).bind_value fun v r hr => ?_
  refine (sound_readColon hr).bind fun r hr => (sound_readNull hr).bind fun r hr => ?_
  exact .blanks hr (.refuse (by simp)) fun _ _ h =>
    .ite (fun _ => .ok h.next) fun _ => .refuse (by simp)

theorem sound_nextMember (h : OfText bs) (first : Bool) :
    Sound (fun p => (p.1 → Encoded p.2) ∧ OfText p.2) (nextMember first bs) := by
  have hkey : ∀ {b : UInt8} {r : Bytes} (place : Place), OfText (b :: r) →
      Sound (fun p => (p.1 → Encoded p.2) ∧ OfText p.2)
        (if b = '"'.toUInt8 then .ok (true, r) else refuse .keyMustBeString place (b :: r)) := by
    intro b r place h
    refine .ite (fun hb => ?_) fun _ => .refuse (by simp)
    subst hb
    exact .ok ⟨fun _ => h.encoded (by decide), h.next⟩
  refine .blanks h (.refuse (by simp)) fun b r h => ?_
  refine .ite (fun _ => .ok ⟨fun hmore => absurd hmore Bool.false_ne_true, h.next⟩) fun _ =>
    .ite (fun _ => hkey _ h) fun _ => .ite (fun _ => ?_) fun _ => .refuse (by simp)
  refine .blanks h.next (.refuse (by simp)) fun c r h => ?_
  refine .ite (fun hc => ?_) fun _ => .ite (fun _ => .refuse (by simp)) fun _ => .refuse (by simp)
  subst hc
  exact .ok ⟨fun _ => h.encoded (by decide), h.next⟩

theorem sound_nextElement (h : OfText bs) (first : Bool) :
    Sound (fun p => OfText p.2) (nextElement first bs) := by
  refine .blanks h (.refuse (by simp)) fun b r h => ?_
  refine .ite (fun _ => .ok h) fun _ => .ite (fun _ => .ok h) fun _ =>
    .ite (fun _ => ?_) fun _ => .refuse (by simp)
  exact .blanks h.next (.refuse (by simp)) fun _ _ h =>
    .ite (fun _ => .refuse (by simp)) fun _ => .ok h

theorem sound_closeList (h : OfText bs) : Sound OfText (closeList bs) := by
  refine .blanks h (.refuse (by simp)) fun b r h => ?_
  refine .ite (fun _ => .ok h.next) fun _ => .ite (fun _ => ?_) fun _ => .refuse (by simp)
  exact .blanks h.next (.refuse (by simp)) fun _ _ _ =>
    .ite (fun _ => .refuse (by simp)) fun _ => .refuse (by simp)

theorem sound_readWhole {read : Bytes → Except Fault (α × Bytes)}
    (h : Sound (fun p => OfText p.2) (read bs)) : Sound (fun _ => True) (readWhole read bs) :=
  h.bind fun _ hr => .blanks hr (.ok trivial) fun _ _ _ => .refuse (by simp)

end Values
end ZyxtLexer.Json
