import Mathlib.Data.List.DropRight
import ZyxtLexer.Proofs.Json.Strings

/-! Values of any depth: what the grammar allows is passed over to exactly its end, whatever
encloses it. -/
namespace ZyxtLexer.Json

theorem encode_eq_map {cs : List Char} (h : ∀ c ∈ cs, c.toNat < 128) :
    encode cs = cs.map Char.toUInt8 := by
  induction cs with
  | nil => rfl
  | cons c cs ih =>
    rw [encode_ascii (h c (by simp)), ih fun c hc => h c (by simp [hc]), List.map_cons]

theorem isBlank_toUInt8 {c : Char} (h : c = ' ' ∨ c = '\n' ∨ c = '\t' ∨ c = '\r') :
    c.toNat < 128 ∧ isBlank c.toUInt8 := by
  rcases h with rfl | rfl | rfl | rfl <;> decide

theorem skipBlanks_append {b : List Char} (h : Blanks b) (r : Bytes) :
    skipBlanks (encode b ++ r) = skipBlanks r := by
  rw [encode_eq_map fun c hc => (isBlank_toUInt8 (h c hc)).1]
  refine List.dropWhile_append_of_pos fun x hx => ?_
  obtain ⟨c, hc, rfl⟩ := List.mem_map.1 hx
  exact (isBlank_toUInt8 (h c hc)).2

theorem skipBlanks_token {b : List Char} (h : Blanks b) {c : UInt8} (hc : isBlank c = false)
    (r : Bytes) : skipBlanks (encode b ++ c :: r) = c :: r := by
  rw [skipBlanks_append h, skipBlanks, List.dropWhile_cons_of_neg (by simp [hc])]

theorem skipBlanks_idem (bs : Bytes) : skipBlanks (skipBlanks bs) = skipBlanks bs :=
  List.dropWhile_idempotent isBlank bs

theorem readColon_encode {b : List Char} (h : Blanks b) (r : Bytes) :
    readColon (encode b ++ ':'.toUInt8 :: r) = .ok r := by
  rw [readColon, skipBlanks_token h (by decide)]
  rfl

theorem readWord_encode {cs : List Char} (h : cs.all (·.toNat < 128)) (r : Bytes) :
    readWord cs (encode cs ++ r) = .ok r := by
  induction cs with
  | nil => rfl
  | cons c cs ih =>
    rw [List.all_cons, Bool.and_eq_true, decide_eq_true_eq] at h
    rw [encode_ascii h.1, List.cons_append, readWord, if_pos rfl, ih h.2]

section Numbers

theorem isDigit_toUInt8 {c : Char} (h : c.isDigit) : c.toNat < 128 ∧ isDigit c.toUInt8 := by
  have hc : c.toNat < 128 := by
    simp only [Char.isDigit, Bool.and_eq_true, decide_eq_true_eq, UInt32.le_iff_toNat_le] at h
    exact Nat.lt_of_le_of_lt h.2 (by decide)
  refine ⟨hc, ?_⟩
  revert h
  exact ascii_forall (p := fun c => c.isDigit → isDigit c.toUInt8) (by decide) hc

/-- What does not go on with a number: not with a digit, a point or an exponent. -/
def Stops (bs : Bytes) : Prop :=
  ∀ b ∈ bs.head?, isDigit b = false ∧ b ≠ '.'.toUInt8 ∧ isExponentMark b = false

theorem stops_append {b : List Char} (hb : Blanks b) {r : Bytes} (hr : Stops r) :
    Stops (encode b ++ r) := by
  cases b with
  | nil => exact hr
  | cons c b =>
    have hc := hb c (by simp)
    rw [encode_ascii (isBlank_toUInt8 hc).1]
    rintro x ⟨⟩
    rcases hc with rfl | rfl | rfl | rfl <;> decide

theorem startsWithDigit_of_stops {r : Bytes} (h : Stops r) : startsWithDigit r = false := by
  cases r with
  | nil => rfl
  | cons b r => exact (h b rfl).1

theorem dropWhile_digits {ds : List Char} (h : ∀ d ∈ ds, d.isDigit) {r : Bytes}
    (hr : startsWithDigit r = false) : (encode ds ++ r).dropWhile isDigit = r := by
  rw [encode_eq_map fun d hd => (isDigit_toUInt8 (h d hd)).1, List.dropWhile_append_of_pos]
  · cases r with
    | nil => rfl
    | cons b r => exact List.dropWhile_cons_of_neg (by simp [← hr, startsWithDigit])
  · intro x hx
    obtain ⟨d, hd, rfl⟩ := List.mem_map.1 hx
    exact (isDigit_toUInt8 (h d hd)).2

theorem Digits.uncons {ds : List Char} (h : Digits ds) :
    ∃ d es, ds = d :: es ∧ d.isDigit ∧ ∀ e ∈ es, e.isDigit := by
  obtain ⟨hn, h⟩ := h
  cases ds with
  | nil => exact absurd rfl hn
  | cons d es => exact ⟨d, es, rfl, h d (by simp), fun e he => h e (by simp [he])⟩

theorem Whole.uncons {cs : List Char} (h : Whole cs) : ∃ d es, cs = d :: es ∧ d.isDigit := by
  obtain rfl | ⟨h, _⟩ := h
  · exact ⟨'0', [], rfl, by decide⟩
  · obtain ⟨d, es, h, hd, _⟩ := h.uncons
    exact ⟨d, es, h, hd⟩

theorem startsWithDigit_digits {ds : List Char} (h : Digits ds) (r : Bytes) :
    startsWithDigit (encode ds ++ r) := by
  obtain ⟨d, es, rfl, hd, _⟩ := h.uncons
  rw [encode_ascii (isDigit_toUInt8 hd).1]
  exact (isDigit_toUInt8 hd).2

theorem skipExponent_encode {sign ds : List Char} (hs : sign = [] ∨ sign = ['+'] ∨ sign = ['-'])
    (hd : Digits ds) {r : Bytes} (hr : startsWithDigit r = false) :
    skipExponent (encode sign ++ (encode ds ++ r)) = .ok r := by
  obtain ⟨d, es, rfl, hd, h⟩ := hd.uncons
  obtain ⟨ha, hd⟩ := isDigit_toUInt8 hd
  have hm : d.toUInt8 ≠ '-'.toUInt8 ∧ d.toUInt8 ≠ '+'.toUInt8 := by
    constructor <;> intro e <;> rw [e] at hd <;> revert hd <;> decide
  obtain rfl | rfl | rfl := hs <;>
    simp [skipExponent, ha, hm.1, hm.2, hd, dropWhile_digits h hr]

theorem skipScale_encode {cs : List Char} (h : Exponent cs) {r : Bytes} (hr : Stops r) :
    skipScale (encode cs ++ r) = .ok r := by
  obtain rfl | ⟨e, sign, ds, he, hs, hd, rfl⟩ := h
  · cases r with
    | nil => rfl
    | cons b r => simp [skipScale, (hr b rfl).2.2]
  · have h := skipExponent_encode hs hd (startsWithDigit_of_stops hr)
    obtain rfl | rfl := he <;> simpa [skipScale, isExponentMark] using h

theorem head_exponent {cs : List Char} (h : Exponent cs) {r : Bytes} (hr : Stops r) :
    ∀ b ∈ (encode cs ++ r).head?, isDigit b = false ∧ b ≠ '.'.toUInt8 := by
  obtain rfl | ⟨e, sign, ds, rfl | rfl, _, _, rfl⟩ := h
  · exact fun b hb => ⟨(hr b hb).1, (hr b hb).2.1⟩
  · rintro b ⟨⟩; decide
  · rintro b ⟨⟩; decide

theorem startsWithDigit_fraction {fraction cs : List Char} (hf : Fraction fraction)
    (he : Exponent cs) {r : Bytes} (hr : Stops r) :
    startsWithDigit (encode fraction ++ (encode cs ++ r)) = false := by
  obtain rfl | ⟨ds, _, rfl⟩ := hf
  · have h := head_exponent he hr
    rw [encode_nil, List.nil_append]
    cases hx : encode cs ++ r with
    | nil => rfl
    | cons b x => exact (h b (by rw [hx]; rfl)).1
  · rfl

theorem skipRest_encode {fraction cs : List Char} (hf : Fraction fraction) (he : Exponent cs)
    {r : Bytes} (hr : Stops r) : skipRest (encode fraction ++ (encode cs ++ r)) = .ok r := by
  have hs := skipScale_encode he hr
  have hd := startsWithDigit_fraction (.inl rfl) he hr
  obtain rfl | ⟨ds, hds, rfl⟩ := hf
  · have h := head_exponent he hr
    rw [encode_nil, List.nil_append]
    cases hx : encode cs ++ r with
    | nil => rw [← hs, hx]; rfl
    | cons b x => rw [skipRest, if_neg (h b (by rw [hx]; rfl)).2, ← hx, hs]
  · rw [encode_nil, List.nil_append] at hd
    rw [encode_ascii (by decide), List.cons_append, skipRest, if_pos rfl,
      if_pos (startsWithDigit_digits hds _), dropWhile_digits hds.2 hd, hs]

theorem skipNumber_encode {whole fraction cs : List Char} (hw : Whole whole)
    (hf : Fraction fraction) (he : Exponent cs) {r : Bytes} (hr : Stops r) :
    skipNumber (encode whole ++ (encode fraction ++ (encode cs ++ r))) = .ok r := by
  have hs := skipRest_encode hf he hr
  have hd := startsWithDigit_fraction hf he hr
  obtain rfl | ⟨hw, h0⟩ := hw
  · simp [skipNumber, hd, hs]
  · obtain ⟨d, es, rfl, hdd, h⟩ := hw.uncons
    obtain ⟨ha, hdd⟩ := isDigit_toUInt8 hdd
    have h0 : d.toUInt8 ≠ '0'.toUInt8 := fun e =>
      h0 (congrArg some ((toUInt8_inj ha (by decide)).1 e))
    rw [encode_ascii ha, List.cons_append, skipNumber, if_neg h0, if_pos hdd,
      dropWhile_digits h hd, hs]

end Numbers

section Steps

variable {frames : List Frame} {f : Frame} {bs r s : Bytes} {b c : UInt8}

theorem skip_closer (hb : skipBlanks bs = f.closer :: r) :
    skip false (f :: frames) bs = skip false frames r := by
  rw [skip_false_of_cons hb, if_pos rfl]

theorem skip_comma (hb : skipBlanks bs = ','.toUInt8 :: r) :
    skip false (f :: frames) bs = skipItem f frames r := by
  rw [skip_false_of_cons hb, if_neg (by cases f <;> decide), if_pos rfl]

theorem skipItem_skipBlanks (f : Frame) (frames : List Frame) (bs : Bytes) :
    skipItem f frames (skipBlanks bs) = skipItem f frames bs := by
  cases f with
  | list =>
    show skip true _ (skipBlanks bs) = skip true _ bs
    rw [skip, skip.eq_def true _ bs, skipBlanks_idem]
  | object =>
    have hkey : skipKey (skipBlanks bs) = skipKey bs := by rw [skipKey, skipBlanks_idem, skipKey]
    rw [skipItem, skipItem, Frame.skipLabel, hkey, Frame.skipLabel]

end Steps

theorem Frame.closer_eq (f : Frame) : f.closer = f.closing.toUInt8 := by cases f <;> rfl

theorem skipLabel_encode {f : Frame} {label : List Char} (h : Label f label) (r : Bytes) :
    f.skipLabel (encode label ++ r) = .ok r := by
  cases h with
  | list => rfl
  | object hb hk hb' =>
    have hq : isBlank '"'.toUInt8 = false := by decide
    simp [Frame.skipLabel, skipKey, skipBlanks_token hb hq, skipString_body hk,
      readColon_encode hb', bind, Except.bind]

def IsStarter (c : Char) : Prop := c ∈ ['n', 't', 'f', '-', '"', '[', '{'] ∨ c.isDigit

theorem isStarter_toUInt8 {c : Char} (h : IsStarter c) :
    c.toNat < 128 ∧ isBlank c.toUInt8 = false ∧ c.toUInt8 ≠ ']'.toUInt8 := by
  rcases h with h | h
  · simp only [List.mem_cons, List.not_mem_nil, or_false] at h
    rcases h with rfl | rfl | rfl | rfl | rfl | rfl | rfl <;> decide
  · have hc := (isDigit_toUInt8 h).1
    refine ⟨hc, ?_⟩
    revert h
    exact ascii_forall
      (p := fun c => c.isDigit → isBlank c.toUInt8 = false ∧ c.toUInt8 ≠ ']'.toUInt8) (by decide) hc

theorem skipScalar_digit {c : Char} (h : c.isDigit) (r : Bytes) :
    Frame.ofOpener? c.toUInt8 = none ∧ skipScalar c.toUInt8 r = skipNumber (c.toUInt8 :: r) := by
  obtain ⟨hc, hd⟩ := isDigit_toUInt8 h
  have hu : Char.ofUInt8 c.toUInt8 = c :=
    ascii_forall (p := fun c => Char.ofUInt8 c.toUInt8 = c) (by decide) hc
  constructor
  · revert h
    exact ascii_forall (p := fun c => c.isDigit → Frame.ofOpener? c.toUInt8 = none) (by decide) hc
  · unfold skipScalar
    rw [hu, if_pos hd]
    split <;> first | rfl | exact absurd h (by decide)

theorem Value.isStarter {cs : List Char} (h : Value cs) : ∃ c ds, cs = c :: ds ∧ IsStarter c := by
  cases h with
  | null => exact ⟨_, _, rfl, .inl (by decide)⟩
  | true => exact ⟨_, _, rfl, .inl (by decide)⟩
  | false => exact ⟨_, _, rfl, .inl (by decide)⟩
  | number h =>
    obtain ⟨rfl | rfl, hw, _, _⟩ := h
    · obtain ⟨d, es, rfl, hd⟩ := hw.uncons
      exact ⟨_, _, rfl, .inr hd⟩
    · exact ⟨_, _, rfl, .inl (by decide)⟩
  | string => exact ⟨_, _, rfl, .inl (by decide)⟩
  | empty f => cases f <;> exact ⟨_, _, rfl, .inl (by decide)⟩
  | full f => cases f <;> exact ⟨_, _, rfl, .inl (by decide)⟩

theorem skipScalar_minus (r : Bytes) : skipScalar '-'.toUInt8 r = skipNumber r := rfl

theorem skipScalar_quote (r : Bytes) : skipScalar '"'.toUInt8 r = skipString r := rfl

theorem stops_closer (f : Frame) (r : Bytes) : Stops (f.closer :: r) := by
  rintro b ⟨⟩; cases f <;> decide

theorem stops_comma (r : Bytes) : Stops (','.toUInt8 :: r) := by
  rintro b ⟨⟩; decide

section Whole

variable {frames : List Frame} {f : Frame} {b cs : List Char} {r : Bytes}

theorem skip_scalar_encode {c : Char} (hb : Blanks b)
    (hc : c.toNat < 128 ∧ isBlank c.toUInt8 = false) (ho : Frame.ofOpener? c.toUInt8 = none)
    (hs : skipScalar c.toUInt8 (encode cs ++ r) = .ok r) :
    skip true frames (encode b ++ (encode (c :: cs) ++ r)) = skip false frames r := by
  rw [encode_ascii hc.1]
  exact skip_scalar (skipBlanks_token hb hc.2 _) ho hs

theorem skip_number (hb : Blanks b) (h : Number cs) (hr : Stops r) :
    skip true frames (encode b ++ (encode cs ++ r)) = skip false frames r := by
  obtain ⟨hsign, hw, hf, he⟩ := h
  have hs := skipNumber_encode hw hf he hr
  obtain rfl | rfl := hsign
  · obtain ⟨d, es, rfl, hd⟩ := hw.uncons
    obtain ⟨ha, hb', _⟩ := isStarter_toUInt8 (.inr hd)
    refine skip_scalar_encode hb ⟨ha, hb'⟩ (skipScalar_digit hd []).1 ?_
    rw [(skipScalar_digit hd _).2, ← hs]
    simp [ha]
  · refine skip_scalar_encode hb (by decide) (by decide) ?_
    rw [skipScalar_minus, ← hs]
    simp

theorem skip_string (hb : Blanks b) (h : StringBody cs) (frames : List Frame) (r : Bytes) :
    skip true frames (encode b ++ (encode ('"' :: (cs ++ ['"'])) ++ r)) = skip false frames r := by
  refine skip_scalar_encode hb (by decide) (by decide) ?_
  rw [skipScalar_quote, ← skipString_body h r]
  simp

theorem opening_toUInt8 (f : Frame) : f.opening.toNat < 128 ∧ isBlank f.opening.toUInt8 = false ∧
    Frame.ofOpener? f.opening.toUInt8 = some f := by
  cases f <;> decide

theorem isBlank_closer (f : Frame) : isBlank f.closer = false := by cases f <;> decide

theorem encode_frame (f : Frame) (cs : List Char) (r : Bytes) :
    encode (f.opening :: (cs ++ [f.closing])) ++ r
      = f.opening.toUInt8 :: (encode cs ++ f.closer :: r) := by
  have hc : f.closing.toNat < 128 := by cases f <;> decide
  simp [(opening_toUInt8 f).1, hc, f.closer_eq]

theorem skip_empty_encode (hb : Blanks b) (f : Frame) (hcs : Blanks cs) (frames : List Frame)
    (r : Bytes) :
    skip true frames (encode b ++ (encode (f.opening :: (cs ++ [f.closing])) ++ r))
      = skip false frames r := by
  obtain ⟨_, ho, hf⟩ := opening_toUInt8 f
  rw [encode_frame]
  exact skip_empty (skipBlanks_token hb ho _) hf (skipBlanks_token hcs (isBlank_closer f) r)

/-- What a frame begins with, if it is not empty, is not its closer. -/
theorem skipBlanks_item {label value : List Char} (hl : Label f label) (hb : Blanks b)
    (hv : Value value) (r : Bytes) :
    ∃ c s, skipBlanks (encode label ++ (encode b ++ (encode value ++ r))) = c :: s ∧
      c ≠ f.closer := by
  cases hl with
  | list =>
    obtain ⟨c, ds, rfl, hc⟩ := hv.isStarter
    obtain ⟨ha, hc, hne⟩ := isStarter_toUInt8 hc
    rw [encode_ascii ha]
    exact ⟨_, _, skipBlanks_token hb hc _, hne⟩
  | object hb' _ _ =>
    rw [encode_append, List.append_assoc, encode_ascii (by decide)]
    exact ⟨_, _, skipBlanks_token hb' (by decide) _, by decide⟩

theorem skipBlanks_items (h : Items f cs) (r : Bytes) :
    ∃ c s, skipBlanks (encode cs ++ r) = c :: s ∧ c ≠ f.closer := by
  cases h with
  | one hl hb hv _ =>
    simp only [encode_append, List.append_assoc]
    exact skipBlanks_item hl hb hv _
  | more hl hb hv _ _ =>
    simp only [encode_append, List.append_assoc]
    exact skipBlanks_item hl hb hv _

theorem skip_full_encode (hb : Blanks b) (h : Items f cs)
    (hs : skipItem f frames (encode cs ++ f.closer :: r) = skip false frames r) :
    skip true frames (encode b ++ (encode (f.opening :: (cs ++ [f.closing])) ++ r))
      = skip false frames r := by
  obtain ⟨_, ho, hf⟩ := opening_toUInt8 f
  obtain ⟨c, s, hc, hne⟩ := skipBlanks_items h (f.closer :: r)
  rw [encode_frame, skip_full (skipBlanks_token hb ho _) hf hc hne, ← hc, skipItem_skipBlanks, hs]

theorem skipItem_encode {label value b' : List Char} (hl : Label f label)
    (hs : skip true (f :: frames) (encode b ++ (encode value ++ (encode b' ++ r)))
      = skip false (f :: frames) (encode b' ++ r)) :
    skipItem f frames (encode label ++ (encode b ++ (encode value ++ (encode b' ++ r))))
      = skip false (f :: frames) (encode b' ++ r) := by
  rw [skipItem, skipLabel_encode hl]
  exact hs

end Whole

mutual

theorem skip_value {b cs : List Char} {r : Bytes} (hb : Blanks b) (h : Value cs) (hr : Stops r)
    (frames : List Frame) :
    skip true frames (encode b ++ (encode cs ++ r)) = skip false frames r := by
  match cs, h with
  | _, .null =>
    exact skip_scalar_encode hb (by decide) (by decide) (readWord_encode (by decide) r)
  | _, .true =>
    exact skip_scalar_encode hb (by decide) (by decide) (readWord_encode (by decide) r)
  | _, .false =>
    exact skip_scalar_encode hb (by decide) (by decide) (readWord_encode (by decide) r)
  | _, .number h => exact skip_number hb h hr
  | _, .string h => exact skip_string hb h frames r
  | _, .empty f hb' => exact skip_empty_encode hb f hb' frames r
  | _, .full f h => exact skip_full_encode hb h (skip_items h frames r)

/-- The items of a frame are passed over, and then what follows the frame. -/
theorem skip_items {f : Frame} {cs : List Char} (h : Items f cs) (frames : List Frame)
    (r : Bytes) : skipItem f frames (encode cs ++ f.closer :: r) = skip false frames r := by
  match f, cs, h with
  | f, _, .one hl hb hv hb' =>
    have hs := skip_value hb hv (stops_append hb' (stops_closer f r)) (f :: frames)
    simp only [encode_append, List.append_assoc]
    rw [skipItem_encode hl hs, skip_closer (skipBlanks_token hb' (isBlank_closer f) r)]
  | f, _, .more hl hb hv hb' h =>
    have hs := fun r => skip_value hb hv (stops_append hb' (stops_comma r)) (f :: frames)
    simp only [encode_append, List.append_assoc, encode_ascii (by decide : ','.toNat < 128),
      List.cons_append]
    rw [skipItem_encode hl (hs _), skip_comma (skipBlanks_token hb' (by decide) _),
      skip_items h frames r]

end

/-- A value is passed over to exactly its end. -/
theorem skipValue_encode {b cs : List Char} {r : Bytes} (hb : Blanks b) (h : Value cs)
    (hr : Stops r) : skipValue (encode b ++ (encode cs ++ r)) = .ok r := by
  rw [skipValue, skip_value hb h hr, skip]

end ZyxtLexer.Json
