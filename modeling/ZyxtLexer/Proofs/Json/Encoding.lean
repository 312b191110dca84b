import ZyxtLexer.Json.Skip

/-! The bytes of a text. What the reader looks for between and in values are characters of one
byte, and no other character has such a byte. -/
namespace ZyxtLexer.Json

def encode (cs : List Char) : Bytes := cs.flatMap String.utf8EncodeChar

theorem bytesOf_eq (s : String) : bytesOf s = encode s.toList := rfl

@[simp] theorem encode_nil : encode [] = [] := rfl

@[simp] theorem encode_append (cs ds : List Char) : encode (cs ++ ds) = encode cs ++ encode ds :=
  List.flatMap_append

theorem encode_cons (c : Char) (cs : List Char) :
    encode (c :: cs) = String.utf8EncodeChar c ++ encode cs := rfl

theorem utf8EncodeChar_ascii {c : Char} (h : c.toNat < 128) :
    String.utf8EncodeChar c = [c.toUInt8] :=
  String.utf8EncodeChar_eq_singleton
    (Char.utf8Size_eq_one_iff.2 (UInt32.le_iff_toNat_le.2 (Nat.le_of_lt_succ h)))

@[simp] theorem encode_ascii {c : Char} (h : c.toNat < 128) (cs : List Char) :
    encode (c :: cs) = c.toUInt8 :: encode cs := by
  rw [encode_cons, utf8EncodeChar_ascii h]; rfl

theorem toNat_toUInt8 {c : Char} (h : c.toNat < 128) : c.toUInt8.toNat = c.toNat := by
  have : c.toUInt8.toNat = c.toNat % 256 := UInt32.toNat_toUInt8 c.val
  omega

theorem toUInt8_inj {c d : Char} (hc : c.toNat < 128) (hd : d.toNat < 128) :
    c.toUInt8 = d.toUInt8 ↔ c = d := by
  rw [← UInt8.toNat_inj, toNat_toUInt8 hc, toNat_toUInt8 hd, Char.toNat_inj]

theorem toUInt8_ofUInt8 (b : UInt8) : (Char.ofUInt8 b).toUInt8 = b := UInt8.toUInt8_toUInt32 b

theorem high_of_mem_utf8EncodeChar {c : Char} (h : 128 ≤ c.toNat) {b : UInt8}
    (hb : b ∈ String.utf8EncodeChar c) : 128 ≤ b.toNat := by
  have h' : ¬ c.val.toNat ≤ 127 := Nat.not_le.2 h
  simp only [String.utf8EncodeChar, h', if_false] at hb
  split at hb
  · simp only [List.mem_cons, List.not_mem_nil, or_false] at hb
    rcases hb with rfl | rfl <;> simp <;> omega
  · split at hb
    · simp only [List.mem_cons, List.not_mem_nil, or_false] at hb
      rcases hb with rfl | rfl | rfl <;> simp <;> omega
    · simp only [List.mem_cons, List.not_mem_nil, or_false] at hb
      rcases hb with rfl | rfl | rfl | rfl <;> simp <;> omega

/-- A property of all characters of one byte is one of `128` characters. -/
theorem ascii_forall {p : Char → Prop} (h : ∀ n < 128, p (Char.ofNat n)) {c : Char}
    (hc : c.toNat < 128) : p c := by
  rw [← Char.ofNat_toNat c]
  exact h c.toNat hc

theorem fromUTF8?_encode (cs : List Char) :
    String.fromUTF8? (encode cs).toByteArray = some (String.ofList cs) := by
  have hv : (encode cs).toByteArray.IsValidUTF8 := .intro cs rfl
  rw [String.fromUTF8?, dif_pos hv]
  rfl

/-- Bytes are decoded to the text of which they are the bytes, and to no other. -/
theorem fromUTF8?_eq_some_iff {bs : Bytes} {text : String} :
    String.fromUTF8? bs.toByteArray = some text ↔ bs = bytesOf text := by
  constructor
  · intro h
    obtain ⟨cs, hcs⟩ : bs.toByteArray.IsValidUTF8 := Decidable.byContradiction fun hv => by
      rw [String.fromUTF8?, dif_neg hv] at h
      cases h
    have hbs : bs = encode cs := by
      simpa [encode, List.utf8Encode] using congrArg (fun a => a.data.toList) hcs
    rw [hbs, fromUTF8?_encode] at h
    rw [hbs, ← Option.some.inj h, bytesOf_eq, String.toList_ofList]
  · rintro rfl
    rw [bytesOf_eq, fromUTF8?_encode, String.ofList_toList]

theorem decodeText_encode (s : List Char) (rest : Bytes) :
    decodeText (encode s) rest = .ok (String.ofList s) := by
  unfold decodeText
  rw [fromUTF8?_encode]

theorem encode_injective {s t : List Char} (h : encode s = encode t) : s = t := by
  have hdecode := congrArg (fun bs => decodeText bs []) h
  simpa only [decodeText_encode, Except.ok.injEq, String.ofList_inj] using hdecode

end ZyxtLexer.Json
