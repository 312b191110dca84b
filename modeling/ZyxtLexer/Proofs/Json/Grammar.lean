import ZyxtLexer.Json.Skip

/-! The grammar of JSON texts, by rules on their characters. A value of any depth is a text of its
own; of a string it is also said which characters it stands for. -/
namespace ZyxtLexer.Json

/-- What may stand between two tokens. -/
def Blanks (cs : List Char) : Prop := ∀ c ∈ cs, c = ' ' ∨ c = '\n' ∨ c = '\t' ∨ c = '\r'

/-- Whether a character can stand for itself in a string. -/
def IsPlain (c : Char) : Prop := 32 ≤ c.toNat ∧ c ≠ '"' ∧ c ≠ '\\'

instance : DecidablePred IsPlain := fun c =>
  inferInstanceAs (Decidable (32 ≤ c.toNat ∧ c ≠ '"' ∧ c ≠ '\\'))

/-- The letters of the short escapes, each with the character that it stands for. -/
def shortEscapes : List (Char × Char) :=
  [('"', '"'), ('\\', '\\'), ('/', '/'), ('b', '\x08'), ('f', '\x0c'), ('n', '\n'), ('r', '\r'),
    ('t', '\t')]

def HexDigit (c : Char) (n : Nat) : Prop :=
  n < 16 ∧ (c = Nat.digitChar n ∨ c = (Nat.digitChar n).toUpper)

instance (c : Char) (n : Nat) : Decidable (HexDigit c n) :=
  inferInstanceAs (Decidable (n < 16 ∧ (c = Nat.digitChar n ∨ c = (Nat.digitChar n).toUpper)))

inductive FourDigits : List Char → Nat → Prop
  | mk {a b c d : Char} {i j k l : Nat} (ha : HexDigit a i) (hb : HexDigit b j) (hc : HexDigit c k)
    (hd : HexDigit d l) : FourDigits [a, b, c, d] (((i * 16 + j) * 16 + k) * 16 + l)

/-- What stands between the quotes of a string. -/
inductive StringBody : List Char → Prop
  | nil : StringBody []
  | plain {c : Char} {cs : List Char} (hc : IsPlain c) (h : StringBody cs) : StringBody (c :: cs)
  | short {e c : Char} {cs : List Char} (he : (e, c) ∈ shortEscapes) (h : StringBody cs) :
    StringBody ('\\' :: e :: cs)
  | unit {us cs : List Char} {n : Nat} (hu : FourDigits us n) (h : StringBody cs) :
    StringBody ('\\' :: 'u' :: (us ++ cs))

/-- What stands between the quotes of a string, with the characters for which it stands. Each half
of a surrogate pair has its other half. -/
inductive Spells : List Char → List Char → Prop
  | nil : Spells [] []
  | plain {c : Char} {cs s : List Char} (hc : IsPlain c) (h : Spells cs s) :
    Spells (c :: cs) (c :: s)
  | short {e c : Char} {cs s : List Char} (he : (e, c) ∈ shortEscapes) (h : Spells cs s) :
    Spells ('\\' :: e :: cs) (c :: s)
  | unit {us cs s : List Char} {n : Nat} (hu : FourDigits us n)
    (hn : n < 0xd800 ∨ 0xdfff < n) (h : Spells cs s) :
    Spells ('\\' :: 'u' :: (us ++ cs)) (Char.ofNat n :: s)
  | pair {us vs cs s : List Char} {high low : Nat} (hu : FourDigits us high)
    (hh : 0xd800 ≤ high ∧ high ≤ 0xdbff) (hv : FourDigits vs low)
    (hl : 0xdc00 ≤ low ∧ low ≤ 0xdfff) (h : Spells cs s) :
    Spells ('\\' :: 'u' :: (us ++ '\\' :: 'u' :: (vs ++ cs)))
      (Char.ofNat (0x10000 + (high - 0xd800) * 0x400 + (low - 0xdc00)) :: s)

theorem Spells.self {cs : List Char} (h : cs.all fun c => decide (IsPlain c)) : Spells cs cs := by
  induction cs with
  | nil => exact .nil
  | cons c cs ih =>
    rw [List.all_cons, Bool.and_eq_true, decide_eq_true_eq] at h
    exact .plain h.1 (ih h.2)

theorem Spells.body {cs s : List Char} (h : Spells cs s) : StringBody cs := by
  induction h with
  | nil => exact .nil
  | plain hc _ ih => exact .plain hc ih
  | short he _ ih => exact .short he ih
  | unit hu _ _ ih => exact .unit hu ih
  | pair hu _ hv _ _ ih => exact .unit hu (.unit hv ih)

def Digits (cs : List Char) : Prop := cs ≠ [] ∧ ∀ c ∈ cs, c.isDigit

/-- The integer digits of a number: a zero stands alone. -/
def Whole (cs : List Char) : Prop := cs = ['0'] ∨ (Digits cs ∧ cs.head? ≠ some '0')

def Fraction (cs : List Char) : Prop := cs = [] ∨ ∃ ds, Digits ds ∧ cs = '.' :: ds

def Exponent (cs : List Char) : Prop :=
  cs = [] ∨ ∃ e sign ds, (e = 'e' ∨ e = 'E') ∧ (sign = [] ∨ sign = ['+'] ∨ sign = ['-']) ∧
    Digits ds ∧ cs = e :: (sign ++ ds)

inductive Number : List Char → Prop
  | mk {sign whole fraction exponent : List Char} (hs : sign = [] ∨ sign = ['-'])
    (hw : Whole whole) (hf : Fraction fraction) (he : Exponent exponent) :
    Number (sign ++ (whole ++ (fraction ++ exponent)))

namespace Frame

def opening : Frame → Char
  | list => '['
  | object => '{'

def closing : Frame → Char
  | list => ']'
  | object => '}'

end Frame

/-- What stands before a value in a frame: in a list nothing, in an object the key. -/
inductive Label : Frame → List Char → Prop
  | list : Label .list []
  | object {b key b' : List Char} (hb : Blanks b) (hk : StringBody key) (hb' : Blanks b') :
    Label .object (b ++ '"' :: (key ++ '"' :: (b' ++ [':'])))

mutual

inductive Value : List Char → Prop
  | null : Value ['n', 'u', 'l', 'l']
  | true : Value ['t', 'r', 'u', 'e']
  | false : Value ['f', 'a', 'l', 's', 'e']
  | number {cs : List Char} (h : Number cs) : Value cs
  | string {cs : List Char} (h : StringBody cs) : Value ('"' :: (cs ++ ['"']))
  | empty (f : Frame) {b : List Char} (hb : Blanks b) : Value (f.opening :: (b ++ [f.closing]))
  | full (f : Frame) {cs : List Char} (h : Items f cs) : Value (f.opening :: (cs ++ [f.closing]))

/-- One or more values in a frame, each with its label, and commas between them. -/
inductive Items : Frame → List Char → Prop
  | one {f : Frame} {label b value b' : List Char} (hl : Label f label) (hb : Blanks b)
    (hv : Value value) (hb' : Blanks b') : Items f (label ++ (b ++ (value ++ b')))
  | more {f : Frame} {label b value b' cs : List Char} (hl : Label f label) (hb : Blanks b)
    (hv : Value value) (hb' : Blanks b') (h : Items f cs) :
    Items f (label ++ (b ++ (value ++ (b' ++ ',' :: cs))))

end

/-- A member of an object: its key, decoded, and its value as it is written. -/
structure Member where
  key : String
  value : List Char

/-- The texts of a member, from just after the quote of its key. -/
inductive Member.Body (m : Member) : List Char → Prop
  | mk {key b b' : List Char} (hk : Spells key m.key.toList) (hb : Blanks b) (hb' : Blanks b')
    (hv : Value m.value) : m.Body (key ++ '"' :: (b ++ ':' :: (b' ++ m.value)))

theorem Member.Body.value {m : Member} {cs : List Char} (h : m.Body cs) : Value m.value := by
  obtain ⟨_, _, _, hv⟩ := h
  exact hv

inductive Members : List Member → List Char → Prop
  | one {m : Member} {b cs b' : List Char} (hb : Blanks b) (h : m.Body cs) (hb' : Blanks b') :
    Members [m] (b ++ '"' :: (cs ++ b'))
  | more {m : Member} {ms : List Member} {b cs b' ds : List Char} (hb : Blanks b) (h : m.Body cs)
    (hb' : Blanks b') (hs : Members ms ds) :
    Members (m :: ms) (b ++ '"' :: (cs ++ (b' ++ ',' :: ds)))

inductive ObjectText : List Member → List Char → Prop
  | empty {b b' b'' : List Char} (hb : Blanks b) (hb' : Blanks b') (hb'' : Blanks b'') :
    ObjectText [] (b ++ '{' :: (b' ++ '}' :: b''))
  | full {ms : List Member} {b cs b' : List Char} (hb : Blanks b) (h : Members ms cs)
    (hb' : Blanks b') : ObjectText ms (b ++ '{' :: (cs ++ '}' :: b'))

end ZyxtLexer.Json
