import ZyxtLexer.Json.Skip

/-! Values of an expected type, and what is said of one that has another type. -/
namespace ZyxtLexer.Json

/-- What stands at `bs`, a byte that is no blank first. -/
def identify : Bytes → Except Fault (Found × Place × Bytes)
  | [] => refuse .expectedValue .ahead []
  | b :: r =>
    match Char.ofUInt8 b with
    | 'n' => do
      let r ← readWord ['u', 'l', 'l'] r
      return (.null, .here, r)
    | 't' => do
      let r ← readWord ['r', 'u', 'e'] r
      return (.boolean true, .here, r)
    | 'f' => do
      let r ← readWord ['a', 'l', 's', 'e'] r
      return (.boolean false, .here, r)
    | '-' => do
      let (x, r) ← readNumber true r
      return (x, .seen, r)
    | '"' => do
      let (s, r) ← readText r
      return (.string s, .here, r)
    | '[' => .ok (.sequence, .seen, b :: r)
    | '{' => .ok (.map, .seen, b :: r)
    | _ =>
      if isDigit b then do
        let (x, r) ← readNumber false (b :: r)
        return (x, .seen, r)
      else refuse .expectedValue .ahead (b :: r)

/-- Refuses what stands at `bs` because it is not what was expected. -/
def mistyped {α : Type} (expected : String) (bs : Bytes) : Except Fault α :=
  match identify bs with
  | .error fault => .error fault
  | .ok (found, place, rest) => refuse (.wrongType found expected) place rest

theorem mistyped_ne_ok {α : Type} {expected : String} {bs : Bytes} {a : α} :
    mistyped expected bs ≠ .ok a := by
  unfold mistyped; split <;> simp [refuse]

def readBool (bs : Bytes) : Except Fault (Bool × Bytes) :=
  match skipBlanks bs with
  | [] => refuse .endInValue .ahead []
  | b :: r =>
    if b = 't'.toUInt8 then do
      let r ← readWord ['r', 'u', 'e'] r
      return (true, r)
    else if b = 'f'.toUInt8 then do
      let r ← readWord ['a', 'l', 's', 'e'] r
      return (false, r)
    else mistyped "a boolean" (b :: r)

def readString (bs : Bytes) : Except Fault (String × Bytes) :=
  match skipBlanks bs with
  | [] => refuse .endInValue .ahead []
  | b :: r => if b = '"'.toUInt8 then readText r else mistyped "a string" (b :: r)

def readNull (bs : Bytes) : Except Fault Bytes :=
  match skipBlanks bs with
  | [] => refuse .endInValue .ahead []
  | b :: r =>
    if b = 'n'.toUInt8 then readWord ['u', 'l', 'l'] r else mistyped "unit" (b :: r)

def readVariant {α : Type} (ofName? : String → Option α) (expected : String) (bs : Bytes) :
    Except Fault (α × Bytes) := do
  let (name, rest) ← readText bs
  match ofName? name with
  | some v => return (v, rest)
  | none => refuse (.unknownVariant name expected) .here rest

/-- A variant without content: its name, or an object whose one member has that name and the
value `null`. -/
def readUnitVariant {α : Type} (ofName? : String → Option α) (expected : String) (bs : Bytes) :
    Except Fault (α × Bytes) :=
  match skipBlanks bs with
  | [] => refuse .endInValue .ahead []
  | b :: r =>
    if b = '"'.toUInt8 then readVariant ofName? expected r
    else if b = '{'.toUInt8 then
      match skipBlanks r with
      | [] => refuse .endInObject .ahead []
      | c :: s =>
        if c = '"'.toUInt8 then do
          let (v, s) ← readVariant ofName? expected s
          let s ← readColon s
          let s ← readNull s
          match skipBlanks s with
          | [] => refuse .endInObject .here []
          | d :: t =>
            if d = '}'.toUInt8 then return (v, t) else refuse .expectedValue .seen (d :: t)
        else if c = '}'.toUInt8 then refuse .expectedValue .ahead (c :: s)
        else refuse .keyMustBeString .ahead (c :: s)
    else refuse .expectedValue .ahead (b :: r)

/-- Goes to the next member of an object, if there is one, from the opener or the member before:
to just after the quote of its key, or to just after the object. -/
def nextMember (first : Bool) (bs : Bytes) : Except Fault (Bool × Bytes) :=
  match skipBlanks bs with
  | [] => refuse .endInObject .ahead []
  | b :: r =>
    if b = '}'.toUInt8 then .ok (false, r)
    else if first then
      if b = '"'.toUInt8 then .ok (true, r) else refuse .keyMustBeString .ahead (b :: r)
    else if b = ','.toUInt8 then
      match skipBlanks r with
      | [] => refuse .endInValue .ahead []
      | c :: s =>
        if c = '"'.toUInt8 then .ok (true, s)
        else if c = '}'.toUInt8 then refuse .trailingComma .ahead (c :: s)
        else refuse .keyMustBeString .ahead (c :: s)
    else refuse .expectedObjectCommaOrEnd .ahead (b :: r)

/-- Goes to the next element of a list, if there is one, from the opener or the element before:
to the element, or to the closer. -/
def nextElement (first : Bool) (bs : Bytes) : Except Fault (Bool × Bytes) :=
  match skipBlanks bs with
  | [] => refuse .endInList .ahead []
  | b :: r =>
    if b = ']'.toUInt8 then .ok (false, b :: r)
    else if first then .ok (true, b :: r)
    else if b = ','.toUInt8 then
      match skipBlanks r with
      | [] => refuse .endInValue .ahead []
      | c :: s => if c = ']'.toUInt8 then refuse .trailingComma .ahead (c :: s) else .ok (true, c :: s)
    else refuse .expectedListCommaOrEnd .ahead (b :: r)

def closeList (bs : Bytes) : Except Fault Bytes :=
  match skipBlanks bs with
  | [] => refuse .endInList .ahead []
  | b :: r =>
    if b = ']'.toUInt8 then .ok r
    else if b = ','.toUInt8 then
      match skipBlanks r with
      | [] => refuse .trailingCharacters .ahead []
      | c :: s =>
        if c = ']'.toUInt8 then refuse .trailingComma .ahead (c :: s)
        else refuse .trailingCharacters .ahead (c :: s)
    else refuse .trailingCharacters .ahead (b :: r)

def readWhole {α : Type} (read : Bytes → Except Fault (α × Bytes)) (bs : Bytes) :
    Except Fault α := do
  let (a, r) ← read bs
  match skipBlanks r with
  | [] => return a
  | b :: s => refuse .trailingCharacters .ahead (b :: s)

theorem length_readBool {bs r : Bytes} {v : Bool} (h : readBool bs = .ok (v, r)) :
    r.length < bs.length := by
  unfold readBool at h
  split at h
  · simp [refuse] at h
  · rename_i hb
    have := length_of_skipBlanks hb
    split at h
    · obtain ⟨s, hs, h⟩ := bind_eq_ok.1 h
      have := length_readWord hs
      simp only [pure, Except.pure, Except.ok.injEq, Prod.mk.injEq] at h
      rw [← h.2]; omega
    · split at h
      · obtain ⟨s, hs, h⟩ := bind_eq_ok.1 h
        have := length_readWord hs
        simp only [pure, Except.pure, Except.ok.injEq, Prod.mk.injEq] at h
        rw [← h.2]; omega
      · exact absurd h mistyped_ne_ok

theorem length_readString {bs r : Bytes} {s : String} (h : readString bs = .ok (s, r)) :
    r.length < bs.length := by
  unfold readString at h
  split at h
  · simp [refuse] at h
  · rename_i hb
    have := length_of_skipBlanks hb
    split at h
    · have := length_readText h
      omega
    · exact absurd h mistyped_ne_ok

theorem length_readNull {bs r : Bytes} (h : readNull bs = .ok r) : r.length < bs.length := by
  unfold readNull at h
  split at h
  · simp [refuse] at h
  · rename_i hb
    have := length_of_skipBlanks hb
    split at h
    · have := length_readWord h
      omega
    · exact absurd h mistyped_ne_ok

theorem length_readVariant {α : Type} {f : String → Option α} {e : String} {bs r : Bytes} {v : α}
    (h : readVariant f e bs = .ok (v, r)) : r.length < bs.length := by
  obtain ⟨⟨n, s⟩, hn, h⟩ := bind_eq_ok.1 h
  have := length_readText hn
  simp only at h
  split at h
  · simp only [pure, Except.pure, Except.ok.injEq, Prod.mk.injEq] at h
    rw [← h.2]; omega
  · simp [refuse] at h

theorem length_readUnitVariant {α : Type} {f : String → Option α} {e : String} {bs r : Bytes}
    {v : α} (h : readUnitVariant f e bs = .ok (v, r)) : r.length < bs.length := by
  unfold readUnitVariant at h
  split at h
  · simp [refuse] at h
  · rename_i hb
    have := length_of_skipBlanks hb
    split at h
    · have := length_readVariant h
      omega
    · split at h
      · split at h
        · simp [refuse] at h
        · rename_i hc
          have := length_of_skipBlanks hc
          split at h
          · obtain ⟨⟨w, s⟩, hw, h⟩ := bind_eq_ok.1 h
            obtain ⟨t, ht, h⟩ := bind_eq_ok.1 h
            obtain ⟨u, hu, h⟩ := bind_eq_ok.1 h
            have := length_readVariant hw
            have := length_readColon ht
            have := length_readNull hu
            split at h
            · simp [refuse] at h
            · rename_i hd
              have := length_of_skipBlanks hd
              split at h
              · simp only [pure, Except.pure, Except.ok.injEq, Prod.mk.injEq] at h
                rw [← h.2]; omega
              · simp [refuse] at h
          · split at h <;> simp [refuse] at h
      · simp [refuse] at h

theorem length_nextMember {first : Bool} {bs r : Bytes} {more : Bool}
    (h : nextMember first bs = .ok (more, r)) : r.length < bs.length := by
  unfold nextMember at h
  split at h
  · simp [refuse] at h
  · rename_i hb
    have := length_of_skipBlanks hb
    split at h
    · simp only [Except.ok.injEq, Prod.mk.injEq] at h
      rw [← h.2]; omega
    · split at h
      · split at h
        · simp only [Except.ok.injEq, Prod.mk.injEq] at h
          rw [← h.2]; omega
        · simp [refuse] at h
      · split at h
        · split at h
          · simp [refuse] at h
          · rename_i hc
            have := length_of_skipBlanks hc
            split at h
            · simp only [Except.ok.injEq, Prod.mk.injEq] at h
              rw [← h.2]; omega
            · split at h <;> simp [refuse] at h
        · simp [refuse] at h

end ZyxtLexer.Json
