import ZyxtLexer.Json.Stream.Skip
import ZyxtLexer.Json.Value

/-! Values of an expected type in a stream. -/
namespace ZyxtLexer.Json.Stream

/-- What stands in a stream whose next byte has been looked at. -/
def identify : Stream → Except Fault (Found × Stream)
  | ⟨none, r⟩ => refuse .expectedValue r
  | ⟨some b, r⟩ =>
    match Char.ofUInt8 b with
    | 'n' => do
      let s ← (fresh r).readWord ['u', 'l', 'l']
      return (.null, s)
    | 't' => do
      let s ← (fresh r).readWord ['r', 'u', 'e']
      return (.boolean true, s)
    | 'f' => do
      let s ← (fresh r).readWord ['a', 'l', 's', 'e']
      return (.boolean false, s)
    | '-' => do
      let (x, s) ← readNumber true (fresh r)
      return (x, s)
    | '"' => do
      let (t, s) ← (fresh r).readText
      return (.string t, s)
    | '[' => .ok (.sequence, ⟨some b, r⟩)
    | '{' => .ok (.map, ⟨some b, r⟩)
    | _ =>
      if isDigit b then do
        let (x, s) ← readNumber false ⟨some b, r⟩
        return (x, s)
      else refuse .expectedValue r

def mistyped {α : Type} (expected : String) (s : Stream) : Except Fault α := do
  let (found, s) ← s.identify
  refuse (.wrongType found expected) s.rest

def readBool (s : Stream) : Except Fault (Bool × Stream) :=
  match s.skipBlanks with
  | ⟨none, r⟩ => refuse .endInValue r
  | ⟨some b, r⟩ =>
    if b = 't'.toUInt8 then do
      let s ← (fresh r).readWord ['r', 'u', 'e']
      return (true, s)
    else if b = 'f'.toUInt8 then do
      let s ← (fresh r).readWord ['a', 'l', 's', 'e']
      return (false, s)
    else mistyped "a boolean" ⟨some b, r⟩

def readString (s : Stream) : Except Fault (String × Stream) :=
  match s.skipBlanks with
  | ⟨none, r⟩ => refuse .endInValue r
  | ⟨some b, r⟩ =>
    if b = '"'.toUInt8 then (fresh r).readText else mistyped "a string" ⟨some b, r⟩

def readNull (s : Stream) : Except Fault Stream :=
  match s.skipBlanks with
  | ⟨none, r⟩ => refuse .endInValue r
  | ⟨some b, r⟩ =>
    if b = 'n'.toUInt8 then (fresh r).readWord ['u', 'l', 'l'] else mistyped "unit" ⟨some b, r⟩

def readVariant {α : Type} (ofName? : String → Option α) (expected : String) (s : Stream) :
    Except Fault (α × Stream) := do
  let (name, s) ← s.readText
  match ofName? name with
  | some v => return (v, s)
  | none => refuse (.unknownVariant name expected) s.rest

def readUnitVariant {α : Type} (ofName? : String → Option α) (expected : String) (s : Stream) :
    Except Fault (α × Stream) :=
  match s.skipBlanks with
  | ⟨none, r⟩ => refuse .endInValue r
  | ⟨some b, r⟩ =>
    if b = '"'.toUInt8 then readVariant ofName? expected (fresh r)
    else if b = '{'.toUInt8 then
      match (fresh r).skipBlanks with
      | ⟨none, r⟩ => refuse .endInObject r
      | ⟨some c, r⟩ =>
        if c = '"'.toUInt8 then do
          let (v, s) ← readVariant ofName? expected (fresh r)
          let s ← s.readColon
          let s ← s.readNull
          match s.skipBlanks with
          | ⟨none, r⟩ => refuse .endInObject r
          | ⟨some d, r⟩ =>
            if d = '}'.toUInt8 then return (v, fresh r) else refuse .expectedValue r
        else if c = '}'.toUInt8 then refuse .expectedValue r
        else refuse .keyMustBeString r
    else refuse .expectedValue r

def nextMember (first : Bool) (s : Stream) : Except Fault (Bool × Stream) :=
  match s.skipBlanks with
  | ⟨none, r⟩ => refuse .endInObject r
  | ⟨some b, r⟩ =>
    if b = '}'.toUInt8 then .ok (false, fresh r)
    else if first then
      if b = '"'.toUInt8 then .ok (true, fresh r) else refuse .keyMustBeString r
    else if b = ','.toUInt8 then
      match (fresh r).skipBlanks with
      | ⟨none, r⟩ => refuse .endInValue r
      | ⟨some c, r⟩ =>
        if c = '"'.toUInt8 then .ok (true, fresh r)
        else if c = '}'.toUInt8 then refuse .trailingComma r
        else refuse .keyMustBeString r
    else refuse .expectedObjectCommaOrEnd r

def nextElement (first : Bool) (s : Stream) : Except Fault (Bool × Stream) :=
  match s.skipBlanks with
  | ⟨none, r⟩ => refuse .endInList r
  | ⟨some b, r⟩ =>
    if b = ']'.toUInt8 then .ok (false, ⟨some b, r⟩)
    else if first then .ok (true, ⟨some b, r⟩)
    else if b = ','.toUInt8 then
      match (fresh r).skipBlanks with
      | ⟨none, r⟩ => refuse .endInValue r
      | ⟨some c, r⟩ => if c = ']'.toUInt8 then refuse .trailingComma r else .ok (true, ⟨some c, r⟩)
    else refuse .expectedListCommaOrEnd r

def closeList (s : Stream) : Except Fault Stream :=
  match s.skipBlanks with
  | ⟨none, r⟩ => refuse .endInList r
  | ⟨some b, r⟩ =>
    if b = ']'.toUInt8 then .ok (fresh r)
    else if b = ','.toUInt8 then
      match (fresh r).skipBlanks with
      | ⟨none, r⟩ => refuse .trailingCharacters r
      | ⟨some c, r⟩ =>
        if c = ']'.toUInt8 then refuse .trailingComma r else refuse .trailingCharacters r
    else refuse .trailingCharacters r

def readWhole {α : Type} (read : Stream → Except Fault (α × Stream)) (r : Bytes) :
    Except Fault α := do
  let (a, s) ← read (fresh r)
  match s.skipBlanks with
  | ⟨none, _⟩ => return a
  | ⟨some _, r⟩ => refuse .trailingCharacters r

/-- What is found is the same, and its place is where the stream has got to. -/
def Located (p : Found × Stream) (q : Found × Place × Bytes) : Prop :=
  p.1 = q.1 ∧ ∀ cause, Fault.inStream ⟨cause, q.2.1, q.2.2⟩ = ⟨cause, .here, p.2.rest⟩

theorem agree_identify (bs : Bytes) : Agree Located (identify (looking bs)) (Json.identify bs) := by
  cases bs with
  | nil => exact .ahead _ []
  | cons b r =>
    have hlook : looking (b :: r) = ⟨some b, r⟩ := rfl
    rw [hlook, identify, Json.identify]
    generalize Char.ofUInt8 b = c
    split
    · exact (agree_readWord _ r).bind_rest fun _ => .ok ⟨rfl, fun _ => rfl⟩
    · exact (agree_readWord _ r).bind_rest fun _ => .ok ⟨rfl, fun _ => rfl⟩
    · exact (agree_readWord _ r).bind_rest fun _ => .ok ⟨rfl, fun _ => rfl⟩
    · exact (agree_readNumber true (fresh r)).bind_value fun _ _ => .ok ⟨rfl, fun _ => rfl⟩
    · exact (agree_readText (fresh r)).bind_value fun _ _ => .ok ⟨rfl, fun _ => rfl⟩
    · exact .ok ⟨rfl, fun _ => rfl⟩
    · exact .ok ⟨rfl, fun _ => rfl⟩
    · simp only [imp_false] at *
      refine .ite (fun _ => ?_) fun _ => .ahead _ (b :: r)
      exact (agree_readNumber false ⟨some b, r⟩).bind_value fun _ _ => .ok ⟨rfl, fun _ => rfl⟩

variable {α β : Type}

theorem agree_mistyped {R : α → β → Prop} (expected : String) (bs : Bytes) :
    Agree R (mistyped expected (looking bs)) (Json.mistyped expected bs) := by
  have hbind : (Json.mistyped expected bs : Except Fault β) =
      Json.identify bs >>= fun q => Json.refuse (.wrongType q.1 expected) q.2.1 q.2.2 := by
    rw [Json.mistyped]
    cases Json.identify bs <;> rfl
  rw [hbind]
  refine (agree_identify bs).bind ?_
  rintro ⟨found, s⟩ ⟨found', place, rest⟩ ⟨hf, hs⟩
  cases hf
  have hstream : (refuse (.wrongType found expected) s.rest : Except Fault α) =
      .error (Fault.inStream ⟨.wrongType found expected, place, rest⟩) := by
    rw [hs]
    rfl
  simp only [hstream]
  exact .error _

theorem agree_readBool (s : Stream) :
    Agree (Same Fresh) s.readBool (Json.readBool s.unread) := by
  have hword : ∀ (cs : List Char) (r : Bytes) (v : Bool), Agree (Same Fresh)
      (do let s ← (fresh r).readWord cs; return (v, s))
      (do let r ← Json.readWord cs r; return (v, r)) :=
    fun cs r v => (agree_readWord cs r).bind_rest fun _ => .ok ⟨rfl, rfl⟩
  exact agree_blanks s (.ahead _ []) fun b r =>
    .ite (fun _ => hword _ r true) fun _ =>
      .ite (fun _ => hword _ r false) fun _ => agree_mistyped "a boolean" (b :: r)

theorem agree_readString (s : Stream) :
    Agree (Same Fresh) s.readString (Json.readString s.unread) :=
  agree_blanks s (.ahead _ []) fun b r =>
    .ite (fun _ => agree_readText (fresh r)) fun _ => agree_mistyped "a string" (b :: r)

theorem agree_readNull (s : Stream) : Agree Fresh s.readNull (Json.readNull s.unread) :=
  agree_blanks s (.ahead _ []) fun b r =>
    .ite (fun _ => agree_readWord _ r) fun _ => agree_mistyped "unit" (b :: r)

theorem agree_readVariant (ofName? : String → Option α) (expected : String) (s : Stream) :
    Agree (Same Fresh) (readVariant ofName? expected s)
      (Json.readVariant ofName? expected s.unread) := by
  refine (agree_readText s).bind_value fun name r => ?_
  simp only
  cases ofName? name with
  | some v => exact .ok ⟨rfl, rfl⟩
  | none => exact .here _ r

theorem agree_readUnitVariant (ofName? : String → Option α) (expected : String) (s : Stream) :
    Agree (Same Fresh) (readUnitVariant ofName? expected s)
      (Json.readUnitVariant ofName? expected s.unread) := by
  refine agree_blanks s (.ahead _ []) fun b r => ?_
  refine .ite (fun _ => agree_readVariant ofName? expected (fresh r)) fun _ =>
    .ite (fun _ => ?_) fun _ => .ahead _ (b :: r)
  refine agree_blanks (fresh r) (.ahead _ []) fun c r => ?_
  refine .ite (fun _ => ?_) fun _ => .ite (fun _ => .ahead _ (c :: r)) fun _ => .ahead _ (c :: r)
  refine (agree_readVariant ofName? expected (fresh r)).bind_value fun v r => ?_
  refine (agree_readColon (fresh r)).bind_rest fun r => ?_
  refine (agree_readNull (fresh r)).bind_rest fun r => ?_
  exact agree_blanks (fresh r) (.here _ []) fun d r =>
    .ite (fun _ => .ok ⟨rfl, rfl⟩) fun _ => .seen _ (d :: r)

theorem agree_nextMember (first : Bool) (s : Stream) :
    Agree (Same Fresh) (nextMember first s) (Json.nextMember first s.unread) := by
  refine agree_blanks s (.ahead _ []) fun b r => ?_
  refine .ite (fun _ => .ok ⟨rfl, rfl⟩) fun _ => .ite (fun _ => ?_) fun _ =>
    .ite (fun _ => ?_) fun _ => .ahead _ (b :: r)
  · exact .ite (fun _ => .ok ⟨rfl, rfl⟩) fun _ => .ahead _ (b :: r)
  · exact agree_blanks (fresh r) (.ahead _ []) fun c r =>
      .ite (fun _ => .ok ⟨rfl, rfl⟩) fun _ =>
        .ite (fun _ => .ahead _ (c :: r)) fun _ => .ahead _ (c :: r)

theorem agree_nextElement (first : Bool) (s : Stream) :
    Agree (Same Looking) (nextElement first s) (Json.nextElement first s.unread) := by
  refine agree_blanks s (.ahead _ []) fun b r => ?_
  refine .ite (fun _ => .ok ⟨rfl, rfl⟩) fun _ => .ite (fun _ => .ok ⟨rfl, rfl⟩) fun _ =>
    .ite (fun _ => ?_) fun _ => .ahead _ (b :: r)
  exact agree_blanks (fresh r) (.ahead _ []) fun c r =>
    .ite (fun _ => .ahead _ (c :: r)) fun _ => .ok ⟨rfl, rfl⟩

theorem agree_closeList (s : Stream) : Agree Fresh s.closeList (Json.closeList s.unread) := by
  refine agree_blanks s (.ahead _ []) fun b r => ?_
  refine .ite (fun _ => .ok rfl) fun _ => .ite (fun _ => ?_) fun _ => .ahead _ (b :: r)
  exact agree_blanks (fresh r) (.ahead _ []) fun c r =>
    .ite (fun _ => .ahead _ (c :: r)) fun _ => .ahead _ (c :: r)

/-- Readers of values that agree on what is left agree on whether it is nothing. -/
theorem agree_readWhole {read : Bytes → Except Fault (α × Bytes)}
    {fetch : Stream → Except Fault (α × Stream)}
    (h : ∀ s, Agree (Same Unread) (fetch s) (read s.unread)) (bs : Bytes) :
    Agree Eq (readWhole fetch bs) (Json.readWhole read bs) := by
  refine (h (fresh bs)).bind ?_
  rintro ⟨a, s⟩ ⟨a', r⟩ ⟨ha, hs⟩
  cases ha
  cases hs
  exact agree_blanks s (.ok rfl) fun b r => .ahead _ (b :: r)

end ZyxtLexer.Json.Stream
