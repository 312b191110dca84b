import ZyxtLexer.Proofs.Json.Quoted
import ZyxtLexer.Proofs.Text.Quoted
import ZyxtLexer.Token.Listing

/-! Listings are unambiguous: in either format the text tells the tokens, since each of its parts
can be told from what is written behind it. In the format with one token to a line there are as
many newlines as tokens, whatever the values hold. -/
namespace ZyxtLexer

theorem toList_number (n : Nat) : (toString n).toList = Nat.toDigits 10 n := Nat.toList_repr

theorem not_mem_number {c : Char} (hc : c.isDigit = false) (n : Nat) :
    c ∉ (toString n).toList := by
  intro hmem
  rw [toList_number] at hmem
  have hdigit := Nat.isDigit_of_mem_toDigits (by decide) (by decide) hmem
  exact Bool.false_ne_true (hc.symm.trans hdigit)

theorem legible_number (text : List Char) {c : Char} (htext : text.head? = some c)
    (hc : c.isDigit = false) : Legible (fun n : Nat => (toString n).toList ++ text) id := by
  refine (Legible.upTo htext (not_mem_number hc)).imp id fun m n h => ?_
  rw [toList_number, toList_number] at h
  exact Text.toDigits_injective (by decide) (by decide) h

theorem not_mem_name {c : Char} (hc : c.isAlpha = false) (k : Kind) : c ∉ k.name.toList := by
  have hletters : k.name.toList.all Char.isAlpha := by cases k <;> decide
  intro hmem
  exact Bool.false_ne_true (hc.symm.trans (List.all_eq_true.1 hletters c hmem))

theorem legible_kind (text : List Char) {c : Char} (htext : text.head? = some c)
    (hc : c.isAlpha = false) : Legible (fun k : Kind => k.name.toList ++ text) id :=
  (Legible.upTo htext (not_mem_name hc)).imp id fun _ _ h =>
    Kind.name_injective (String.toList_injective h)

namespace Token

theorem eq_of_parts {t u : Token} (hkind : t.kind = u.kind) (hvalue : t.value = u.value)
    (hline : t.pos.line = u.pos.line) (hcolumn : t.pos.column = u.pos.column) : t = u := by
  obtain ⟨⟨_, _⟩, _, _⟩ := t
  obtain ⟨⟨_, _⟩, _, _⟩ := u
  simp only at hkind hvalue hline hcolumn
  rw [hkind, hvalue, hline, hcolumn]

theorem toList_display (t : Token) :
    t.display.toList ++ ['\n'] =
      (t.kind.name.toList ++ " ".toList) ++ ((Text.quoted t.value).toList ++
        (" at ".toList ++ (((toString t.pos.line).toList ++ ":".toList) ++
          ((toString t.pos.column).toList ++ ['\n'])))) := by
  have hpos : toString t.pos = toString t.pos.line ++ ":" ++ toString t.pos.column := rfl
  unfold display
  simp only [hpos, String.toList_append, List.append_assoc]

theorem legible_display : Legible (fun t : Token => t.display.toList ++ ['\n']) id := by
  have hkind := (legible_kind " ".toList rfl rfl).of fun t : Token => t.kind
  have hvalue := Text.legible_quoted.of fun t : Token => t.value
  have hline := (legible_number ":".toList rfl rfl).of fun t : Token => t.pos.line
  have hcolumn := (legible_number ['\n'] rfl rfl).of fun t : Token => t.pos.column
  have hall := hkind.append (hvalue.append
    ((Legible.literal " at ".toList).append (hline.append hcolumn)))
  rw [funext toList_display]
  refine hall.imp id fun t u h => ?_
  simp only [id_eq, Prod.mk.injEq, true_and] at h
  exact eq_of_parts h.1 h.2.1 h.2.2.1 h.2.2.2

theorem toList_debug (t : Token) :
    t.debug.toList =
      "Token \x7b value: ".toList ++ ((Text.quoted t.value).toList ++
        (", kind: ".toList ++ ((t.kind.name.toList ++ ", line: ".toList) ++
          (((toString t.pos.line).toList ++ ", column: ".toList) ++
            ((toString t.pos.column).toList ++ " \x7d".toList))))) := by
  unfold debug
  simp only [String.toList_append, List.append_assoc]

theorem legible_debug : Legible (fun t : Token => t.debug.toList) id := by
  have hvalue := Text.legible_quoted.of fun t : Token => t.value
  have hkind := (legible_kind ", line: ".toList rfl rfl).of fun t : Token => t.kind
  have hline := (legible_number ", column: ".toList rfl rfl).of
    fun t : Token => t.pos.line
  have hcolumn := (legible_number " \x7d".toList rfl rfl).of
    fun t : Token => t.pos.column
  have hall := (Legible.literal "Token \x7b value: ".toList).append (hvalue.append
    ((Legible.literal ", kind: ".toList).append (hkind.append (hline.append hcolumn))))
  rw [funext toList_debug]
  refine hall.imp id fun t u h => ?_
  simp only [id_eq, Prod.mk.injEq, true_and] at h
  exact eq_of_parts h.2.1 h.1 h.2.2.1 h.2.2.2

theorem newline_not_mem_debug (t : Token) : '\n' ∉ t.debug.toList := by
  have hvalue := Text.newline_not_mem_quoted t.value
  have hkind := not_mem_name (c := '\n') rfl t.kind
  have hline := not_mem_number (c := '\n') rfl t.pos.line
  have hcolumn := not_mem_number (c := '\n') rfl t.pos.column
  rw [toList_debug]
  simp only [List.mem_append, hvalue, hkind, hline, hcolumn, false_or]
  decide

/-- What stands on a line before the value of a member. -/
def lead (name : String) : List Char :=
  "    ".toList ++ ((Json.quoted name).toList ++ ": ".toList)

theorem toList_jsonLines (t : Token) :
    t.jsonLines.toList =
      ("  \x7b\n".toList ++ lead "value") ++ ((Json.quoted t.value).toList ++
        ((",\n".toList ++ lead "kind") ++ ((Json.quoted t.kind.name).toList ++
          ((",\n".toList ++ lead "line") ++ (((toString t.pos.line).toList ++
            (",\n".toList ++ lead "column")) ++
              ((toString t.pos.column).toList ++ "\n  \x7d".toList)))))) := by
  unfold jsonLines members lead
  rw [String.toList_append, String.toList_append, String.toList_intercalate]
  simp only [List.map_cons, List.map_nil, List.intercalate_cons_cons, List.intercalate_singleton,
    String.toList_append, List.append_assoc]

theorem legible_jsonLines : Legible (fun t : Token => t.jsonLines.toList) id := by
  have hvalue := Json.legible_quoted.of fun t : Token => t.value
  have hkind := Json.legible_quoted.of fun t : Token => t.kind.name
  have hline := (legible_number (",\n".toList ++ lead "column") rfl rfl).of
    fun t : Token => t.pos.line
  have hcolumn := (legible_number "\n  \x7d".toList rfl rfl).of
    fun t : Token => t.pos.column
  have hall := (Legible.literal ("  \x7b\n".toList ++ lead "value")).append (hvalue.append
    ((Legible.literal (",\n".toList ++ lead "kind")).append (hkind.append
      ((Legible.literal (",\n".toList ++ lead "line")).append (hline.append hcolumn)))))
  rw [funext toList_jsonLines]
  refine hall.imp id fun t u h => ?_
  simp only [id_eq, Prod.mk.injEq, true_and] at h
  exact eq_of_parts (Kind.name_injective h.2.1) h.1 h.2.2.1 h.2.2.2

end Token

theorem toList_listing_debug (ts : List Token) :
    (listing .debug ts).toList = ts.flatMap fun t => t.debug.toList ++ ['\n'] := by
  rw [listing, String.toList_join, List.flatMap_map]
  refine List.flatMap_congr fun t _ => ?_
  rw [String.toList_append]
  rfl

theorem toList_intercalate_jsonLines (t : Token) (ts : List Token) :
    (",\n".intercalate ((t :: ts).map Token.jsonLines)).toList =
      t.jsonLines.toList ++ ts.flatMap fun u => ",\n".toList ++ u.jsonLines.toList := by
  induction ts generalizing t with
  | nil => simp
  | cons u ts ih =>
    rw [List.map_cons, List.map_cons, String.intercalate_cons_cons, String.toList_append,
      String.toList_append, ← List.map_cons, ih, List.flatMap_cons, List.append_assoc,
      List.append_assoc]

theorem toList_listing_json (t : Token) (ts : List Token) :
    (listing .json (t :: ts)).toList =
      "[\n".toList ++ (t.jsonLines.toList ++
        ((ts.flatMap fun u => ",\n".toList ++ u.jsonLines.toList) ++ ['\n'] ++ "]\n".toList)) := by
  have hclose : "\n]\n".toList = ['\n'] ++ "]\n".toList := rfl
  unfold listing
  rw [String.toList_append, String.toList_append, toList_intercalate_jsonLines, hclose]
  simp only [List.append_assoc]

theorem listing_debug_injective {ts us : List Token}
    (h : listing .debug ts = listing .debug us) : ts = us := by
  have hline := (Token.legible_debug.append (Legible.literal ['\n'])).imp id
    fun _ _ h => congrArg Prod.fst h
  have hbegins : ∀ t : Token, ∃ d cs, t.debug.toList ++ ['\n'] = d :: cs ∧ d ≠ '\n' := by
    intro t
    rw [Token.toList_debug]
    exact ⟨'T', _, rfl, by decide⟩
  have hlists : ts.map id = us.map id := by
    refine (hline.list hbegins).view_eq ?_
    rw [← toList_listing_debug, ← toList_listing_debug, h]
  rwa [List.map_id, List.map_id] at hlists

theorem listing_json_nil_ne (t : Token) (ts : List Token) :
    listing .json [] ≠ listing .json (t :: ts) := by
  intro h
  have hclosed : (listing .json []).toList[1]? = some ']' := by decide
  rw [h, toList_listing_json] at hclosed
  cases hclosed

theorem listing_json_injective {ts us : List Token}
    (h : listing .json ts = listing .json us) : ts = us := by
  have helement := ((Legible.literal ",\n".toList).append Token.legible_jsonLines).imp id
    fun _ _ h => congrArg Prod.snd h
  have hbegins : ∀ t : Token, ∃ d cs, ",\n".toList ++ t.jsonLines.toList = d :: cs ∧ d ≠ '\n' :=
    fun t => ⟨',', _, rfl, by decide⟩
  cases ts with
  | nil =>
    cases us with
    | nil => rfl
    | cons u us => exact absurd h (listing_json_nil_ne u us)
  | cons t ts =>
    cases us with
    | nil => exact absurd h.symm (listing_json_nil_ne t ts)
    | cons u us =>
      have htext := congrArg String.toList h
      rw [toList_listing_json, toList_listing_json] at htext
      obtain ⟨hfirst, hrest⟩ := Token.legible_jsonLines (List.append_cancel_left htext)
      obtain ⟨hothers, -⟩ := helement.list hbegins hrest
      rw [List.map_id, List.map_id] at hothers
      exact congrArg₂ List.cons hfirst hothers

theorem count_newline_listing_debug (ts : List Token) :
    (listing .debug ts).toList.count '\n' = ts.length := by
  rw [toList_listing_debug]
  induction ts with
  | nil => rfl
  | cons t ts ih =>
    rw [List.flatMap_cons, List.count_append, ih, List.count_append,
      List.count_eq_zero_of_not_mem t.newline_not_mem_debug, List.count_singleton_self,
      List.length_cons, Nat.zero_add, Nat.add_comm]

/-- In either format a listing is that of one list of tokens alone, and so is the form in which the
log shows a token. With one token to a line, there are as many newlines as tokens. -/
theorem listing_unambiguous :
    (∀ format ts us, listing format ts = listing format us ↔ ts = us) ∧
      (∀ ts, (listing .debug ts).toList.count '\n' = ts.length) ∧
      ∀ t u : Token, t.display = u.display ↔ t = u := by
  refine ⟨fun format ts us => ⟨fun h => ?_, congrArg _⟩, count_newline_listing_debug,
    fun t u => ⟨fun h => ?_, congrArg _⟩⟩
  · cases format with
    | debug => exact listing_debug_injective h
    | json => exact listing_json_injective h
  · have hshown := congrArg (fun s : String => s.toList ++ ['\n']) h
    exact Token.legible_display.view_eq hshown

end ZyxtLexer
