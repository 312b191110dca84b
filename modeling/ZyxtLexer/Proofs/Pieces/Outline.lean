import ZyxtLexer.Proofs.Pieces.RoundTrip

/-! The outline of a text: flags with their labels, then perhaps one more label, then words, with
comments anywhere between them. The lists of lexemes with such an outline are exactly those that
texts have. -/
namespace ZyxtLexer

/-- The pieces `ps` are well formed, only the last one may be an unclosed comment, and without the
comments they are the flags, the label and the words. -/
structure Outline (ps : List Piece) (flags : List (Option String)) (label : Option String)
    (words : List String) : Prop where
  wellFormed : ∀ p ∈ ps, p.WellFormed
  unclosed_last : .unclosed ∉ ps.dropLast
  order : ps.filter (fun p => !p.isComment) =
    flags.map .flag ++ (label.toList.map .label ++ words.map .word)
  /-- The first flag has no label in front of it. -/
  first_flag : ∀ f ∈ flags.head?, f = none
  /-- A label without a closing colon follows an odd number of flags. -/
  odd_of_label : label ≠ none → flags.length % 2 = 1
  words_of_odd : flags.length % 2 = 1 → label = none → words = []
  /-- A colon in the first word would be a flag, unless the label comes before it. -/
  first_word : label = none → ∀ w ∈ words.head?, ':' ∉ w.toList

def Outlined (xs : List Lexeme) : Prop :=
  ∃ ps flags label words, xs = ps.flatMap Piece.lexemes ∧ Outline ps flags label words

def Chained (r : Resume) : List Piece → Prop
  | [] => True
  | p :: ps => p.Follows r ∧ Chained (p.after r) ps

variable {r : Resume}

theorem chained_filter (ps : List Piece) :
    Chained r (ps.filter fun p => !p.isComment) ↔ Chained r ps := by
  induction ps generalizing r with
  | nil => rfl
  | cons p ps ih =>
    cases p with
    | line | block | unclosed =>
      rw [List.filter_cons_of_neg (by simp [Piece.isComment]), ih]
      exact (and_iff_right trivial).symm
    | flag | label | word =>
      rw [List.filter_cons_of_pos (by simp [Piece.isComment])]
      exact and_congr_right fun _ => ih

theorem fit_iff (ps : List Piece) :
    Fit r ps ↔ (∀ p ∈ ps, p.WellFormed) ∧ .unclosed ∉ ps.dropLast ∧ Chained r ps := by
  induction ps generalizing r with
  | nil => simp [Fit, Chained]
  | cons p ps ih =>
    have hlast : .unclosed ∉ (p :: ps).dropLast ↔
        (p = .unclosed → ps = []) ∧ .unclosed ∉ ps.dropLast := by
      cases ps with
      | nil => simp
      | cons q qs =>
        simp only [List.dropLast_cons_cons, List.mem_cons, not_or, reduceCtorEq, imp_false]
        rw [eq_comm]
    rw [Fit, ih, hlast, List.forall_mem_cons, Chained]
    constructor
    · rintro ⟨⟨hp, hf⟩, hu, hps, hd, hc⟩
      exact ⟨⟨hp, hps⟩, ⟨hu, hd⟩, hf, hc⟩
    · rintro ⟨⟨hp, hps⟩, ⟨hu, hd⟩, hf, hc⟩
      exact ⟨⟨hp, hf⟩, hu, hps, hd, hc⟩

theorem not_takesFlags_after_word (r : Resume) (w : String) :
    ¬ ((Piece.word w).after r).takesFlags := by
  simp [Piece.after, Resume.takesFlags, wordKind_ne_flag, wordKind_ne_statementEnd]

/-- Where colons are no flags, words can follow one another as they like. -/
theorem chained_words (hr : ¬ r.takesFlags) (hi : ¬ r.inFlag) (words : List String) :
    Chained r (words.map .word) := by
  induction words generalizing r with
  | nil => trivial
  | cons w words ih =>
    exact ⟨⟨hi, fun h => absurd h hr⟩, ih (not_takesFlags_after_word r w) Bool.false_ne_true⟩

theorem exists_words (hr : ¬ r.takesFlags) (hi : ¬ r.inFlag) {ps : List Piece}
    (hps : ∀ p ∈ ps, ¬ p.isComment) (h : Chained r ps) :
    ∃ words : List String, ps = words.map .word := by
  induction ps generalizing r with
  | nil => exact ⟨[], rfl⟩
  | cons p ps ih =>
    cases p with
    | line | block | unclosed => exact absurd rfl (hps _ List.mem_cons_self)
    | flag => exact absurd h.1.1 hr
    | label => exact absurd h.1 hi
    | word w =>
      obtain ⟨words, rfl⟩ := ih (not_takesFlags_after_word r w) Bool.false_ne_true
        (fun q hq => hps q (List.mem_cons_of_mem _ hq)) h.2
      exact ⟨w :: words, rfl⟩

theorem exists_parts (hr : r.takesFlags) {ps : List Piece} (hps : ∀ p ∈ ps, ¬ p.isComment)
    (h : Chained r ps) :
    ∃ (flags : List (Option String)) (label : Option String) (words : List String),
      ps = flags.map .flag ++ (label.toList.map .label ++ words.map .word) := by
  induction ps generalizing r with
  | nil => exact ⟨[], none, [], rfl⟩
  | cons p ps ih =>
    have hps' : ∀ q ∈ ps, ¬ q.isComment := fun q hq => hps q (List.mem_cons_of_mem _ hq)
    cases p with
    | line | block | unclosed => exact absurd rfl (hps _ List.mem_cons_self)
    | flag label? =>
      obtain ⟨flags, label, words, rfl⟩ := ih (by rfl) hps' h.2
      exact ⟨label? :: flags, label, words, rfl⟩
    | label name =>
      obtain ⟨words, rfl⟩ := exists_words (r := ⟨.flagLabel, false⟩) Bool.false_ne_true
        Bool.false_ne_true hps' h.2
      exact ⟨[], some name, words, rfl⟩
    | word w =>
      obtain ⟨words, rfl⟩ :=
        exists_words (not_takesFlags_after_word r w) Bool.false_ne_true hps' h.2
      exact ⟨[], none, w :: words, rfl⟩

theorem chained_flags (inFlag : Bool) (flags : List (Option String)) (ps : List Piece) :
    Chained ⟨.flag, inFlag⟩ (flags.map .flag ++ ps) ↔
      Chained ⟨.flag, inFlag ^^ decide (flags.length % 2 = 1)⟩ ps := by
  induction flags generalizing inFlag with
  | nil => simp
  | cons f flags ih =>
    have hf : (Piece.flag f).Follows ⟨.flag, inFlag⟩ := ⟨rfl, fun _ => rfl⟩
    have hparity : (!inFlag ^^ decide (flags.length % 2 = 1)) =
        (inFlag ^^ decide ((flags.length + 1) % 2 = 1)) := by
      rcases Nat.mod_two_eq_zero_or_one flags.length with h | h
      · have : (flags.length + 1) % 2 = 1 := by omega
        simp [h, this]
      · have : (flags.length + 1) % 2 = 0 := by omega
        simp [h, this]
    rw [List.map_cons, List.cons_append, Chained, and_iff_right hf, List.length_cons, ← hparity]
    exact ih (!inFlag)

theorem chained_tail (hr : r.takesFlags) (label : Option String) (words : List String) :
    Chained r (label.toList.map .label ++ words.map .word) ↔
      (label ≠ none → r.inFlag) ∧ (r.inFlag → label = none → words = []) ∧
        (label = none → ∀ w ∈ words.head?, ':' ∉ w.toList) := by
  cases label with
  | some name =>
    have hwords := chained_words (r := ⟨.flagLabel, false⟩) Bool.false_ne_true
      Bool.false_ne_true words
    simpa [Chained, Piece.Follows, Piece.after] using fun _ => hwords
  | none =>
    cases words with
    | nil => simp [Chained]
    | cons w words =>
      have hwords := chained_words (not_takesFlags_after_word r w) Bool.false_ne_true words
      simp [Chained, Piece.Follows, hr, hwords]

/-- The order of a whole text, by the number of its flags. -/
theorem chained_initial (flags : List (Option String)) (label : Option String)
    (words : List String) :
    Chained .initial (flags.map .flag ++ (label.toList.map .label ++ words.map .word)) ↔
      (∀ f ∈ flags.head?, f = none) ∧ (label ≠ none → flags.length % 2 = 1) ∧
        (flags.length % 2 = 1 → label = none → words = []) ∧
          (label = none → ∀ w ∈ words.head?, ':' ∉ w.toList) := by
  cases flags with
  | nil =>
    rw [List.map_nil, List.nil_append, chained_tail (by decide)]
    simp [Resume.initial]
  | cons f flags =>
    have hf : (Piece.flag f).Follows .initial ↔ f = none := by
      simp [Piece.Follows, Resume.takesFlags, Resume.initial]
    have hparity : (true ^^ decide (flags.length % 2 = 1)) = true ↔
        (f :: flags).length % 2 = 1 := by
      rw [List.length_cons]
      rcases Nat.mod_two_eq_zero_or_one flags.length with h | h
      · simp [h, Nat.add_mod]
      · simp [h, Nat.add_mod]
    have htail := chained_flags true flags (label.toList.map .label ++ words.map .word)
    rw [chained_tail rfl, hparity] at htail
    rw [List.map_cons, List.cons_append, Chained, hf]
    exact and_congr (by simp) htail

/-- Pieces fit at the beginning of a text just when they have an outline. -/
theorem fit_initial_iff (ps : List Piece) :
    Fit .initial ps ↔ ∃ flags label words, Outline ps flags label words := by
  rw [fit_iff, ← chained_filter]
  constructor
  · rintro ⟨hwell, hlast, hchain⟩
    have hps : ∀ p ∈ ps.filter (fun p => !p.isComment), ¬ p.isComment := by simp
    obtain ⟨flags, label, words, horder⟩ := exists_parts (by decide) hps hchain
    rw [horder, chained_initial] at hchain
    obtain ⟨hfirst, hodd, hwords, hcolon⟩ := hchain
    exact ⟨flags, label, words, hwell, hlast, horder, hfirst, hodd, hwords, hcolon⟩
  · rintro ⟨flags, label, words, h⟩
    refine ⟨h.wellFormed, h.unclosed_last, ?_⟩
    rw [h.order, chained_initial]
    exact ⟨h.first_flag, h.odd_of_label, h.words_of_odd, h.first_word⟩

/-- A list of lexemes is that of a text just when it has an outline. -/
theorem exists_lexemes_eq_iff (xs : List Lexeme) :
    (∃ source, lexemes source = xs) ↔ Outlined xs := by
  constructor
  · rintro ⟨source, rfl⟩
    obtain ⟨flags, label, words, h⟩ :=
      (fit_initial_iff _).1 (fit_pieces Resume.coherent_initial source.toList)
    refine ⟨_, flags, label, words, ?_, h⟩
    exact Scanner.lexemes_ready Resume.coherent_initial .origin source.toList
  · rintro ⟨ps, flags, label, words, rfl, h⟩
    exact ⟨_, lexemes_render_pieces ((fit_initial_iff ps).2 ⟨flags, label, words, h⟩)⟩

end ZyxtLexer
