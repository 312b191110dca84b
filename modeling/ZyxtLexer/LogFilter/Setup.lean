import ZyxtLexer.LogFilter.Directive

/-! Setting up the log. The filter of the settings is read leniently: directives that count for
nothing are reported and passed over. The filter that the environment names takes its place, unless
one of its directives counts for nothing. In both the directives, which commas separate, are read
one after the other, and one that cannot be cut into its parts breaks the setup off. -/
namespace ZyxtLexer

structure LogSetup where
  notices : List String := []
  complete : Bool := true
deriving DecidableEq

namespace LogFilter
open Text

def ignored (d : List Char) (reason : Refusal) : String :=
  "ignoring `" ++ String.ofList d ++ "`: " ++ reason.message

/-- The number of bytes up to which a directive is shown. -/
def shownBytes : Nat := 256

def brokenOff (d : List Char) (offset : Nat) : String :=
  let shown := fitting shownBytes d
  "byte index " ++ toString offset ++ " is not a char boundary of `" ++ String.ofList shown ++
    if shown = d then "`" else "`[...]"

section
variable {ds : List (List Char)} {d : List Char} {filter : String} {envFilter : Option String}

def setUpFrom : List (List Char) → LogSetup
  | [] => {}
  | d :: ds =>
    match readDirective d with
    | .ok _ => setUpFrom ds
    | .error (.refused reason) =>
      let rest := setUpFrom ds
      { rest with notices := ignored d reason :: rest.notices }
    | .error (.uncuttable offset) => ⟨[brokenOff d offset], false⟩

theorem complete_setUpFrom :
    (setUpFrom ds).complete ↔ ∀ d ∈ ds, IsCuttable (readDirective d) := by
  induction ds with
  | nil => simp [setUpFrom]
  | cons d ds ih =>
    rw [List.forall_mem_cons, setUpFrom]
    cases hd : readDirective d with
    | ok => simpa [IsCuttable] using ih
    | error t =>
      cases t with
      | refused reason => simpa using ih
      | uncuttable offset => simp [IsCuttable]

/-- Nothing between two commas is no directive. -/
def directives (filter : String) : List (List Char) :=
  (filter.toList.splitOn ',').filter (· != [])

def setUp (filter : String) : LogSetup := setUpFrom (directives filter)

theorem complete_setUp :
    (setUp filter).complete ↔ ∀ d ∈ directives filter, IsCuttable (readDirective d) :=
  complete_setUpFrom

/-- Only a directive that begins with a blank can break the setup off. -/
theorem complete_setUp_of_flush (h : ∀ d ∈ directives filter, d.dropWhile isBlank = d) :
    (setUp filter).complete :=
  complete_setUp.2 fun d hd => isCuttable_readDirective (h d hd)

example : ¬ (setUp " é=").complete := by decide

def trouble? (d : List Char) : Option (List Char × Trouble) :=
  match readDirective d with
  | .ok _ => none
  | .error t => some (d, t)

theorem trouble?_eq_none : trouble? d = none ↔ readDirective d = .ok () := by
  rw [trouble?]
  cases readDirective d <;> simp

theorem trouble?_eq_some {e : List Char} {t : Trouble} :
    trouble? e = some (d, t) ↔ e = d ∧ readDirective d = .error t := by
  rw [trouble?]
  constructor
  · intro h
    cases he : readDirective e with
    | ok => simp [he] at h
    | error =>
      rw [he] at h
      cases h
      exact ⟨rfl, he⟩
  · rintro ⟨rfl, h⟩
    rw [h]

/-- The first directive with which there is trouble; those behind it are not read. -/
def firstTrouble? (ds : List (List Char)) : Option (List Char × Trouble) := ds.findSome? trouble?

theorem firstTrouble?_eq_none : firstTrouble? ds = none ↔ ∀ d ∈ ds, readDirective d = .ok () := by
  rw [firstTrouble?, List.findSome?_eq_none_iff]
  exact forall₂_congr fun d _ => trouble?_eq_none

theorem mem_of_firstTrouble? {t : Trouble} (h : firstTrouble? ds = some (d, t)) :
    d ∈ ds ∧ readDirective d = .error t := by
  obtain ⟨e, he, ht⟩ := List.exists_of_findSome?_eq_some h
  obtain ⟨rfl, hd⟩ := trouble?_eq_some.1 ht
  exact ⟨he, hd⟩

/-- Sets the log up, given the filter that the environment names, if it names one, and that of the
settings. -/
def setUpBy (envFilter : Option String) (filter : String) : LogSetup :=
  match envFilter with
  | none => setUp filter
  | some value =>
    match firstTrouble? (directives value) with
    | none => {}
    | some (_, .refused _) => setUp filter
    | some (d, .uncuttable offset) => ⟨[brokenOff d offset], false⟩

/-- A filter of the environment without mistakes leaves that of the settings unread. -/
theorem setUpBy_of_valid {value : String}
    (h : ∀ d ∈ directives value, readDirective d = .ok ()) : setUpBy (some value) filter = {} := by
  rw [setUpBy, firstTrouble?_eq_none.2 h]

theorem complete_setUpBy (hvalue : ∀ value ∈ envFilter, (setUp value).complete)
    (hfilter : (setUp filter).complete) : (setUpBy envFilter filter).complete := by
  cases envFilter with
  | none => exact hfilter
  | some value =>
    rw [setUpBy]
    split
    · rfl
    · exact hfilter
    next d offset h =>
      obtain ⟨hmem, hd⟩ := mem_of_firstTrouble? h
      exact absurd hd (complete_setUp.1 (hvalue value rfl) d hmem offset)

end

end LogFilter
end ZyxtLexer
