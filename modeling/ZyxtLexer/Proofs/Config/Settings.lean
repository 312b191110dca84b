import ZyxtLexer.Config.Basic
import ZyxtLexer.Proofs.Json.Typed

/-! The value of one setting: how it may be written, that every way to write it is read as that
setting, and that whatever is read as a setting ends where the value ends. -/
namespace ZyxtLexer

open Json

namespace Config

inductive Setting where
  | output (format : OutputFormat)
  | timings (b : Bool)
  | logFilter (s : String)

namespace Setting

def field : Setting → Field
  | output _ => .output
  | timings _ => .timings
  | logFilter _ => .logFilter

/-- What holds for a setting that is not given. -/
def absent : Field → Setting
  | .output => output .debug
  | .timings => timings false
  | .logFilter => logFilter "warn"

inductive Written : Setting → List Char → Prop
  | output {format : OutputFormat} {cs : List Char} (h : Spells cs format.name.toList) :
    Written (output format) ('"' :: (cs ++ ['"']))
  | on : Written (timings true) ['t', 'r', 'u', 'e']
  | off : Written (timings false) ['f', 'a', 'l', 's', 'e']
  | logFilter {s : String} {cs : List Char} (h : Spells cs s.toList) :
    Written (logFilter s) ('"' :: (cs ++ ['"']))

end Setting

def setting (c : Config) : Field → Setting
  | .output => .output c.output
  | .timings => .timings c.timings
  | .logFilter => .logFilter c.logFilter

namespace Field

theorem ofName?_eq_some {s : String} {f : Field} : ofName? s = some f ↔ s = f.name := by
  constructor
  · intro h
    have := List.find?_some h
    simpa using (of_decide_eq_true this).symm
  · rintro rfl
    exact ofName?_name f

theorem name_inj {f g : Field} (h : f.name = g.name) : f = g := by
  have hg := ofName?_name g
  rw [← h, ofName?_name, Option.some.injEq] at hg
  exact hg

theorem ofName?_eq_none {s : String} : ofName? s = none ↔ ∀ f : Field, s ≠ f.name := by
  rw [Option.eq_none_iff_forall_ne_some]
  simp only [ne_eq, ofName?_eq_some]

end Field

namespace Draft

def get (d : Draft) : Field → Option Setting
  | .output => d.output.map .output
  | .timings => d.timings.map .timings
  | .logFilter => d.logFilter.map .logFilter

def set (d : Draft) : Setting → Draft
  | .output format => { d with output := some format }
  | .timings b => { d with timings := some b }
  | .logFilter s => { d with logFilter := some s }

theorem has_eq (d : Draft) (f : Field) : d.has f = (d.get f).isSome := by
  cases f <;> simp [has, get]

@[simp] theorem get_set_self (d : Draft) (s : Setting) : (d.set s).get s.field = some s := by
  cases s <;> rfl

theorem get_set_of_ne (d : Draft) {s : Setting} {f : Field} (h : s.field ≠ f) :
    (d.set s).get f = d.get f := by
  cases s <;> cases f <;> first | rfl | exact absurd rfl h

theorem setting_config (d : Draft) (f : Field) :
    d.config.setting f = (d.get f).getD (.absent f) := by
  cases f <;> exact (Option.getD_map _ _ _).symm

theorem readField_written (d : Draft) {s : Setting} {cs b : List Char} (h : s.Written cs)
    (hb : Blanks b) (r : Bytes) :
    d.readField s.field (encode b ++ (encode cs ++ r)) = .ok (d.set s, r) := by
  cases h with
  | @output format _ h =>
    have hv : OutputFormat.ofName? (String.ofList format.name.toList) = some format := by
      rw [String.ofList_toList, OutputFormat.ofName?_name]
    rw [Setting.field, readField, OutputFormat.read, readUnitVariant_encode hb h hv]
    rfl
  | on => rw [Setting.field, readField, readBool_true hb]; rfl
  | off => rw [Setting.field, readField, readBool_false hb]; rfl
  | logFilter h => rw [Setting.field, readField, readString_encode hb h, String.ofList_toList]; rfl

/-- What is read as a setting is that setting's value, and it ends where the value ends. -/
theorem eq_set_of_readField {d e : Draft} {f : Field} {bs r : Bytes}
    (h : d.readField f bs = .ok (e, r)) :
    skipValue bs = .ok r ∧ ∃ s : Setting, s.field = f ∧ e = d.set s := by
  have hd : skip false [] r = .ok r := by rw [skip]
  cases f with
  | output =>
    obtain ⟨⟨v, s⟩, hs, h⟩ := bind_eq_ok.1 h
    cases h
    exact ⟨(skip_of_readUnitVariant hs).trans hd, .output v, rfl, rfl⟩
  | timings =>
    obtain ⟨⟨v, s⟩, hs, h⟩ := bind_eq_ok.1 h
    cases h
    exact ⟨(skip_of_readBool hs).trans hd, .timings v, rfl, rfl⟩
  | logFilter =>
    obtain ⟨⟨v, s⟩, hs, h⟩ := bind_eq_ok.1 h
    cases h
    exact ⟨(skip_of_readString hs).trans hd, .logFilter v, rfl, rfl⟩

end Draft
end Config
end ZyxtLexer
