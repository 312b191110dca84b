import ZyxtLexer.Proofs.Config.ByName
import ZyxtLexer.Proofs.Json.Quoted

/-! Settings as they are written are an object that gives each of them once, and reading it gives
back the settings, whatever characters the log filter has. -/
namespace ZyxtLexer

open Json

namespace Config

def Field.member (c : Config) (f : Field) : Member := ⟨f.name, (f.written c).toList⟩

def members (c : Config) : List Member := Field.all.map (Field.member c)

theorem Field.mem_all (f : Field) : f ∈ all := by cases f <;> decide

theorem field_setting (c : Config) (f : Field) : (c.setting f).field = f := by cases f <;> rfl

theorem written_setting (c : Config) (f : Field) : (c.setting f).Written (f.written c).toList := by
  cases f with
  | output =>
    rw [Field.written, toList_quoted]
    exact .output (spells_quoted _)
  | timings =>
    rw [Field.written, setting]
    cases c.timings with
    | true => exact .on
    | false => exact .off
  | logFilter =>
    rw [Field.written, toList_quoted]
    exact .logFilter (spells_quoted _)

theorem Setting.Written.value {s : Setting} {cs : List Char} (h : s.Written cs) : Value cs := by
  cases h with
  | output h | logFilter h => exact .string h.body
  | on => exact .true
  | off => exact .false

theorem givenBy_member (c : Config) (f : Field) : (c.setting f).GivenBy (f.member c) :=
  ⟨congrArg Field.name (field_setting c f).symm, written_setting c f⟩

theorem proper_members (c : Config) : Proper c.members where
  once f := by
    have hcount : f.occurrences c.members = Field.all.countP fun g => g.name = f.name := by
      rw [Field.occurrences, members, List.countP_map]
      rfl
    rw [hcount]
    cases f <;> decide
  typed m hm f hf := by
    obtain ⟨g, -, rfl⟩ := List.mem_map.1 hm
    obtain rfl : g = f := Field.name_inj hf
    exact ⟨c.setting g, field_setting c g, givenBy_member c g⟩

theorem objectText_json (c : Config) : ObjectText c.members c.json.toList := by
  have hvalues : ∀ m ∈ c.members, Value m.value := by
    intro m hm
    obtain ⟨f, -, rfl⟩ := List.mem_map.1 hm
    exact (written_setting c f).value
  have hmembers : (Field.all.map fun f => quoted f.name ++ ":" ++ f.written c).map String.toList =
      c.members.map Member.written := by
    rw [members, List.map_map, List.map_map]
    refine List.map_congr_left fun f _ => ?_
    simp [Member.written, Field.member]
  have htext : c.json.toList =
      [] ++ '{' :: ([','].intercalate (c.members.map Member.written) ++ '}' :: []) := by
    rw [json, String.toList_append, String.toList_append, String.toList_intercalate, hmembers]
    simp
  rw [htext]
  exact .full blanks_nil (members_written hvalues) blanks_nil

/-- Settings that reflect what is written for some settings are those. -/
theorem Reflects.eq_of_members {c c' : Config} (h : c'.Reflects c.members) : c' = c := by
  refine ext_setting fun f => ?_
  have hmem : f.member c ∈ c.members := List.mem_map_of_mem f.mem_all
  have hgiven := h.given (f.member c) hmem (c.setting f) (givenBy_member c f)
  rwa [field_setting] at hgiven

theorem readWhole_json (c : Config) : readWhole Config.read (bytesOf c.json) = .ok c := by
  obtain ⟨c', hread, hreflects⟩ := exists_readFromText (objectText_json c) (proper_members c)
  rw [hreflects.eq_of_members, readFromText, readFrom] at hread
  cases hwhole : readWhole Config.read (bytesOf c.json) with
  | ok d =>
    rw [hwhole] at hread
    cases hread
    rfl
  | error fault =>
    rw [hwhole] at hread
    cases hread

/-- Settings that are written are read back. -/
theorem readFromText_json (c : Config) : readFromText Config.read c.json = .ok c := by
  rw [readFromText, readFrom, readWhole_json]

end Config
end ZyxtLexer
