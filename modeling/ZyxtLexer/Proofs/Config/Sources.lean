import ZyxtLexer.Config.Load
import ZyxtLexer.Proofs.Json.Sound

/-! Settings from a text and from a file that holds the text. The file is read as a stream. How much
of it has been taken when something is found makes no difference but to the place of a fault. -/
namespace ZyxtLexer

open Json

theorem OutputFormat.sound_read {bs : Bytes} (h : OfText bs) :
    Sound (fun p => OfText p.2) (OutputFormat.read bs) :=
  sound_readUnitVariant h ofName? "`debug` or `json`"

namespace Config
namespace Draft
variable {bs : Bytes}

theorem sound_readField (h : OfText bs) (d : Draft) (f : Field) :
    Sound (fun p => OfText p.2) (d.readField f bs) := by
  cases f with
  | output => exact (OutputFormat.sound_read h).bind fun _ hr => .ok hr
  | timings => exact (sound_readBool h).bind fun _ hr => .ok hr
  | logFilter => exact (sound_readString h).bind fun _ hr => .ok hr

theorem sound_refuseTwice {α : Type} {P : α → Prop} (f : Field) :
    Sound P (refuseTwice f bs) := by
  rw [refuseTwice]
  split
  · exact .refuse (by simp)
  · exact .ite (fun _ => .refuse (by simp)) fun _ => .refuse (by simp)

theorem sound_readMember (h : Encoded bs) (d : Draft) :
    Sound (fun p => OfText p.2) (d.readMember bs) := by
  refine (sound_readText h).bind_value fun key r hr => ?_
  simp only
  cases Field.ofName? key with
  | none =>
    refine (sound_readColon hr).bind fun r hr => ?_
    exact (sound_skip hr true []).bind fun r hr => .ok hr
  | some f =>
    refine .ite (fun _ => sound_refuseTwice f) fun _ => ?_
    exact (sound_readColon hr).bind fun r hr => sound_readField hr d f

theorem sound_readMembers (h : OfText bs) (d : Draft) (first : Bool) :
    Sound (fun p => OfText p.2) (d.readMembers first bs) := by
  fun_induction readMembers d first bs with
  | case1 d first bs fault hm => exact (sound_nextMember h first).of_error hm
  | case2 d first bs r hm => exact .ok ((sound_nextMember h first).of_ok hm).2
  | case3 d first bs r hm fault hd =>
    have hkey : Encoded r := ((sound_nextMember h first).of_ok hm).1 rfl
    exact (sound_readMember hkey d).of_error hd
  | case4 d first bs r hm e s hd ih =>
    have hkey : Encoded r := ((sound_nextMember h first).of_ok hm).1 rfl
    exact ih ((sound_readMember hkey d).of_ok hd)

theorem sound_readElements (h : OfText bs) (d : Draft) (first : Bool) (fs : List Field) :
    Sound (fun p => OfText p.2) (d.readElements first fs bs) := by
  induction fs generalizing d first bs with
  | nil => exact (sound_closeList h).bind fun _ hr => .ok hr
  | cons f fs ih =>
    refine (sound_nextElement h first).bind_value fun more r hr => ?_
    refine .ite (fun _ => ?_) fun _ => (sound_closeList hr).bind fun _ hr => .ok hr
    exact (sound_readField hr d f).bind_value fun e r hr => ih hr e false

end Draft

theorem sound_read {bs : Bytes} (h : OfText bs) : Sound (fun p => OfText p.2) (read bs) := by
  refine .blanks h (.refuse (by simp)) fun b r h => ?_
  refine .ite (fun _ => ?_) fun _ => .ite (fun _ => ?_) fun _ => sound_mistyped h _
  · exact (Draft.sound_readMembers h.next {} true).bind fun _ hr => .ok hr
  · exact (Draft.sound_readElements h.next {} true Field.all).bind fun _ hr => .ok hr

end Config

section Sources
variable {α : Type} {read : Bytes → Except Fault (α × Bytes)} [Streamed read]

/-- A file is refused for the cause for which its bytes are refused in memory, at the place where
the stream has got to. -/
theorem readFromFile_eq (bs : Bytes) :
    readFromFile read (some (.file bs)) = readFrom .stream read bs := by
  have hagree : Agree Eq (Stream.readWhole (Streamed.fetch read) bs) (readWhole read bs) :=
    Stream.agree_readWhole Streamed.agree bs
  rw [readFromFile, readFrom]
  generalize Stream.readWhole (Streamed.fetch read) bs = x at hagree
  generalize readWhole read bs = y at hagree
  cases hagree with
  | ok h => rw [h]
  | error f =>
    have hposition := f.position_inStream bs
    simp only [hposition]
    rfl

/-- A text and a file with its bytes lead to the same value, or to messages that say the same of
different places, and never that the bytes are those of no text. -/
structure ReadAlike (read : Bytes → Except Fault (α × Bytes)) [Streamed read] (text : String) :
    Prop where
  value : ∀ v, readFromText read text = .ok v ↔
    readFromFile read (some (.file (bytesOf text))) = .ok v
  refusal : ∀ e e', readFromText read text = .error e →
    readFromFile read (some (.file (bytesOf text))) = .error e' →
      ∃ (cause : Cause) (p q : Position), cause ≠ .invalidCodePoint ∧
        e.failure = .config ("Failed to parse config: " ++ cause.message ++
          " at line " ++ toString p.line ++ " column " ++ toString p.column) ∧
        e'.failure = .config ("Failed to parse config file: " ++ cause.message ++
          " at line " ++ toString q.line ++ " column " ++ toString q.column)

theorem readAlike (h : ∀ {bs}, OfText bs → Sound (fun p => OfText p.2) (read bs))
    (text : String) : ReadAlike read text := by
  have hsound : Sound (fun _ => True) (readWhole read (bytesOf text)) :=
    sound_readWhole (h (Encoded.ofText ⟨text.toList, rfl⟩))
  constructor
  · intro v
    rw [readFromFile_eq, readFromText, readFrom, readFrom]
    cases readWhole read (bytesOf text) <;> simp
  · intro e e' he he'
    rw [readFromFile_eq, readFrom] at he'
    rw [readFromText, readFrom] at he
    generalize readWhole read (bytesOf text) = x at hsound he he'
    cases hsound with
    | ok => cases he
    | @error f hf =>
      cases he
      cases he'
      exact ⟨f.cause, _, _, hf, rfl, rfl⟩

end Sources

/-- A text is read as a file with its bytes is, well-formed or not. -/
theorem readFromText_alike_readFromFile :
    (∀ text, ReadAlike Config.read text) ∧ ∀ text, ReadAlike OutputFormat.read text :=
  ⟨readAlike Config.sound_read, readAlike OutputFormat.sound_read⟩

end ZyxtLexer
