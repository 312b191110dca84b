import ZyxtLexer.Command.Run
import ZyxtLexer.Proofs.Config.RoundTrip
import ZyxtLexer.Proofs.Config.Sources

/-! How commands end. Settings that cannot be read stop every command, and after them a log filter
that cannot be cut into its parts does, be it that of the environment or that of the settings. Only
then does the command itself decide. Nothing is written before all that can fail has been done. -/
namespace ZyxtLexer

open Json

/-- The settings at a path: the defaults if it leads nowhere. -/
inductive Configured (files : String → Option Entry) (path : String) : Config → Prop
  | absent (h : files path = none) : Configured files path {}
  | read {entry : Entry} {c : Config} (h : files path = some entry)
    (hc : readFromFile Config.read (some entry) = .ok c) : Configured files path c

/-- Whether the log can be set up under the settings `c` of the file. Whoever wants to know more
gets a filter of which this is sure, whatever the environment names. -/
def Invocation.Logs (i : Invocation) (envFilter : Option String) (c : Config) : Prop :=
  i.verbose ∨ (LogFilter.setUpBy envFilter c.logFilter).complete

/-- There is a log unless a directive begins with a blank. -/
theorem Invocation.logs_of_flush {i : Invocation} {envFilter : Option String} {c : Config}
    (henv : ∀ value ∈ envFilter, ∀ d ∈ LogFilter.directives value, d.dropWhile Text.isBlank = d)
    (hc : ∀ d ∈ LogFilter.directives c.logFilter, d.dropWhile Text.isBlank = d) :
    i.Logs envFilter c :=
  .inr (LogFilter.complete_setUpBy
    (fun value h => LogFilter.complete_setUp_of_flush (henv value h))
    (LogFilter.complete_setUp_of_flush hc))

namespace Outcome

structure Succeeds (o : Outcome) (output : String) : Prop where
  status : o.status = 0
  output : o.output = output

/-- What has failed is reported last of all, and nothing is written. -/
structure Fails (o : Outcome) (code : String) (f : Failure) : Prop where
  code : f.code = code
  status : o.status = 1
  output : o.output = ""
  reported : o.messages.getLast? = some f.report

end Outcome

namespace Invocation

/-- How a command ends under the settings `c` of its file, once there is a log. -/
inductive Ends (i : Invocation) (files : String → Option Entry) (elapsed : String) (c : Config)
    (o : Outcome) : Prop
  | announced (hverb : i.verb = .compile ∨ i.verb = .interpret) (ho : o.Succeeds "Coming soon!\n")
  | version (hverb : i.verb = .version) (ho : o.Succeeds "Zyxt version 0.1.0\n")
  | noFile (hverb : i.verb = .run) (hfile : i.file = none) (ho : o.Fails "0.1" .noFile)
  | missing {path : String} (hverb : i.verb = .run) (hfile : i.file = some path)
    (hentry : files path = none) (ho : o.Fails "1.0" (.fileNotFound path))
  | directory {path : String} (hverb : i.verb = .run) (hfile : i.file = some path)
    (hentry : files path = some .directory)
    (ho : o.Fails "1.1" (.unreadable path "Is a directory (os error 21)"))
  | unreadable {path reason : String} {opened : Bool} (hverb : i.verb = .run)
    (hfile : i.file = some path) (hentry : files path = some (.unreadable opened reason))
    (ho : o.Fails "1.1" (.unreadable path reason))
  | undecodable {path : String} {bs : Bytes} (hverb : i.verb = .run) (hfile : i.file = some path)
    (hentry : files path = some (.file bs)) (hbytes : ∀ source, bs ≠ bytesOf source)
    (ho : o.Fails "1.1" (.unreadable path "stream did not contain valid UTF-8"))
  | listed {path source : String} (hverb : i.verb = .run) (hfile : i.file = some path)
    (hentry : files path = some (.file (bytesOf source)))
    (ho : o.Succeeds (listing (i.format.getD c.output) (tokenize source) ++
      if c.timings ∨ i.timings then "Lexing time: " ++ elapsed ++ "µs\n" else ""))

inductive Concludes (i : Invocation) (files : String → Option Entry) (elapsed : String)
    (envFilter : Option String) (o : Outcome) : Prop
  | misconfigured {entry : Entry} {e : LoadError} (hentry : files i.config = some entry)
    (he : readFromFile Config.read (some entry) = .error e) (ho : o.Fails "1.2" e.failure)
  | brokenOff {c : Config} (hc : Configured files i.config c) (hlog : ¬ i.Logs envFilter c)
    (hstatus : o.status = 101) (houtput : o.output = "")
  | ended {c : Config} (hc : Configured files i.config c) (hlog : i.Logs envFilter c)
    (ho : i.Ends files elapsed c o)

section Answers
variable {i : Invocation} {files : String → Option Entry} {path : String}

theorem readSource_missing (h : files path = none) :
    readSource files path = .error (.fileNotFound path) := by rw [readSource, h]

theorem readSource_directory (h : files path = some .directory) :
    readSource files path = .error (.unreadable path "Is a directory (os error 21)") := by
  rw [readSource, h]

theorem readSource_unreadable {opened : Bool} {reason : String}
    (h : files path = some (.unreadable opened reason)) :
    readSource files path = .error (.unreadable path reason) := by
  rw [readSource, h]

theorem readSource_text {source : String} (h : files path = some (.file (bytesOf source))) :
    readSource files path = .ok source := by
  rw [readSource, h]
  simp only [fromUTF8?_eq_some_iff.2 rfl]

theorem readSource_undecodable {bs : Bytes} (h : files path = some (.file bs))
    (hbytes : ∀ source, bs ≠ bytesOf source) :
    readSource files path = .error (.unreadable path "stream did not contain valid UTF-8") := by
  have hnone : String.fromUTF8? bs.toByteArray = none :=
    Option.eq_none_iff_forall_ne_some.2 fun source hs => hbytes source (fromUTF8?_eq_some_iff.1 hs)
  rw [readSource, h]
  simp only [hnone]

theorem answer_announced (hverb : i.verb = .compile ∨ i.verb = .interpret) (c : Config)
    (files : String → Option Entry) : i.answer c files = .ok (.note "Coming soon!") := by
  rcases hverb with h | h <;> rw [answer, h] <;> rfl

theorem answer_version (hverb : i.verb = .version) (c : Config) (files : String → Option Entry) :
    i.answer c files = .ok (.note "Zyxt version 0.1.0") := by
  rw [answer, hverb]
  rfl

theorem answer_noFile (hverb : i.verb = .run) (hfile : i.file = none) (c : Config)
    (files : String → Option Entry) : i.answer c files = .error .noFile := by
  rw [answer, hverb, hfile]
  rfl

theorem answer_file (hverb : i.verb = .run) (hfile : i.file = some path) (c : Config)
    (files : String → Option Entry) :
    i.answer c files = (readSource files path).map fun source =>
      .tokens c.output c.timings (tokenize source) := by
  rw [answer, hverb, hfile]
  rfl

end Answers

section Conclusions
variable {i : Invocation} {c : Config} {files : String → Option Entry} {elapsed : String}
  {envFilter : Option String} {notices : List String} {x : Except Failure Answer}

theorem settings_of_configured (h : Configured files i.config c) :
    i.settings files = .ok (i.overlay c) := by
  have hload : Config.load (files i.config) = .ok c := by
    cases h with
    | absent h => rw [h]; rfl
    | read h hc => rw [h]; exact hc
  rw [settings, hload]

theorem settings_of_refused {entry : Entry} {e : LoadError} (hentry : files i.config = some entry)
    (he : readFromFile Config.read (some entry) = .error e) :
    i.settings files = .error e.failure := by
  have hload : Config.load (files i.config) = .error e := by rw [hentry]; exact he
  rw [settings, hload]

theorem complete_logSetup : (i.logSetup envFilter (i.overlay c)).complete ↔ i.Logs envFilter c := by
  cases hv : i.verbose with
  | true =>
    -- What is left is that the filter `debug` can be cut.
    simp only [logSetup, overlay, hv, Logs, if_true, true_or, iff_true]
    decide
  | false => simp [logSetup, overlay, hv, Logs]

theorem succeeds_ofResult {a : Answer} (h : x = .ok a) :
    (Outcome.ofResult elapsed notices (x.mapError .failed)).Succeeds (a.text elapsed) := by
  rw [h]
  exact ⟨rfl, rfl⟩

theorem fails_ofResult {f : Failure} (h : x = .error f) :
    (Outcome.ofResult elapsed notices (x.mapError .failed)).Fails f.code f := by
  rw [h]
  exact ⟨rfl, rfl, rfl, List.getLast?_concat⟩

/-- Once there is a log, the verb and the file decide. -/
theorem ends_answer (i : Invocation) (c : Config) (files : String → Option Entry)
    (elapsed : String) (notices : List String) :
    i.Ends files elapsed c
      (Outcome.ofResult elapsed notices ((i.answer (i.overlay c) files).mapError .failed)) := by
  cases hverb : i.verb with
  | compile => exact .announced (.inl hverb) (succeeds_ofResult (answer_announced (.inl hverb) _ _))
  | interpret =>
    exact .announced (.inr hverb) (succeeds_ofResult (answer_announced (.inr hverb) _ _))
  | version => exact .version hverb (succeeds_ofResult (answer_version hverb _ _))
  | run =>
    cases hfile : i.file with
    | none => exact .noFile hverb hfile (fails_ofResult (answer_noFile hverb hfile _ _))
    | some path =>
      have hanswer := answer_file hverb hfile (i.overlay c) files
      cases hentry : files path with
      | none =>
        rw [readSource_missing hentry] at hanswer
        exact .missing hverb hfile hentry (fails_ofResult hanswer)
      | some entry =>
        cases entry with
        | directory =>
          rw [readSource_directory hentry] at hanswer
          exact .directory hverb hfile hentry (fails_ofResult hanswer)
        | unreadable opened reason =>
          rw [readSource_unreadable hentry] at hanswer
          exact .unreadable hverb hfile hentry (fails_ofResult hanswer)
        | file bs =>
          by_cases hbytes : ∃ source, bs = bytesOf source
          · obtain ⟨source, rfl⟩ := hbytes
            rw [readSource_text hentry] at hanswer
            have htimed : (i.overlay c).timings ↔ c.timings ∨ i.timings := Bool.or_eq_true_iff
            refine .listed hverb hfile hentry ?_
            simp only [← htimed]
            exact succeeds_ofResult hanswer
          · have hnone : ∀ source, bs ≠ bytesOf source := fun source h => hbytes ⟨source, h⟩
            rw [readSource_undecodable hentry hnone] at hanswer
            exact .undecodable hverb hfile hentry hnone (fails_ofResult hanswer)

theorem execute_refused {entry : Entry} {e : LoadError} (hentry : files i.config = some entry)
    (he : readFromFile Config.read (some entry) = .error e) (envFilter : Option String) :
    i.execute files envFilter = .error (.failed e.failure) := by
  rw [execute, settings_of_refused hentry he]
  rfl

theorem execute_configured (hc : Configured files i.config c) (envFilter : Option String) :
    i.execute files envFilter = if (i.logSetup envFilter (i.overlay c)).complete then
      (i.answer (i.overlay c) files).mapError .failed else .error .brokenOff := by
  rw [execute, settings_of_configured hc]
  rfl

theorem execute_logs (hc : Configured files i.config c) (hlog : i.Logs envFilter c) :
    i.execute files envFilter = (i.answer (i.overlay c) files).mapError .failed := by
  rw [execute_configured hc, if_pos (complete_logSetup.2 hlog)]

theorem execute_brokenOff (hc : Configured files i.config c) (hlog : ¬ i.Logs envFilter c) :
    i.execute files envFilter = .error .brokenOff := by
  rw [execute_configured hc, if_neg (mt complete_logSetup.1 hlog)]

theorem concludes_execute (i : Invocation) (files : String → Option Entry) (elapsed : String)
    (envFilter : Option String) (notices : List String) :
    i.Concludes files elapsed envFilter
      (Outcome.ofResult elapsed notices (i.execute files envFilter)) := by
  have hconfigured : ∀ c, Configured files i.config c →
      i.Concludes files elapsed envFilter
        (Outcome.ofResult elapsed notices (i.execute files envFilter)) := by
    intro c hc
    by_cases hlog : i.Logs envFilter c
    · rw [execute_logs hc hlog]
      exact .ended hc hlog (ends_answer i c files elapsed notices)
    · rw [execute_brokenOff hc hlog]
      exact .brokenOff hc hlog rfl rfl
  cases hentry : files i.config with
  | none => exact hconfigured {} (.absent hentry)
  | some entry =>
    cases he : readFromFile Config.read (some entry) with
    | ok c => exact hconfigured c (.read hentry he)
    | error e =>
      rw [execute_refused hentry he]
      exact .misconfigured hentry he ⟨rfl, rfl, rfl, List.getLast?_concat⟩

/-- The log filter has no part in an answer, and neither has the wish to know more. -/
theorem answer_congr {files' : String → Option Entry}
    (hfiles : ∀ path ∈ i.file, files' path = files path) (verbose : Bool) (logFilter : String) :
    ({ i with verbose } : Invocation).answer
        (({ i with verbose } : Invocation).overlay { c with logFilter }) files' =
      i.answer (i.overlay c) files := by
  obtain ⟨verb, file, config, _, format, timings⟩ := i
  cases file with
  | none => cases verb <;> rfl
  | some path =>
    have hsource : readSource files' path = readSource files path := by
      rw [readSource, readSource, hfiles path rfl]
    cases verb with
    | run =>
      rw [answer_file rfl rfl, answer_file rfl rfl, hsource]
      rfl
    | compile | interpret | version => rfl

end Conclusions
end Invocation

theorem Outcome.ofArguments_invoke {arguments : List String} {i : Invocation}
    (h : Request.ofArguments? arguments = some (.invoke i)) (files : String → Option Entry)
    (elapsed : String) (envFilter : Option String) :
    ofArguments arguments files elapsed envFilter =
      ofResult elapsed (i.notices files envFilter) (i.execute files envFilter) := by
  rw [ofArguments, h]
  rfl

theorem Outcome.ofResult_congr (elapsed : String) (notices notices' : List String)
    (x : Except Stop Answer) :
    (ofResult elapsed notices x).status = (ofResult elapsed notices' x).status ∧
      (ofResult elapsed notices x).output = (ofResult elapsed notices' x).output := by
  cases x with
  | ok => exact ⟨rfl, rfl⟩
  | error stop => cases stop <;> exact ⟨rfl, rfl⟩

/-- Whatever the arguments ask for, what does not succeed leaves nothing written. -/
theorem Outcome.output_of_status_ne_zero {arguments : List String}
    {files : String → Option Entry} {elapsed : String} {envFilter : Option String}
    (h : (ofArguments arguments files elapsed envFilter).status ≠ 0) :
    (ofArguments arguments files elapsed envFilter).output = "" := by
  rw [ofArguments] at h ⊢
  cases hr : Request.ofArguments? arguments with
  | none => rfl
  | some r =>
    simp only [hr] at h ⊢
    cases hx : r.perform files envFilter with
    | ok answer =>
      rw [hx] at h
      exact absurd rfl h
    | error stop => cases stop <;> rfl

open Invocation

/-- Every command ends in one of the ways of the table. And as long as the log can be set up,
neither its filter, in the settings or in the environment, nor the wish to know more changes the
status or what is written. -/
theorem ofArguments_concludes {arguments : List String} {i : Invocation}
    (h : Request.ofArguments? arguments = some (.invoke i)) (files : String → Option Entry)
    (elapsed : String) (envFilter : Option String) :
    i.Concludes files elapsed envFilter (Outcome.ofArguments arguments files elapsed envFilter) ∧
    ∀ {arguments' : List String} {verbose : Bool} {files' : String → Option Entry} {c : Config}
      {logFilter : String} {envFilter' : Option String},
      Request.ofArguments? arguments' = some (.invoke { i with verbose }) →
      (∀ path ∈ i.file, files' path = files path) →
      Configured files i.config c → Configured files' i.config { c with logFilter } →
      i.Logs envFilter c →
      ({ i with verbose } : Invocation).Logs envFilter' { c with logFilter } →
      (Outcome.ofArguments arguments' files' elapsed envFilter').status =
          (Outcome.ofArguments arguments files elapsed envFilter).status ∧
        (Outcome.ofArguments arguments' files' elapsed envFilter').output =
          (Outcome.ofArguments arguments files elapsed envFilter).output := by
  refine ⟨?_, fun {arguments' verbose files' c logFilter envFilter'} h' hfiles hc hc' hlog hlog' =>
    ?_⟩
  · rw [Outcome.ofArguments_invoke h]
    exact concludes_execute i files elapsed envFilter _
  · have hexecute : ({ i with verbose } : Invocation).execute files' envFilter' =
        (i.answer (i.overlay c) files).mapError .failed := by
      rw [← answer_congr hfiles verbose logFilter]
      exact execute_logs hc' hlog'
    rw [Outcome.ofArguments_invoke h, Outcome.ofArguments_invoke h', execute_logs hc hlog, hexecute]
    exact Outcome.ofResult_congr elapsed _ _ _

/-- Running a file under the defaults, with the wish to know more and without. Without it the
environment names a filter with a mistake, and with it one that cannot be cut. -/
theorem run_concludes :
    let files := fun path => if path = "a.zy" then some (.file (bytesOf "a:b")) else none
    ({ verb := .run, file := some "a.zy" } : Invocation).Concludes files "7" (some "zyxt=loud")
        (Outcome.ofArguments ["run", "a.zy"] files "7" (some "zyxt=loud")) ∧
      (Outcome.ofArguments ["-v", "run", "a.zy"] files "7" (some " é=")).status =
        (Outcome.ofArguments ["run", "a.zy"] files "7" (some "zyxt=loud")).status ∧
      (Outcome.ofArguments ["-v", "run", "a.zy"] files "7" (some " é=")).output =
        (Outcome.ofArguments ["run", "a.zy"] files "7" (some "zyxt=loud")).output := by
  intro files
  have hrun : Request.ofArguments? ["run", "a.zy"] =
      some (.invoke { verb := .run, file := some "a.zy" }) := by decide
  have hverbose : Request.ofArguments? ["-v", "run", "a.zy"] =
      some (.invoke { verb := .run, file := some "a.zy", verbose := true }) := by decide
  have hc : Configured files "zyxt.json" {} := .absent (if_neg (by decide))
  obtain ⟨hends, hsame⟩ := ofArguments_concludes hrun files "7" (some "zyxt=loud")
  exact ⟨hends, hsame hverbose (fun _ _ => rfl) hc hc (.inr (by decide)) (.inl rfl)⟩

/-- Two files with settings that differ in the log filter only, of which the second one has a filter
that cannot be cut into its parts; the environment names none. -/
theorem logFilter_changes_status :
    ∃ (c : Config) (files files' : String → Option Entry),
      Request.ofArguments? ["version"] = some (.invoke { verb := .version }) ∧
      Configured files Config.defaultPath c ∧
      Configured files' Config.defaultPath { c with logFilter := " é=" } ∧
      ∀ elapsed, (Outcome.ofArguments ["version"] files elapsed none).status = 0 ∧
        (Outcome.ofArguments ["version"] files' elapsed none).status = 101 := by
  have hversion : Request.ofArguments? ["version"] = some (.invoke { verb := .version }) := by
    decide
  have hconfigured : ∀ c : Config,
      Configured (fun _ => some (.file (bytesOf c.json))) Config.defaultPath c := fun c =>
    .read rfl (by rw [readFromFile_eq, readFrom, Config.readWhole_json])
  refine ⟨{}, _, _, hversion, hconfigured _, hconfigured _, fun elapsed => ⟨?_, ?_⟩⟩
  · have hlog : ({ verb := .version } : Invocation).Logs none {} := .inr (by decide)
    rw [Outcome.ofArguments_invoke hversion, execute_logs (hconfigured _) hlog]
    exact (succeeds_ofResult (answer_version rfl _ _)).status
  · have hlog : ¬ ({ verb := .version } : Invocation).Logs none { logFilter := " é=" } := by
      rintro (h | h)
      · cases h
      · exact absurd h (by decide)
    rw [Outcome.ofArguments_invoke hversion, execute_brokenOff (hconfigured _) hlog]
    rfl

end ZyxtLexer
