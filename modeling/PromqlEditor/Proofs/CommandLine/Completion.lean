import Mathlib
import PromqlEditor.CommandLine.Outcome
import PromqlEditor.Proofs.Service.AllOrNothing
import PromqlEditor.Proofs.Json.Ordered
import PromqlEditor.Proofs.Json.Writing
import PromqlEditor.Proofs.Settings.Faults

/-!
# Completion on the command line

A completion that is run from the command line goes through several stages before it prints
anything: the file with the options is read, its text is read as JSON, the options and the
environment are loaded as settings, and the settings are applied. Each stage can refuse
(`Refused`), and then the run fails and nothing is printed. Otherwise it prints what the strategy of
the loaded settings suggests for the query (`completion_prints_answer_or_nothing`). What is JSON is
said by what texts write, and what is loaded by what the schema says of options.

The stages are gone through once, in the report of the command: `Refused.report` is about the runs
that fail and `Accepts.report` about all others. What a process leaves behind without a session log
is what the report of its command says (`Outcome.ofCommand_eq_report`).
-/

namespace PromqlEditor.CommandLine

open Json (Value)

/-! ## What is found outside -/

/-- The options that a completion starts from: none if no file is named, and else the value that the
text of the file writes. -/
inductive FindsOptions (around : Surroundings) : Option String → Option Value → Prop
  | unnamed : FindsOptions around none none
  | named {path content : String} {v : Value} (hfile : around.fileContent path = .ok content)
      (htext : Json.Writes Json.depthLimit content.toList v) :
      FindsOptions around (some path) (some v)

/-- The ways in which a completion is refused. -/
inductive Refused (around : Surroundings) : Option String → Prop
  | unreadable {path : String} {e : Logging.FileError}
      (hfile : around.fileContent path = .error e) : Refused around (some path)
  | notJson {path content : String} (hfile : around.fileContent path = .ok content)
      (htext : ∀ v, ¬ Json.Writes Json.depthLimit content.toList v) : Refused around (some path)
  | notLoaded {file : Option String} {options : Option Value} {e : SettingsError}
      (hoptions : FindsOptions around file options)
      (hload : Settings.load options around.environment = .error e) : Refused around file
  | zeroLimit {file : Option String} {options : Option Value} {settings : Settings}
      (hoptions : FindsOptions around file options)
      (hload : Settings.load options around.environment = .ok settings)
      (hzero : settings.completion.bind (·.maxItems) = some 0) : Refused around file

/-- Whether a completion is run with some settings: they are loaded from the options that are found,
and their limit is not zero. -/
structure Accepts (around : Surroundings) (file : Option String) (settings : Settings) : Prop where
  exists_load : ∃ options, FindsOptions around file options ∧
    Settings.load options around.environment = .ok settings
  limit_ne_zero : settings.completion.bind (·.maxItems) ≠ some 0

/-- Whether a process has failed and printed nothing. -/
structure Outcome.IsFailure (o : Outcome) : Prop where
  exitCode_eq : o.exitCode = 1
  output_eq : o.output = ""

/-- Whether a process has printed an answer, label by label, and has not failed. -/
structure Outcome.Prints (o : Outcome) (answer : Option Suggestions) : Prop where
  exitCode_eq : o.exitCode = 0
  output_of_some : ∀ found ∈ answer, o.output = String.join (found.items.map (·.label ++ "\n"))
  output_of_none : answer = none → o.output = "no suggestions\n"

section

variable {around : Surroundings} {file : Option String} {options : Option Value}
  {settings : Settings}

/-- A completion is refused, or else it is run with some settings. -/
theorem refused_or_accepts (around : Surroundings) (file : Option String) :
    Refused around file ∨ ∃ settings, Accepts around file settings := by
  have hfinds : Refused around file ∨ ∃ options, FindsOptions around file options := by
    cases file with
    | none => exact Or.inr ⟨none, .unnamed⟩
    | some path =>
      cases hfile : around.fileContent path with
      | error e => exact Or.inl (.unreadable hfile)
      | ok content =>
        by_cases htext : ∃ v, Json.Writes Json.depthLimit content.toList v
        · obtain ⟨v, hv⟩ := htext
          exact Or.inr ⟨some v, .named hfile hv⟩
        · exact Or.inl (.notJson hfile (not_exists.1 htext))
  rcases hfinds with hrefused | ⟨options, hoptions⟩
  · exact Or.inl hrefused
  · cases hload : Settings.load options around.environment with
    | error e => exact Or.inl (.notLoaded hoptions hload)
    | ok settings =>
      by_cases hzero : settings.completion.bind (·.maxItems) = some 0
      · exact Or.inl (.zeroLimit hoptions hload hzero)
      · exact Or.inr ⟨settings, ⟨options, hoptions, hload⟩, hzero⟩

/-! ## What is reported -/

theorem FindsOptions.readOptions_eq (h : FindsOptions around file options) :
    readOptions around.fileContent file = .ok options := by
  cases h with
  | unnamed => rfl
  | named hfile htext =>
    simp only [readOptions, Options.bind_eq_ok_iff, Options.map_eq_ok_iff,
      Options.mapError_eq_ok_iff]
    exact ⟨_, hfile, _, Value.ofText_eq_ok_iff.2 htext, rfl⟩

/-- What is found comes from a text, if from anywhere. -/
theorem FindsOptions.ordered (h : FindsOptions around file options) :
    ∀ v ∈ options, v.Ordered := by
  cases h with
  | unnamed => nofun
  | named _ htext =>
    rintro _ ⟨⟩
    exact htext.ordered

/-- A completion that is refused reports a failure, and no lines. -/
theorem Refused.report (h : Refused around file) (query : Text) (offset : Option Nat) :
    ∃ records e, Report.ofCompletion around.environment around.fileContent query offset file =
      { records, failure := some e } := by
  rw [Report.ofCompletion]
  cases h with
  | unreadable hfile =>
    simp [readOptions, hfile, Except.mapError, bind, Except.bind]
  | @notJson path content hfile htext =>
    have hfault : ¬ ∃ v, Value.ofText content.toList = .ok v := by
      rintro ⟨v, hv⟩
      exact htext v (Value.ofText_eq_ok_iff.1 hv)
    obtain ⟨fault, hfault⟩ := Options.exists_error_iff.2 hfault
    simp [readOptions, hfile, hfault, Except.mapError, bind, Except.bind, Functor.map, Except.map]
  | @notLoaded _ _ e hoptions hload =>
    simp only [hoptions.readOptions_eq, hload]
    -- what is logged on the way depends on which of the two is at fault
    cases e with
    | options e => exact ⟨_, _, rfl⟩
    | environment e => exact ⟨_, _, rfl⟩
  | zeroLimit hoptions hload hzero =>
    simp [hoptions.readOptions_eq, hload, Service.apply_eq, hzero]

/-- A completion that is run reports what the strategy of its settings suggests. -/
theorem Accepts.report (h : Accepts around file settings) (query : Text) (offset : Option Nat) :
    ∃ records, Report.ofCompletion around.environment around.fileContent query offset file =
      { records, lines := suggestionLines ((settings.completion.getD {}).suggest
          ⟨query, offset.getD query.size, true⟩) } := by
  obtain ⟨⟨options, hoptions, hload⟩, hzero⟩ := h
  rw [Report.ofCompletion]
  simp [hoptions.readOptions_eq, hload, Service.apply_eq, hzero, Service.complete, Slot.put,
    CompletionStrategy.answer]

/-- A completion that is run is not refused. -/
theorem Accepts.not_refused (h : Accepts around file settings) : ¬ Refused around file := by
  intro hrefused
  obtain ⟨_, _, hfailure⟩ := hrefused.report [] none
  obtain ⟨_, hreport⟩ := h.report [] none
  cases congrArg Report.failure (hreport.symm.trans hfailure)

/-- Without a session log a process shows what the report of its command says. -/
theorem Outcome.ofCommand_eq_report {general : General} (hlog : general.logFile = false)
    (around : Surroundings) (command : Command) :
    (ofCommand around general command).exitCode =
        (Report.ofCommand around.environment around.fileContent command).exitCode ∧
      (ofCommand around general command).output =
        (Report.ofCommand around.environment around.fileContent command).output := by
  simp [ofCommand, General.wish, hlog, Logging.start_none_of_plain]

/-! ## What is left behind -/

theorem Refused.isFailure (h : Refused around file) {general : General}
    (hlog : general.logFile = false) (query : String) (offset : Option Nat) :
    (Outcome.ofCommand around general (.complete query offset file)).IsFailure := by
  obtain ⟨hcode, houtput⟩ := Outcome.ofCommand_eq_report hlog around (.complete query offset file)
  obtain ⟨records, e, hreport⟩ := h.report query.toList offset
  rw [Report.ofCommand, hreport] at hcode houtput
  exact ⟨hcode, houtput⟩

theorem Accepts.prints (h : Accepts around file settings) {general : General}
    (hlog : general.logFile = false) (query : String) (offset : Option Nat) :
    (Outcome.ofCommand around general (.complete query offset file)).Prints
      ((settings.completion.getD {}).suggest
        ⟨query.toList, offset.getD (Text.size query.toList), true⟩) := by
  obtain ⟨hcode, houtput⟩ := Outcome.ofCommand_eq_report hlog around (.complete query offset file)
  obtain ⟨records, hreport⟩ := h.report query.toList offset
  rw [Report.ofCommand, hreport] at hcode houtput
  refine ⟨hcode, fun found hfound => ?_, fun hnone => ?_⟩
  · rw [houtput, Report.output, Option.mem_def.1 hfound, suggestionLines, List.map_map]
    rfl
  · rw [houtput, Report.output, hnone]
    rfl

end

/-! ## The main result -/

/-- Whatever arguments ask for a completion without a session log, and whatever is found outside:
the run fails and prints nothing if the completion is refused, and only then. In every other case
it prints what the strategy of the loaded settings suggests, on request, at the given offset or at
the end of the query. Options that are found are not loaded just if they stand for no settings or if
a variable makes no sense. -/
theorem completion_prints_answer_or_nothing {arguments : List String} {general : General}
    {query : String} {offset : Option Nat} {file : Option String}
    (hdemand : Demand.ofArguments arguments = .run general (.complete query offset file))
    (hlog : general.logFile = false) (around : Surroundings) :
    ((Outcome.ofDemand around (Demand.ofArguments arguments)).IsFailure ↔ Refused around file) ∧
      (¬ Refused around file → ∃ settings answer, Accepts around file settings ∧
        (CompletionStrategy.vocabulary (settings.completion.getD {})).answer
          ⟨query.toList, offset.getD (Text.size query.toList), true⟩ = .ok answer ∧
        (Outcome.ofDemand around (Demand.ofArguments arguments)).Prints answer) ∧
      ∀ options, FindsOptions around file options →
        ((∃ e, Settings.load options around.environment = .error e) ↔
          (∀ given, ¬ Schema.IsOptions options given) ∨ ∃ e, around.environment.IsFault e) := by
  have hloads (options) (hoptions : FindsOptions around file options) :=
    Settings.exists_load_eq_error_iff hoptions.ordered around.environment
  rw [hdemand, Outcome.ofDemand]
  rcases refused_or_accepts around file with hrefused | ⟨settings, haccepts⟩
  · exact ⟨iff_of_true (hrefused.isFailure hlog query offset) hrefused, absurd hrefused, hloads⟩
  · have hprints := haccepts.prints hlog query offset
    refine ⟨iff_of_false (fun hfailure => ?_) haccepts.not_refused,
      fun _ => ⟨settings, _, haccepts, rfl, hprints⟩, hloads⟩
    have hcode := hfailure.exitCode_eq
    rw [hprints.exitCode_eq] at hcode
    cases hcode

/-- The file sets the limit to zero. Where no variable is set the run fails, and where one sets the
limit to one it prints the one function that starts with the first two letters of the query. -/
theorem overridden_limit_prints_answer :
    Demand.ofArguments ["complete", "--offset=2", "-c", "options.json", "rates"] =
        .run {} (.complete "rates" (some 2) (some "options.json")) ∧
      (Outcome.ofDemand
        { environment := fun _ => none, logLevel := none, sessionLog := .error .missing
          fileContent := fun _ => .ok "[[0]]", time := "" }
        (Demand.ofArguments ["complete", "--offset=2", "-c", "options.json", "rates"])).IsFailure ∧
      (Outcome.ofDemand
        { environment := fun x => if x = .maxItems then some "1" else none, logLevel := none
          sessionLog := .error .missing, fileContent := fun _ => .ok "[[0]]", time := "" }
        (Demand.ofArguments
          ["complete", "--offset=2", "-c", "options.json", "rates"])).output = "rate\n" := by
  have hdemand : Demand.ofArguments ["complete", "--offset=2", "-c", "options.json", "rates"] =
      .run {} (.complete "rates" (some 2) (some "options.json")) := rfl
  have htext : Json.Writes Json.depthLimit "[[0]]".toList (.list [.list [.integer 0]]) :=
    Value.ofText_eq_ok_iff.1 (by cbv)
  have hload : Settings.load (some (.list [.list [.integer 0]]))
      (fun x => if x = .maxItems then some "1" else none) = .ok ⟨some ⟨some 1, []⟩, none⟩ := rfl
  have haccepts : Accepts
      { environment := fun x => if x = .maxItems then some "1" else none, logLevel := none
        sessionLog := .error .missing, fileContent := fun _ => .ok "[[0]]", time := "" }
      (some "options.json") ⟨some ⟨some 1, []⟩, none⟩ :=
    ⟨⟨_, .named rfl htext, hload⟩, by decide⟩
  refine ⟨hdemand, (completion_prints_answer_or_nothing hdemand rfl _).1.2
    (.zeroLimit (.named rfl htext) rfl rfl), ?_⟩
  obtain ⟨settings, answer, ⟨⟨options, hoptions, hload'⟩, -⟩, hanswer, hprints⟩ :=
    (completion_prints_answer_or_nothing hdemand rfl _).2.1 haccepts.not_refused
  cases hoptions with
  | named hfile htext' =>
    cases hfile
    cases htext.unique htext'
    cases hload.symm.trans hload'
    cases hanswer
    exact hprints.output_of_some ⟨0, [⟨"rate", some .function⟩]⟩ rfl

end PromqlEditor.CommandLine
