import PromqlEditor.CommandLine.Arguments
import PromqlEditor.Json.Text
import PromqlEditor.Logging.Start
import PromqlEditor.Service.Basic
import PromqlEditor.Settings.Environment

/-!
# Running a command

What a command prints, what it logs on the way, and why it fails if it does. A command that fails
prints nothing. `Report.ofCommand` takes from the outside only the environment and what reading
the options file gives, so a run is a function of its arguments and these two.
-/

namespace PromqlEditor.CommandLine

open Logging (FileError Level Record)

/-! ## Failures -/

/-- Why a command fails. -/
inductive Failure where
  /-- The options file cannot be read. -/
  | file (e : FileError)
  /-- The options file is no JSON text. -/
  | text (fault : Json.Fault) (t : Text)
  | settings (e : SettingsError)
  | install (e : InstallError)
  | strategy (message : String)

/-- The message of a failure. -/
def Failure.message : Failure → String
  | .file e => e.message
  | .text fault t => fault.message t
  | .settings e => e.message
  | .install e => e.message
  | .strategy message => message

/-- The message of what a failure comes from, where that is an error itself. -/
def Failure.cause? : Failure → Option String
  | .settings e => e.cause?
  | _ => none

/-- What the terminal shows of an error: its message and, with every line indented, the message of
its cause. -/
def errorText (message : String) (cause : Option String) : String :=
  let indent (c : Char) : List Char := if c == '\n' then "\n    ".toList else [c]
  "Error: " ++ message ++ "\n" ++
    cause.elim "" fun m => "\nCaused by:\n    " ++ String.ofList (m.toList.flatMap indent) ++ "\n"

/-! ## Records -/

/-- The target of the records of the program itself. -/
def programTarget : String := "promql_lang"

/-- The target of the records on settings. -/
def settingsTarget : String := "promql_language_support::config"

/-- The target of the records on the service. -/
def serviceTarget : String := "promql_language_support::lsp::registry"

/-- The target of the records on completion. -/
def completionTarget : String := "promql_language_support::lsp::features::completion"

/-- The record that a command is run. -/
def runningRecord (c : Command) : Record := ⟨.debug, programTarget, "Running " ++ c.shown⟩

/-- The records on the environment: one for each variable that overrides a setting, up to the first
that makes no sense. -/
def overrideRecords (env : Environment) : List Record :=
  let limit := ((env .maxItems).bind readLimit?).toList.map fun n =>
    ⟨.debug, settingsTarget,
      Variable.maxItems.name ++ " overrides completion max items = " ++ toString n⟩
  match (env .lintEnabled).map readSwitch? with
  | none => limit
  | some none => []
  | some (some b) =>
    ⟨.debug, settingsTarget,
      Variable.lintEnabled.name ++ " overrides lint enabled = " ++ toString b⟩ :: limit

/-- The record that a service is made. -/
def serviceRecord (s : Service) : Record :=
  ⟨.debug, serviceTarget, "Initialized language services (completion: " ++
    s.completion.strategy.name ++ ", lint: " ++ s.lint.strategy.name ++ ")"⟩

/-- The records that strategies are installed. -/
def installRecords (s : Service) : List Record :=
  [⟨.info, serviceTarget, "Installing completion strategy: " ++ s.completion.strategy.name⟩,
    ⟨.info, serviceTarget, "Installing lint strategy: " ++ s.lint.strategy.name⟩]

/-- The records on a request for suggestions. -/
def completionRecords (s : Service) (settings : CompletionSettings) (r : Request) : List Record :=
  [⟨.trace, serviceTarget, "Dispatching completion to " ++ s.completion.strategy.name⟩,
    ⟨.trace, completionTarget, "Completion for '" ++ String.ofList r.word ++ "' produced " ++
      toString (settings.shown r.word).length ++ " items"⟩]

/-! ## Reports -/

/-- What comes of a command: the lines that it prints, the records that it logs, and its failure if
it fails. -/
structure Report where
  lines : List String := []
  records : List Record := []
  failure : Option Failure := none

/-- The line on the category of a kind of nodes. -/
def classifyLine (kind : String) : String :=
  kind ++ "\t" ++ ((Language.promql.category? kind).map Category.tag).getD "-"

/-- The line on a group. -/
def groupLine (g : Group) : String := g.category.tag ++ "\t" ++ " ".intercalate g.names

/-- The line on a category in the legend. -/
def legendLine (c : Category) : String :=
  toString c.index ++ "\t" ++ c.tag ++ "\t" ++ c.tokenType

/-- The lines on suggestions. -/
def suggestionLines : Option Suggestions → List String
  | some s => s.items.map Item.label
  | none => ["no suggestions"]

/-- The options in a file, if one is named. -/
def readOptions (readFile : String → Except FileError String) :
    Option String → Except Failure (Option Json.Value)
  | none => .ok none
  | some path => do
    let content ← (readFile path).mapError .file
    let t := content.toList
    some <$> (Json.Value.ofText t).mapError (.text · t)

/-- Runs a completion. -/
def Report.ofCompletion (env : Environment) (readFile : String → Except FileError String)
    (query : Text) (offset : Option Nat) (file : Option String) : Report :=
  match readOptions readFile file with
  | .error e => { failure := some e }
  | .ok options =>
    match Settings.load options env with
    | .error (.options e) => { failure := some (.settings (.options e)) }
    | .error (.environment e) =>
      { records := overrideRecords env, failure := some (.settings (.environment e)) }
    | .ok settings =>
      let records := overrideRecords env ++ [serviceRecord Service.initial]
      match Service.initial.apply settings with
      | (_, some e) => { records, failure := some (.install e) }
      | (service, none) =>
        let r : Request := ⟨query, offset.getD (Text.size query), true⟩
        let records := records ++ installRecords service ++
          completionRecords service (settings.completion.getD {}) r
        match service.complete r with
        | .error message => { records, failure := some (.strategy message) }
        | .ok answer => { records, lines := suggestionLines answer }

/-- Runs a command. -/
def Report.ofCommand (env : Environment) (readFile : String → Except FileError String)
    (c : Command) : Report :=
  let report : Report := match c with
    | .classify kinds => { lines := kinds.map classifyLine }
    | .groups => { lines := Language.promql.table.groups.map groupLine }
    | .legend => { lines := Category.all.map legendLine }
    | .complete query offset file => .ofCompletion env readFile query.toList offset file
  { report with records := runningRecord c :: report.records }

/-- The text that a command prints. -/
def Report.output (r : Report) : String := String.join (r.lines.map (· ++ "\n"))

/-- The exit code of a command. -/
def Report.exitCode (r : Report) : Nat := if r.failure.isSome then 1 else 0

/-- What the terminal shows of a failure. -/
def Report.errors (r : Report) : String :=
  r.failure.elim "" fun e => errorText e.message e.cause?

/-! ## Logs -/

/-- The line that says that a text is no directive and is ignored. -/
def ignoredLine (t : Text) (fault : Logging.Directive.Fault) : String :=
  "ignoring `" ++ String.ofList t ++ "`: " ++ fault.message ++ "\n"

/-- The line that says where the session log is. -/
def sessionLogLine (path : String) : String := "Logging to file: " ++ Text.quoted path ++ "\n"

/-- The line that says that an expired session log cannot be deleted. -/
def removalFailureLine (path : String) (e : FileError) : String :=
  "Failed to remove old log file " ++ Text.quoted path ++ ": " ++ e.message ++ "\n"

/-- The lines of the records that a filter lets pass, with a time stamp each. -/
def Report.log (r : Report) (filter : Logging.Filter) (coloured : Bool) (time : String) : String :=
  String.join <| (r.records.filter filter.passes).map fun x =>
    if coloured then x.colouredLine time else x.line time

end PromqlEditor.CommandLine
