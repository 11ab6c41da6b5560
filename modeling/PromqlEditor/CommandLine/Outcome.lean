import PromqlEditor.CommandLine.Help
import PromqlEditor.CommandLine.Report

/-!
# Outcomes

What a process leaves behind: its exit code, what it writes to the terminal, and its session log.
`Outcome.ofDemand` is the whole program as a function of what its arguments demand and of what it
finds outside.
-/

namespace PromqlEditor.CommandLine

open Logging (FileError Filter Wish)

/-- What a process finds outside. -/
structure Surroundings where
  environment : Environment
  /-- What the environment says about the records that are written. -/
  logLevel : Option String
  /-- The path of a session log, once it is open. -/
  sessionLog : Except FileError String
  /-- The paths of the expired session logs that cannot be deleted, and why. -/
  undeleted : List (String × FileError) := []
  /-- What reading a file gives. -/
  fileContent : String → Except FileError String
  /-- The time stamp of log lines. -/
  time : String

/-- What a process leaves behind. -/
structure Outcome where
  exitCode : Nat
  output : String := ""
  errors : String := ""
  sessionLog : Option String := none
deriving DecidableEq, Repr

/-- How the general options and the surroundings want a process to log. -/
def General.wish (g : General) (around : Surroundings) : Wish where
  colours := !g.noColour
  filter := .forTerminal g.logLevel around.logLevel
  sessionLog := g.logFile

/-- What the terminal shows of the start of logging: the directives that are ignored, then the
expired session logs that stay. -/
def General.startErrors (g : General) (around : Surroundings) : String :=
  let ignored := (g.logLevel.elim [] Filter.ignored).map fun (t, fault) => ignoredLine t fault
  let undeleted := if g.logFile then
    around.undeleted.map fun (path, e) => removalFailureLine path e else []
  String.join (ignored ++ undeleted)

/-- The outcome of a command. Logging starts before the command runs, and if it does not start the
command does not run. -/
def Outcome.ofCommand (around : Surroundings) (general : General) (command : Command) : Outcome :=
  let wish := general.wish around
  let errors := general.startErrors around
  let path := if wish.sessionLog then some <$> around.sessionLog else .ok none
  match Logging.start none wish (path.map fun _ => ()) with
  | (_, .error e) => { exitCode := 1, errors := errors ++ errorText e.message none }
  | (logger, .ok ()) =>
    let report := Report.ofCommand around.environment around.fileContent command
    let place := (path.toOption.join.map sessionLogLine).getD ""
    let written := (logger.map fun w => report.log w.filter w.colours around.time).getD ""
    { exitCode := report.exitCode
      output := report.output
      errors := errors ++ place ++ written ++ report.errors
      sessionLog := (logger.filter Wish.sessionLog).map fun _ =>
        report.log .forSessionLog false around.time }

/-- The outcome of what is demanded. -/
def Outcome.ofDemand (around : Surroundings) : Demand → Outcome
  | .run general command => .ofCommand around general command
  | .help => { exitCode := 0, output := helpText }
  | .version => { exitCode := 0, output := versionText }
  | .misuse => { exitCode := 2, errors := helpText }

end PromqlEditor.CommandLine
