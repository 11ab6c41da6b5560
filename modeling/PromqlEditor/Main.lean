import PromqlEditor.CommandLine.Outcome
import Std.Time.Format

/-!
# The program

The command line, joined to the arguments, the environment, the files and the clock of a process.
-/

namespace PromqlEditor

open CommandLine Logging

/-! ## The clock -/

/-- The time stamp of a log line. -/
def stamp (t : Std.Time.PlainDateTime) : String := t.format "uuuu-MM-dd'T'HH:mm:ss.SSS" ++ "Z"

/-- The date and the time of day of a moment, in UTC. -/
def dateTime (t : Std.Time.Timestamp) : Std.Time.PlainDateTime :=
  .ofWallTime (t.toWallTime .zero)

/-! ## Files -/

/-- The error of a system call, from its code, which the system may give as a negative number in
32 bits, and a text for it. -/
def systemError (code : UInt32) (text : String) : FileError :=
  let code := if 0x80000000 ≤ code.toNat then 0x100000000 - code.toNat else code.toNat
  match [FileError.missing, .notDirectory, .isDirectory, .nameTooLong].find? (hasCode code) with
  | some e => e
  | none => .system text.capitalize code
where
  hasCode (code : Nat) : FileError → Bool
    | .system _ c => c == code
    | .other _ => false

/-- What an error of the system says. -/
def fileError : IO.Error → FileError
  | .alreadyExists _ code text | .interrupted _ code text | .noFileOrDirectory _ code text
  | .invalidArgument _ code text | .permissionDenied _ code text
  | .resourceExhausted _ code text | .inappropriateType _ code text | .noSuchThing _ code text
  | .otherError code text | .resourceBusy code text | .resourceVanished code text
  | .unsupportedOperation code text | .hardwareFault code text
  | .unsatisfiedConstraints code text | .illegalOperation code text | .protocolError code text
  | .timeExpired code text => systemError code text
  | .unexpectedEof => .other "unexpected end of file"
  | .userError text => .other text

/-- Does something with files and keeps its error. -/
def attempt {α : Type} (act : IO α) : IO (Except FileError α) := do
  try return .ok (← act)
  catch e => return .error (fileError e)

/-- The text of a file. -/
def textOfFile (path : String) : IO (Except FileError String) := do
  match ← attempt (IO.FS.readBinFile path) with
  | .error e => return .error e
  | .ok bytes =>
    match String.fromUTF8? bytes with
    | some text => return .ok text
    | none => return .error .notText

/-- What a directory says about one of its entries, if it says anything. -/
def entryOf (e : IO.FS.DirEntry) : IO (Option Entry) := do
  let kind : IO.FS.FileType → EntryKind
    | .file => .file
    | .dir => .directory
    | .symlink => .link
    | .other => .other
  match ← attempt e.path.symlinkMetadata with
  | .ok m =>
    let time := m.modified.sec * 1000000000 + m.modified.nsec.toNat
    return some ⟨nameBytes e.fileName, kind m.type, some time⟩
  | .error _ => return none

/-! ## The session log -/

/-- A session log that is open: where it is, and how to write to it. -/
structure OpenLog where
  path : String
  handle : IO.FS.Handle

/-- Deletes a file of a directory. -/
def deleteFile (e : IO.FS.DirEntry) : IO (Except FileError Unit) :=
  attempt (IO.FS.removeFile e.path)

/-- The number of this process. -/
def processNumber : IO String := do
  return (← IO.FS.realPath "/proc/self").fileName.getD "0"

/-- Makes a directory, and those that it lies in if they are missing. -/
def makeDirectory (place : IO.FS.DirEntry) : IO Unit := do
  try IO.FS.createDir place.path
  catch
    | .noFileOrDirectory .. => IO.FS.createDirAll place.path
    | e => throw e

/-- The entries of a directory, which is made if it is missing. -/
def entriesOf (place : IO.FS.DirEntry) : IO (List IO.FS.DirEntry) := do
  unless ← place.path.pathExists do makeDirectory place
  return (← place.path.readDir).toList

/-- Opens the session log of this process in a directory. -/
def openLog (place : IO.FS.DirEntry) (t : Std.Time.PlainDateTime) : IO OpenLog := do
  let name := sessionLogName (t.format "uuuuMMdd") (t.format "HHmmss") (← processNumber)
  let file : IO.FS.DirEntry := ⟨place.path, name⟩
  return ⟨file.path.toString, ← IO.FS.Handle.mk file.path .append⟩

/-- Opens a session log, once the expired ones are deleted, and gives the paths of those that cannot
be deleted, and why. -/
def openSessionLog : IO (Except FileError OpenLog × List (String × FileError)) := do
  let home := (← IO.getEnv "HOME").filter (!·.isEmpty)
  match cacheDirectory? (← IO.getEnv "XDG_CACHE_HOME") home with
  | none => return (.error (.other "Unable to determine user cache directory"), [])
  | some cache =>
    let place : IO.FS.DirEntry := ⟨cache, directoryName⟩
    match ← attempt (entriesOf place) with
    | .error e => return (.error e, [])
    | .ok entries =>
      let now ← Std.Time.Timestamp.now
      let failures ← deleteExpired now.toNanosecondsSinceUnixEpoch.val entryOf deleteFile entries
      return (← attempt (openLog place (dateTime now)),
        failures.map fun (e, error) => (e.path.toString, error))

/-! ## Surroundings -/

/-- The environment of this process. -/
def environment : IO Environment := do
  let lintEnabled ← IO.getEnv Variable.lintEnabled.name
  let maxItems ← IO.getEnv Variable.maxItems.name
  return fun
    | .lintEnabled => lintEnabled
    | .maxItems => maxItems

/-- What a process finds outside, as far as its demand has it look there, and its session log. -/
def lookAround (demand : Demand) : IO (Surroundings × Except FileError OpenLog) := do
  let (wanted, file) := match demand with
    | .run general command => (general.logFile, command.optionsFile?)
    | _ => (false, none)
  let (log, undeleted) ← if wanted then openSessionLog else pure (.error .missing, [])
  let content ← file.elim (pure (.error .missing)) textOfFile
  let around : Surroundings :=
    { environment := ← environment
      logLevel := ← IO.getEnv "RUST_LOG"
      sessionLog := log.map OpenLog.path
      undeleted
      fileContent := fun _ => content
      time := stamp (dateTime (← Std.Time.Timestamp.now)) }
  return (around, log)

end PromqlEditor

open PromqlEditor CommandLine in
/-- Does what the arguments ask for. -/
def main (arguments : List String) : IO UInt32 := do
  let demand := Demand.ofArguments arguments
  let (around, log) ← lookAround demand
  let outcome := Outcome.ofDemand around demand
  if let (.ok log, some text) := (log, outcome.sessionLog) then log.handle.putStr text
  IO.print outcome.output
  IO.eprint outcome.errors
  return outcome.exitCode.toUInt32
