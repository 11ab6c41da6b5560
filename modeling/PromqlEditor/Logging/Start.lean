import PromqlEditor.Logging.Filter
import PromqlEditor.Logging.SessionLog

/-!
# Starting to log

A process logs to the terminal and, if asked, to a session log. What is needed from the file system
for the session log is done first and may fail; only then is the logger put in place. A process has
one place for a logger, and an installer says what becomes of one that is offered for it. That the
place is taken already is told from the words of a refusal, and does no harm.
-/

namespace PromqlEditor.Logging

/-- Why something cannot be done with a file: an error of the system, or another reason. -/
inductive FileError where
  | system (description : String) (code : Nat)
  | other (description : String)
deriving DecidableEq, Repr

namespace FileError

/-- The text of an error. -/
def message : FileError → String
  | .system description code => description ++ " (os error " ++ toString code ++ ")"
  | .other description => description

/-- There is no file of that name. -/
def missing : FileError := .system "No such file or directory" 2

/-- A file lies where a directory has to be. -/
def notDirectory : FileError := .system "Not a directory" 20

/-- A directory lies where a file has to be. -/
def isDirectory : FileError := .system "Is a directory" 21

/-- A path or a name in it is longer than the system allows. -/
def nameTooLong : FileError := .system "File name too long" 36

/-- The bytes of a file are no text. -/
def notText : FileError := .other "stream did not contain valid UTF-8"

end FileError

/-- How a process wants to log. -/
structure Wish where
  colours : Bool
  filter : Filter
  sessionLog : Bool
deriving DecidableEq, Repr

/-- What the file system says to the steps of opening a session log: finding the cache directory,
making the directory of the logs, listing it, and making the file. -/
structure FileSteps where
  cacheDirectory : Except FileError Unit
  directory : Except FileError Unit
  listing : Except FileError Unit
  file : Except FileError Unit

/-- Opens a session log: the first step that fails decides. -/
def FileSteps.openLog (steps : FileSteps) : Except FileError Unit := do
  steps.cacheDirectory
  steps.directory
  steps.listing
  steps.file

/-! ## Putting a logger in place -/

/-- What becomes of a logger that is offered when there may be one in place: the one that is in place
afterwards, and the words of a refusal. -/
abbrev Installer : Type := Option Wish → Wish → Option Wish × Except String Unit

/-- Whether a text occurs in another. -/
def occursIn (part : List Char) : List Char → Bool
  | [] => part.isEmpty
  | c :: rest => part.isPrefixOf (c :: rest) || occursIn part rest

/-- Whether the words of a refusal say that there is a logger in place. -/
def saysAlreadySet (words : String) : Bool :=
  occursIn "already been set".toList words.toList || occursIn "SetLoggerError".toList words.toList

namespace Installer

/-- The installer of the logging library: it puts the first logger in place and refuses others. -/
def library : Installer
  | none, wish => (some wish, .ok ())
  | some inPlace, _ => (some inPlace, .error "a global default trace dispatcher has already been set")

/-- Puts a logger in place, unless there is one. -/
def put (install : Installer) (inPlace : Option Wish) (wish : Wish) :
    Option Wish × Except FileError Unit :=
  match install inPlace wish with
  | (inPlace, .ok ()) => (inPlace, .ok ())
  | (inPlace, .error words) =>
    (inPlace, if saysAlreadySet words then .ok () else .error (.other words))

/-- Starts to log, when opening a session log goes as told: the logger that is in place afterwards,
and whether that went well. -/
def start (install : Installer) (inPlace : Option Wish) (wish : Wish)
    (opened : Except FileError Unit) : Option Wish × Except FileError Unit :=
  match if wish.sessionLog then opened else .ok () with
  | .error e => (inPlace, .error e)
  | .ok () => install.put inPlace wish

/-- Starts to log several times: the logger that is in place at the end, and how each start went. -/
def startAll (install : Installer) (inPlace : Option Wish) :
    List (Wish × FileSteps) → Option Wish × List (Except FileError Unit)
  | [] => (inPlace, [])
  | (wish, steps) :: rest =>
    let (inPlace, result) := install.start inPlace wish steps.openLog
    let (inPlace, results) := startAll install inPlace rest
    (inPlace, result :: results)

end Installer

/-! ## Starting -/

/-- Starts to log, with the logging library. -/
def start (inPlace : Option Wish) (wish : Wish) (opened : Except FileError Unit) :
    Option Wish × Except FileError Unit :=
  Installer.library.start inPlace wish opened

/-- Starts to log several times, with the logging library. -/
def startAll (inPlace : Option Wish) (calls : List (Wish × FileSteps)) :
    Option Wish × List (Except FileError Unit) :=
  Installer.library.startAll inPlace calls

/-- A process that has no logger yet and asks for no session log starts to log. -/
theorem start_none_of_plain {wish : Wish} (h : wish.sessionLog = false)
    (opened : Except FileError Unit) : start none wish opened = (some wish, .ok ()) := by
  simp [start, Installer.start, h, Installer.put, Installer.library]

end PromqlEditor.Logging
