/-!
# Session logs

Each session may write a log of its own, a file in a directory of its own below the user's cache
directory. Logs are named for the time and the process, and old ones are deleted when a session
starts: files, not directories or links, that are named as session logs are and were last changed
more than a week ago.
-/

namespace PromqlEditor.Logging

/-! ## Names -/

/-- The name of the directory of the session logs. -/
def directoryName : String := "promql-language-support"

/-- The cache directory of a user: the one that the environment names, if it is absolute, and
otherwise the usual one below the home directory. -/
def cacheDirectory? (fromEnvironment home : Option String) : Option String :=
  match fromEnvironment.filter (·.startsWith "/") with
  | some path => some path
  | none => home.map (· ++ "/.cache")

/-- The directory of the session logs below a cache directory. -/
def sessionLogDirectory (cache : String) : String := cache ++ "/" ++ directoryName

/-- The beginning of the name of every session log. -/
def nameStart : String := "session-"

/-- The end of the name of every session log. -/
def nameEnd : String := ".log"

/-- The name of the log of a session, from the date and time at which it starts and the number of
its process. -/
def sessionLogName (date time process : String) : String :=
  nameStart ++ date ++ "-" ++ time ++ "-" ++ process ++ nameEnd

/-- Whether a file is named as session logs are. -/
def isSessionLogName (name : String) : Bool :=
  nameStart.toList.isPrefixOf name.toList && nameEnd.toList.isSuffixOf name.toList

/-! ## Directories -/

/-- What an entry of a directory is. -/
inductive EntryKind where
  | file
  | directory
  | link
  | other
deriving DecidableEq, Repr

/-- An entry of a directory. Its name is a sequence of bytes, which need not be UTF-8, and the time
at which it was last changed may be unknown. Times are in nanoseconds. -/
structure Entry where
  name : List UInt8
  kind : EntryKind
  modified : Option Int
deriving DecidableEq, Repr

/-- The bytes of a name. -/
def nameBytes (name : String) : List UInt8 := name.toUTF8.data.toList

/-- The text of a name, if it is UTF-8. -/
def Entry.text? (e : Entry) : Option String := String.fromUTF8? ⟨e.name.toArray⟩

/-! ## Retention -/

/-- How long session logs are kept. -/
def retention : Int := 7 * 24 * 60 * 60 * 1000000000

/-- Whether an entry is to be deleted at time `now`. -/
def Entry.isExpired (now : Int) (e : Entry) : Bool :=
  e.kind == .file && (e.text?.any isSessionLogName) && e.modified.any fun m => retention < now - m

section Deleting

variable {m : Type → Type} [Monad m] {α ε : Type} (now : Int) (look : α → m (Option Entry))
  (delete : α → m (Except ε Unit))

/-- Deletes an entry of a directory if it is an expired session log, which is found out by looking
at it, and gives what stands in the way of deleting it. An entry that cannot be looked at stays. -/
def deleteIfExpired (x : α) : m (Option ε) := do
  let some e ← look x | return none
  if e.isExpired now then
    match ← delete x with
    | .ok () => return none
    | .error error => return some error
  else return none

/-- Deletes the expired session logs among the entries that a directory lists, one by one, and gives
those that cannot be deleted, and why. -/
def deleteExpired : List α → m (List (α × ε))
  | [] => return []
  | x :: rest => do
    let failure ← deleteIfExpired now look delete x
    let failures ← deleteExpired rest
    return (failure.map (x, ·)).toList ++ failures

end Deleting

/-- What is left of a directory once the expired session logs are deleted. -/
def cleanUp (now : Int) (entries : List Entry) : List Entry := entries.filter (!·.isExpired now)

end PromqlEditor.Logging
