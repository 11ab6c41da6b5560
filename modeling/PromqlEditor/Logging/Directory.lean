import PromqlEditor.Logging.SessionLog

/-!
# A directory of files

What is in a directory, as the deleting of session logs meets it: entries are looked at and deleted
by name, no two of them have the same name, and every deletion succeeds. About entries that are not
readable a directory says nothing.
-/

namespace PromqlEditor.Logging

/-- What is in a directory. -/
@[ext]
structure Directory where
  entries : List Entry
  names_nodup : (entries.map Entry.name).Nodup

namespace Directory

/-- The names of the entries. -/
def names (d : Directory) : List (List UInt8) := d.entries.map Entry.name

/-- The directory with only those entries that a test accepts. -/
def filter (keep : Entry → Bool) (d : Directory) : Directory where
  entries := d.entries.filter keep
  names_nodup := d.names_nodup.sublist (List.filter_sublist.map Entry.name)

/-- The readable entry of a name. -/
def find? (readable : List UInt8 → Bool) (name : List UInt8) (d : Directory) : Option Entry :=
  d.entries.find? fun e => e.name == name && readable e.name

/-- Looks at the entry of a name. -/
def look (readable : List UInt8 → Bool) (name : List UInt8) : StateM Directory (Option Entry) :=
  fun d => (d.find? readable name, d)

/-- Deletes the entry of a name. -/
def delete (ε : Type) (name : List UInt8) : StateM Directory (Except ε Unit) :=
  fun d => (.ok (), d.filter (·.name != name))

end Directory

end PromqlEditor.Logging
