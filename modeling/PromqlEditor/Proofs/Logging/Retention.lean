import Mathlib.Data.List.Nodup
import PromqlEditor.Logging.Directory
import PromqlEditor.Logging.Start

/-!
# Which session logs are deleted

Whether a log has expired is said here from its kind, its name and its age alone. One turn of the
deleting leaves out the entry that it looks at, if that is an expired log, and changes nothing
otherwise. A run over a listing is then a filter of the directory, whatever the order of the
listing, and it leaves nothing for a second run to delete.
-/

namespace PromqlEditor.Logging

variable {now : Int} {readable : List UInt8 → Bool} {listing : List (List UInt8)} {e e' : Entry}
  {d : Directory} {ε : Type}

/-! ## Expired logs -/

/-- At time `now` an entry is a session log that is not kept any longer: a file that is named as
session logs are and was last changed more than seven days before. -/
structure Entry.IsExpiredLog (now : Int) (e : Entry) : Prop where
  kind : e.kind = .file
  name : ∃ text : String, e.name = nameBytes text ∧
    "session-".toList <+: text.toList ∧ ".log".toList <:+ text.toList
  age : ∃ m, e.modified = some m ∧ m ≤ now ∧ 7 * 24 * 60 * 60 * 1000000000 < now - m

/-- A name has a text only if it is UTF-8, and then the one of which it is the bytes. -/
theorem Entry.text?_eq_some_iff {text : String} :
    e.text? = some text ↔ e.name = nameBytes text := by
  unfold Entry.text? String.fromUTF8? nameBytes
  constructor
  · intro h
    split at h
    case isTrue valid =>
      cases h
      show e.name = e.name.toArray.toList
      simp
    case isFalse => cases h
  · intro h
    have bytes : (⟨e.name.toArray⟩ : ByteArray) = text.toUTF8 := by rw [h]
    have valid : (⟨e.name.toArray⟩ : ByteArray).IsValidUTF8 := by
      rw [bytes]
      exact text.isValidUTF8
    rw [dif_pos valid]
    congr 1
    exact String.toByteArray_inj.mp bytes

theorem isSessionLogName_iff {name : String} :
    isSessionLogName name = true ↔
      "session-".toList <+: name.toList ∧ ".log".toList <:+ name.toList := by
  simp [isSessionLogName, nameStart, nameEnd]

theorem Entry.isExpired_iff : e.isExpired now = true ↔ e.IsExpiredLog now := by
  simp only [Entry.isExpired, Bool.and_eq_true, beq_iff_eq, Option.any_eq_true,
    isSessionLogName_iff, Entry.text?_eq_some_iff, decide_eq_true_eq]
  unfold retention
  constructor
  · rintro ⟨⟨kind, name⟩, m, modified, age⟩
    exact ⟨kind, name, m, modified, by omega, age⟩
  · rintro ⟨kind, name, m, modified, -, age⟩
    exact ⟨⟨kind, name⟩, m, modified, age⟩

/-! ## Directories -/

namespace Directory

/-- An entry is known by its name. -/
theorem eq_of_name_eq (he : e ∈ d.entries) (he' : e' ∈ d.entries) (h : e.name = e'.name) :
    e = e' :=
  List.inj_on_of_nodup_map d.names_nodup he he' h

theorem mem_of_find? {name : List UInt8} (h : d.find? readable name = some e) :
    e ∈ d.entries ∧ e.name = name ∧ readable name = true := by
  have found := List.find?_some h
  simp only [Bool.and_eq_true, beq_iff_eq] at found
  obtain ⟨rfl, hr⟩ := found
  exact ⟨List.mem_of_find?_eq_some h, rfl, hr⟩

theorem find?_eq_some_iff {name : List UInt8} :
    d.find? readable name = some e ↔ e ∈ d.entries ∧ e.name = name ∧ readable name = true := by
  refine ⟨mem_of_find?, ?_⟩
  rintro ⟨he, rfl, hr⟩
  cases h : d.find? readable e.name with
  | none =>
    have absent := List.find?_eq_none.mp h e he
    simp [hr] at absent
  | some e' =>
    obtain ⟨he', hn, -⟩ := mem_of_find? h
    rw [eq_of_name_eq he' he hn]

theorem mem_entries_filter {keep : Entry → Bool} :
    e ∈ (d.filter keep).entries ↔ e ∈ d.entries ∧ keep e = true :=
  List.mem_filter

theorem filter_congr {keep keep' : Entry → Bool} (h : ∀ e ∈ d.entries, keep e = keep' e) :
    d.filter keep = d.filter keep' :=
  Directory.ext (List.filter_congr h)

theorem filter_eq_self {keep : Entry → Bool} (h : ∀ e ∈ d.entries, keep e = true) :
    d.filter keep = d :=
  Directory.ext (List.filter_eq_self.mpr h)

theorem filter_filter {keep keep' : Entry → Bool} :
    (d.filter keep).filter keep' = d.filter fun e => keep' e && keep e :=
  Directory.ext (by simp [filter, List.filter_filter, Bool.and_comm])

theorem name_mem_names (he : e ∈ d.entries) : e.name ∈ d.names := List.mem_map_of_mem he

end Directory

/-! ## Runs -/

open Directory

/-- Whether an entry is deleted by a run over a listing. -/
def Entry.isDeleted (now : Int) (readable : List UInt8 → Bool) (listing : List (List UInt8))
    (e : Entry) : Bool :=
  listing.contains e.name && (readable e.name && e.isExpired now)

theorem Entry.isDeleted_iff :
    e.isDeleted now readable listing = true ↔
      e.name ∈ listing ∧ readable e.name = true ∧ e.IsExpiredLog now := by
  simp [Entry.isDeleted, Entry.isExpired_iff]

theorem run_deleteIfExpired (name : List UInt8) :
    (deleteIfExpired now (look readable) (delete ε) name).run d =
      (none,
        if (d.find? readable name).any (·.isExpired now) then d.filter (·.name != name) else d) := by
  have seen : (look readable name).run d = (d.find? readable name, d) := rfl
  unfold deleteIfExpired
  rw [StateT.run_bind, seen]
  cases d.find? readable name with
  | none => rfl
  | some e =>
    show (if e.isExpired now then _ else pure none : StateM Directory (Option ε)).run d = _
    rw [Option.any_some]
    cases e.isExpired now with
    | false => rfl
    | true => rfl

/-- One turn deletes the entry that it looks at, if that is an expired log, and no other. -/
theorem run_deleteIfExpired_eq_filter (name : List UInt8) :
    (deleteIfExpired now (look readable) (delete ε) name).run d =
      (none, d.filter (!·.isDeleted now readable [name])) := by
  rw [run_deleteIfExpired]
  congr 1
  cases h : (d.find? readable name).any (·.isExpired now) with
  | false =>
    symm
    refine filter_eq_self fun e he => ?_
    rw [Bool.not_eq_true', ← Bool.not_eq_true]
    intro deleted
    obtain ⟨hn, hr, expired⟩ := Entry.isDeleted_iff.mp deleted
    obtain rfl : e.name = name := by simpa using hn
    rw [find?_eq_some_iff.mpr ⟨he, rfl, hr⟩, Option.any_some, Entry.isExpired_iff.mpr expired] at h
    cases h
  | true =>
    obtain ⟨e₀, found, expired⟩ := (Option.any_eq_true _ _).mp h
    obtain ⟨he₀, rfl, hr⟩ := find?_eq_some_iff.mp found
    refine filter_congr fun e he => ?_
    by_cases hn : e.name = e₀.name
    · obtain rfl := eq_of_name_eq he he₀ hn
      simp [Entry.isDeleted, hr, expired]
    · simp [Entry.isDeleted, hn]

/-- A run over a listing deletes the expired logs that are listed, and no other entry. -/
theorem run_deleteExpired (listing : List (List UInt8)) :
    (deleteExpired now (look readable) (delete ε) listing).run d =
      ([], d.filter (!·.isDeleted now readable listing)) := by
  induction listing generalizing d with
  | nil =>
    show ([], d) = _
    rw [filter_eq_self fun e _ => by simp [Entry.isDeleted]]
  | cons name rest ih =>
    simp only [deleteExpired, StateT.run_bind, run_deleteIfExpired_eq_filter, ih]
    show ([], filter _ (filter _ d)) = _
    rw [filter_filter]
    congr 1
    refine filter_congr fun e _ => ?_
    simp only [Entry.isDeleted, List.contains_cons, List.contains_nil, Bool.or_false,
      Bool.and_or_distrib_right, Bool.not_or]
    exact Bool.and_comm _ _

/-- A run over all that a directory lists deletes the expired logs, whatever the order. -/
theorem run_deleteExpired_of_perm (h : listing.Perm d.names) :
    (deleteExpired now (look readable) (delete ε) listing).run d =
      ([], d.filter fun e => !(readable e.name && e.isExpired now)) := by
  rw [run_deleteExpired]
  congr 1
  refine filter_congr fun e he => ?_
  have listed : listing.contains e.name = true := by simpa using h.mem_iff.mpr (name_mem_names he)
  rw [Entry.isDeleted, listed, Bool.true_and]

/-- If everything is readable, what is left of the entries is what `cleanUp` leaves. -/
theorem entries_run_deleteExpired (now : Int) (ε : Type) (h : listing.Perm d.names)
    (hread : ∀ e ∈ d.entries, readable e.name = true) :
    ((deleteExpired now (look readable) (delete ε) listing).run d).2.entries =
      cleanUp now d.entries := by
  rw [run_deleteExpired_of_perm h]
  exact List.filter_congr fun e he => by rw [hread e he, Bool.true_and]

/-! ## The main result -/

/-- The session logs that are deleted are those that have expired, and nothing else is deleted: of
the readable entries the files named as session logs are, last changed more than seven days before.
What is left is in the order in which it was, and where everything is readable it is what `cleanUp`
leaves. The order in which the directory is listed does not matter, and a second run at the same
time deletes nothing. -/
theorem exactly_expired_logs_deleted (now : Int) (readable : List UInt8 → Bool) (d : Directory)
    (ε : Type) (listing : List (List UInt8)) (h : listing.Perm d.names) :
    ∃ d' : Directory,
      (deleteExpired now (look readable) (delete ε) listing).run d = ([], d') ∧
      (∀ e, e ∈ d'.entries ↔
        e ∈ d.entries ∧ ¬ (readable e.name = true ∧ e.IsExpiredLog now)) ∧
      d'.entries.Sublist d.entries ∧
      ((∀ e ∈ d.entries, readable e.name = true) → d'.entries = cleanUp now d.entries) ∧
      (∀ other, other.Perm d.names →
        (deleteExpired now (look readable) (delete ε) other).run d = ([], d')) ∧
      ∀ again, again.Perm d'.names →
        (deleteExpired now (look readable) (delete ε) again).run d' = ([], d') := by
  refine ⟨_, run_deleteExpired_of_perm h, fun e => ?left, List.filter_sublist,
    fun hread => ?readable, fun other ho => run_deleteExpired_of_perm ho, fun again ha => ?again⟩
  case left =>
    rw [mem_entries_filter, ← Entry.isExpired_iff, Bool.not_eq_true', ← Bool.not_eq_true,
      Bool.and_eq_true]
  case readable =>
    have hentries := entries_run_deleteExpired now ε h hread
    rwa [run_deleteExpired_of_perm h] at hentries
  case again =>
    rw [run_deleteExpired_of_perm ha, filter_filter]
    simp

/-- An old log and what looks like one: a log of a week to the nanosecond, a directory, a link, a
file with another ending, one of unknown age, and one whose name is no text. -/
def lookAlikes : Directory where
  entries :=
    [⟨nameBytes "session-1.log", .file, some 0⟩, ⟨nameBytes "session-2.log", .file, some 1⟩,
      ⟨nameBytes "session-3.log", .directory, some 0⟩,
      ⟨nameBytes "session-4.log", .link, some 0⟩, ⟨nameBytes "session-5.txt", .file, some 0⟩,
      ⟨nameBytes "session-6.log", .file, none⟩,
      ⟨nameBytes "session-" ++ [0xff] ++ nameBytes ".log", .file, some 0⟩]
  names_nodup := by decide

/-- Listed in reverse, only the old log is deleted. -/
theorem look_alikes_of_expired_log_kept :
    lookAlikes.names.reverse.Perm lookAlikes.names ∧
      ∃ d', (deleteExpired (7 * 24 * 60 * 60 * 1000000000 + 1) (look fun _ => true)
          (delete FileError) lookAlikes.names.reverse).run lookAlikes = ([], d') ∧
        ∀ e, e ∈ d'.entries ↔ e ∈ lookAlikes.entries ∧ e.name ≠ nameBytes "session-1.log" := by
  have expired : ∀ e ∈ lookAlikes.entries,
      e.isExpired (7 * 24 * 60 * 60 * 1000000000 + 1) = true ↔
        e.name = nameBytes "session-1.log" := by decide +kernel
  obtain ⟨d', run, left, -⟩ := exactly_expired_logs_deleted
    (7 * 24 * 60 * 60 * 1000000000 + 1) (fun _ => true) lookAlikes FileError
    lookAlikes.names.reverse (List.reverse_perm _)
  refine ⟨List.reverse_perm _, d', run, fun e => (left e).trans ?_⟩
  refine and_congr_right fun he => not_congr ?_
  rw [← expired e he, Entry.isExpired_iff, eq_self, true_and]

end PromqlEditor.Logging
