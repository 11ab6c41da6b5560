import Mathlib.Data.List.Infix
import PromqlEditor.Logging.Start

/-!
# The first start decides

A process may start to log many times, with and without a session log and whatever its files are
like. An installer that keeps the first logger and says so is all that is assumed of the logging
library. One start then fails exactly if a step of opening its session log fails, and leaves the
logger alone if it does; a start that goes well puts its logger in place if there is none. By
induction over the starts, the logger in place is the one of the first start that went well.
-/

namespace PromqlEditor.Logging

variable {install : Installer} {inPlace : Option Wish} {wish : Wish} {steps : FileSteps}
  {calls : List (Wish × FileSteps)} {e : FileError} {i k : Nat}

/-! ## What is assumed of the installer -/

/-- The first logger that is offered is put in place, and every other is refused, in words that say
why. -/
structure Installer.KeepsFirst (install : Installer) : Prop where
  first : ∀ wish, install none wish = (some wish, .ok ())
  refuses : ∀ inPlace wish, ∃ words, install (some inPlace) wish = (some inPlace, .error words) ∧
    "already been set".toList <:+: words.toList

theorem occursIn_iff {part text : List Char} : occursIn part text = true ↔ part <:+: text := by
  induction text with
  | nil => simp [occursIn]
  | cons c rest ih => simp [occursIn, ih, List.infix_cons_iff]

theorem saysAlreadySet_of_occurs {words : String}
    (h : "already been set".toList <:+: words.toList) : saysAlreadySet words = true := by
  unfold saysAlreadySet
  rw [occursIn_iff.mpr h, Bool.true_or]

theorem Installer.keepsFirst_library : library.KeepsFirst where
  first _ := rfl
  refuses _ _ := ⟨_, rfl, occursIn_iff.mp (by decide)⟩

/-- The second logger is refused, and its start goes well all the same. -/
theorem Installer.KeepsFirst.put (h : install.KeepsFirst) (inPlace : Option Wish) (wish : Wish) :
    install.put inPlace wish = (some (inPlace.getD wish), .ok ()) := by
  unfold Installer.put
  cases inPlace with
  | none => rw [h.first]; rfl
  | some first =>
    obtain ⟨words, refused, hwords⟩ := h.refuses first wish
    rw [refused]
    simp [saysAlreadySet_of_occurs hwords]

/-! ## One start -/

/-- The first step of opening a session log that fails, fails with an error. -/
inductive FileSteps.FailsWith (steps : FileSteps) (e : FileError) : Prop
  | cacheDirectory : steps.cacheDirectory = .error e → FailsWith steps e
  | directory : steps.cacheDirectory = .ok () → steps.directory = .error e → FailsWith steps e
  | listing : steps.cacheDirectory = .ok () → steps.directory = .ok () →
      steps.listing = .error e → FailsWith steps e
  | file : steps.cacheDirectory = .ok () → steps.directory = .ok () → steps.listing = .ok () →
      steps.file = .error e → FailsWith steps e

theorem FileSteps.openLog_eq_error_iff : steps.openLog = .error e ↔ steps.FailsWith e := by
  unfold openLog
  constructor
  · intro h
    cases hcache : steps.cacheDirectory with
    | error _ =>
      rw [hcache] at h
      exact .cacheDirectory (hcache.trans h)
    | ok _ =>
    cases hdirectory : steps.directory with
    | error _ =>
      rw [hcache, hdirectory] at h
      exact .directory hcache (hdirectory.trans h)
    | ok _ =>
    cases hlisting : steps.listing with
    | error _ =>
      rw [hcache, hdirectory, hlisting] at h
      exact .listing hcache hdirectory (hlisting.trans h)
    | ok _ =>
      rw [hcache, hdirectory, hlisting] at h
      exact .file hcache hdirectory hlisting h
  · intro h
    cases h with
    | cacheDirectory h => rw [h]; rfl
    | directory h₁ h => rw [h₁, h]; rfl
    | listing h₁ h₂ h => rw [h₁, h₂, h]; rfl
    | file h₁ h₂ h₃ h => rw [h₁, h₂, h₃, h]; rfl

/-- A start either fails and leaves the logger alone, or goes well and there is a logger afterwards:
the one that was in place, or else its own. -/
theorem Installer.KeepsFirst.start_cases (h : install.KeepsFirst) (inPlace : Option Wish)
    (wish : Wish) (opened : Except FileError Unit) :
    (∃ e, install.start inPlace wish opened = (inPlace, .error e)) ∨
      install.start inPlace wish opened = (some (inPlace.getD wish), .ok ()) := by
  unfold Installer.start
  rw [h.put]
  cases if wish.sessionLog then opened else .ok () with
  | error e => exact .inl ⟨e, rfl⟩
  | ok _ => exact .inr rfl

/-- Nothing but the file system makes a start fail, and only one that asks for a session log. -/
theorem Installer.KeepsFirst.snd_start_eq_error_iff (h : install.KeepsFirst) :
    (install.start inPlace wish steps.openLog).2 = .error e ↔
      wish.sessionLog = true ∧ steps.FailsWith e := by
  unfold Installer.start
  rw [h.put, ← FileSteps.openLog_eq_error_iff]
  cases wish.sessionLog with
  | false => simp
  | true => cases steps.openLog <;> simp

/-! ## Many starts -/

namespace Installer

/-- The logger that is in place after the first `k` of several starts. -/
def inPlaceAfter (install : Installer) (calls : List (Wish × FileSteps)) (k : Nat) : Option Wish :=
  (install.startAll none (calls.take k)).1

/-- How each of several starts goes. -/
def results (install : Installer) (calls : List (Wish × FileSteps)) : List (Except FileError Unit) :=
  (install.startAll none calls).2

theorem startAll_append (inPlace : Option Wish) (calls later : List (Wish × FileSteps)) :
    install.startAll inPlace (calls ++ later) =
      ((install.startAll (install.startAll inPlace calls).1 later).1,
        (install.startAll inPlace calls).2 ++
          (install.startAll (install.startAll inPlace calls).1 later).2) := by
  induction calls generalizing inPlace with
  | nil => rfl
  | cons call rest ih =>
    simp only [List.cons_append, startAll, ih]

theorem length_startAll (inPlace : Option Wish) (calls : List (Wish × FileSteps)) :
    (install.startAll inPlace calls).2.length = calls.length := by
  induction calls generalizing inPlace with
  | nil => rfl
  | cons call rest ih => simp [startAll, ih]

theorem length_results : (install.results calls).length = calls.length := length_startAll none calls

/-- The start at a position is made with the logger that those before it leave in place. -/
theorem exists_result_eq (install : Installer) (h : calls[i]? = some (wish, steps)) :
    ∃ result, (install.results calls)[i]? = some result ∧
      install.start (install.inPlaceAfter calls i) wish steps.openLog =
        (install.inPlaceAfter calls (i + 1), result) := by
  obtain ⟨hi, hcall⟩ := List.getElem?_eq_some_iff.mp h
  have upTo : calls.take (i + 1) = calls.take i ++ [(wish, steps)] := by
    rw [List.take_succ_eq_append_getElem hi, hcall]
  have split : calls.take i ++ (wish, steps) :: calls.drop (i + 1) = calls := by
    rw [← hcall, List.cons_getElem_drop_succ, List.take_append_drop]
  have before : (install.startAll none (calls.take i)).2.length = i := by
    rw [length_startAll, List.length_take_of_le hi.le]
  refine ⟨(install.start (install.inPlaceAfter calls i) wish steps.openLog).2, ?_, ?_⟩
  · unfold results
    conv_lhs => rw [← split]
    rw [startAll_append, List.getElem?_append_right before.le, before, Nat.sub_self]
    rfl
  · unfold inPlaceAfter
    rw [upTo, startAll_append]
    rfl

end Installer

open Installer

/-- The start at a position is the first that goes well. -/
def IsFirstOk (results : List (Except FileError Unit)) (i : Nat) : Prop :=
  results[i]? = some (.ok ()) ∧ ∀ j < i, results[j]? ≠ some (.ok ())

theorem IsFirstOk.unique {results : List (Except FileError Unit)} {i j : Nat}
    (hi : IsFirstOk results i) (hj : IsFirstOk results j) : i = j := by
  obtain hlt | heq | hgt := Nat.lt_trichotomy i j
  · exact absurd hi.1 (hj.2 i hlt)
  · exact heq
  · exact absurd hj.1 (hi.2 j hgt)

/-- One more start changes nothing, unless it goes well. -/
theorem Installer.KeepsFirst.inPlaceAfter_succ (h : install.KeepsFirst)
    (calls : List (Wish × FileSteps)) (k : Nat) :
    (install.results calls)[k]? ≠ some (.ok ()) ∧
        install.inPlaceAfter calls (k + 1) = install.inPlaceAfter calls k ∨
      (install.results calls)[k]? = some (.ok ()) ∧ ∃ wish steps, calls[k]? = some (wish, steps) ∧
        install.inPlaceAfter calls (k + 1) = some ((install.inPlaceAfter calls k).getD wish) := by
  cases hcall : calls[k]? with
  | none =>
    have past : calls.length ≤ k := List.getElem?_eq_none_iff.mp hcall
    refine .inl ⟨?_, ?_⟩
    · rw [List.getElem?_eq_none (length_results.le.trans past)]
      simp
    · unfold inPlaceAfter
      rw [List.take_of_length_le past, List.take_of_length_le (past.trans k.le_succ)]
  | some call =>
    obtain ⟨wish, steps⟩ := call
    obtain ⟨result, hresult, hstart⟩ := exists_result_eq install hcall
    obtain ⟨e, stopped⟩ | good :=
      h.start_cases (install.inPlaceAfter calls k) wish steps.openLog
    · obtain ⟨same, rfl⟩ := Prod.mk.inj (stopped.symm.trans hstart)
      exact .inl ⟨by simp [hresult], same.symm⟩
    · obtain ⟨put, rfl⟩ := Prod.mk.inj (good.symm.trans hstart)
      exact .inr ⟨hresult, wish, steps, rfl, put.symm⟩

/-- As long as no start went well there is no logger, and then it is the one of the first. -/
theorem Installer.KeepsFirst.inPlaceAfter_cases (h : install.KeepsFirst)
    (calls : List (Wish × FileSteps)) (k : Nat) :
    install.inPlaceAfter calls k = none ∧
        (∀ j < k, (install.results calls)[j]? ≠ some (.ok ())) ∨
      ∃ i < k, IsFirstOk (install.results calls) i ∧ ∃ wish steps,
        calls[i]? = some (wish, steps) ∧ install.inPlaceAfter calls k = some wish := by
  induction k with
  | zero => exact .inl ⟨rfl, by simp⟩
  | succ k ih =>
    obtain ⟨hk, same⟩ | ⟨hk, wish, steps, hcall, put⟩ := h.inPlaceAfter_succ calls k
    · rw [same]
      obtain ⟨none, before⟩ | ⟨i, hi, first, found⟩ := ih
      · refine .inl ⟨none, fun j hj => ?_⟩
        obtain hlt | rfl := Nat.lt_succ_iff_lt_or_eq.mp hj
        · exact before j hlt
        · exact hk
      · exact .inr ⟨i, hi.trans k.lt_succ_self, first, found⟩
    · rw [put]
      obtain ⟨none, before⟩ | ⟨i, hi, first, w, s, hcall', inPlace⟩ := ih
      · exact .inr ⟨k, k.lt_succ_self, ⟨hk, before⟩, wish, steps, hcall, by rw [none]; rfl⟩
      · exact .inr ⟨i, hi.trans k.lt_succ_self, first, w, s, hcall', by rw [inPlace]; rfl⟩

/-- The logger in place is the one of the first start that went well. -/
theorem Installer.KeepsFirst.inPlaceAfter_eq_some_iff (h : install.KeepsFirst) :
    install.inPlaceAfter calls k = some wish ↔
      ∃ i < k, IsFirstOk (install.results calls) i ∧ ∃ steps, calls[i]? = some (wish, steps) := by
  constructor
  · intro hplace
    obtain ⟨none, -⟩ | ⟨i, hi, first, w, steps, hcall, inPlace⟩ := h.inPlaceAfter_cases calls k
    · rw [none] at hplace
      cases hplace
    · obtain rfl : w = wish := Option.some.inj (inPlace.symm.trans hplace)
      exact ⟨i, hi, first, steps, hcall⟩
  · rintro ⟨i, hi, first, steps, hcall⟩
    obtain ⟨-, before⟩ | ⟨j, -, first', w, steps', hcall', inPlace⟩ := h.inPlaceAfter_cases calls k
    · exact absurd first.1 (before i hi)
    · obtain rfl := first.unique first'
      cases hcall.symm.trans hcall'
      exact inPlace

/-! ## The main result -/

/-- Of any starts of one process, with any wishes and any answers of the file system, one fails if
and only if it asks for a session log that cannot be opened, and then it changes nothing. After any
number of them the logger in place is the one of the first that went well, and there it stays. -/
theorem first_good_start_decides (install : Installer) (h : install.KeepsFirst)
    (calls : List (Wish × FileSteps)) :
    (∀ i wish steps, calls[i]? = some (wish, steps) →
      ∃ result, (install.results calls)[i]? = some result ∧
        (∀ e, result = .error e ↔ wish.sessionLog = true ∧ steps.FailsWith e) ∧
        (result ≠ .ok () → install.inPlaceAfter calls (i + 1) = install.inPlaceAfter calls i)) ∧
    (∀ k wish, install.inPlaceAfter calls k = some wish ↔
      ∃ i < k, IsFirstOk (install.results calls) i ∧ ∃ steps, calls[i]? = some (wish, steps)) ∧
    ∀ k wish, install.inPlaceAfter calls k = some wish →
      ∀ k' ≥ k, install.inPlaceAfter calls k' = some wish := by
  refine ⟨fun i wish steps hcall => ?each, fun k wish => h.inPlaceAfter_eq_some_iff, ?stays⟩
  case each =>
    obtain ⟨result, hresult, hstart⟩ := exists_result_eq install hcall
    refine ⟨result, hresult, fun e => ?_, fun bad => ?_⟩
    · rw [← h.snd_start_eq_error_iff, hstart]
    · obtain ⟨e, stopped⟩ | good :=
        h.start_cases (install.inPlaceAfter calls i) wish steps.openLog
      · exact (Prod.mk.inj (hstart.symm.trans stopped)).1
      · exact absurd (Prod.mk.inj (hstart.symm.trans good)).2 bad
  case stays =>
    intro k wish hplace k' hk
    obtain ⟨i, hi, first, steps, hcall⟩ := h.inPlaceAfter_eq_some_iff.mp hplace
    exact h.inPlaceAfter_eq_some_iff.mpr ⟨i, hi.trans_le hk, first, steps, hcall⟩

/-- The first of four starts asks for a session log in a directory that cannot be listed. The second
asks for none, and its logger stays when the third asks for a session log and gets it. -/
theorem plain_start_decides_after_failure :
    let unlisted : FileSteps := ⟨.ok (), .ok (), .error .notDirectory, .ok ()⟩
    let writable : FileSteps := ⟨.ok (), .ok (), .ok (), .ok ()⟩
    let plain : Wish := ⟨true, .nothing, false⟩
    let withLog : Wish := ⟨true, .nothing, true⟩
    let calls := [(withLog, unlisted), (plain, unlisted), (withLog, writable), (withLog, unlisted)]
    Installer.library.KeepsFirst ∧
      Installer.library.results calls =
        [.error .notDirectory, .ok (), .ok (), .error .notDirectory] ∧
      Installer.library.inPlaceAfter calls 1 = none ∧
      ∀ k ≥ 2, Installer.library.inPlaceAfter calls k = some plain := by
  intro unlisted writable plain withLog calls
  obtain ⟨each, first, stays⟩ :=
    first_good_start_decides Installer.library Installer.keepsFirst_library calls
  have refused : (Installer.library.results calls)[0]? ≠ some (.ok ()) := by
    obtain ⟨result, hresult, fails, -⟩ := each 0 withLog unlisted rfl
    rw [(fails .notDirectory).mpr ⟨rfl, .listing rfl rfl rfl⟩] at hresult
    rw [hresult]
    simp
  refine ⟨Installer.keepsFirst_library, by rfl, rfl, stays 2 plain ?_⟩
  refine (first 2 plain).mpr ⟨1, Nat.one_lt_two, ⟨by rfl, fun j hj => ?_⟩, unlisted, rfl⟩
  rwa [Nat.lt_one_iff.mp hj]

end PromqlEditor.Logging
