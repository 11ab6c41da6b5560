import PromqlEditor.Service.History

/-!
# What runs leave behind

A session is what its steps made of a new one (`Session.after`), and the reply to a step depends on
the steps before it alone (`getElem?_run_append`). What a step finds is read off those: the
strategies in the slots are the ones that were put there last (`completion_after`, `lint_after`),
extensions are numbered in the order in which they were composed (`extensions_run`), and a gate is
open once it was released (`openGates_run`).
-/

namespace PromqlEditor

/-- The extensions that a step composes. -/
def Step.composed (x : Step) : List Extension :=
  match x.operation with
  | .compose => [x.handle.extension]
  | _ => []

/-- The gates that a step opens. -/
def Step.released (x : Step) : List String :=
  match x.operation with
  | .release gate => [gate]
  | _ => []

/-- The gates that are open after steps, if `gates` are open before. -/
def gatesAfter (gates : List String) (xs : List Step) : List String :=
  xs.foldl (fun gates x => x.released ++ gates) gates

/-- Leaving out what a function gives nothing for makes no difference to what it gives. -/
theorem filterMap_filter_of_none {α β : Type} {f : α → Option β} {p : α → Bool}
    (h : ∀ x, p x = false → f x = none) (l : List α) : (l.filter p).filterMap f = l.filterMap f := by
  induction l with
  | nil => rfl
  | cons x l ih =>
    by_cases hx : p x = true
    · rw [List.filter_cons_of_pos hx, List.filterMap_cons, List.filterMap_cons, ih]
    · rw [List.filter_cons_of_neg hx, ih, List.filterMap_cons, h x (Bool.eq_false_iff.2 hx)]

/-- What a function gives last is what it gives for a member behind which it gives nothing. -/
theorem getLast?_filterMap_append_cons {α β : Type} {f : α → Option β} {x : α} {b : β}
    (hx : f x = some b) {ys : List α} (hys : ys.filterMap f = []) (xs : List α) :
    ((xs ++ x :: ys).filterMap f).getLast? = some b := by
  rw [List.filterMap_append, List.filterMap_cons_some hx, hys, List.getLast?_concat]

/-- A slot holds what was put into it last. -/
theorem Slot.strategy_foldl_put {σ : Type} (slot : Slot σ) (l : List σ) :
    (l.foldl Slot.put slot).strategy = l.getLast?.getD slot.strategy := by
  induction l generalizing slot with
  | nil => rfl
  | cons a l ih =>
    rw [List.foldl_cons, ih, Slot.put, List.getLast?_cons, Option.getD_some]

/-- The revision of a slot counts what was put into it. -/
theorem Slot.revision_foldl_put {σ : Type} (slot : Slot σ) (l : List σ) :
    (l.foldl Slot.put slot).revision = slot.revision + l.length := by
  induction l generalizing slot with
  | nil => rfl
  | cons a l ih =>
    rw [List.foldl_cons, ih, List.length_cons, Nat.add_comm l.length 1, ← Nat.add_assoc]
    rfl

namespace Session

/-- The session that steps make of a new one. -/
def after (xs : List Step) : Session := (({} : Session).run xs).1

/-- The reply to a step that is made after others. -/
def replyAfter (xs : List Step) (x : Step) : Reply := ((after xs).step x).2

/-! ## Runs -/

theorem run_append (s : Session) (xs ys : List Step) :
    s.run (xs ++ ys) =
      (((s.run xs).1.run ys).1, (s.run xs).2 ++ ((s.run xs).1.run ys).2) := by
  induction xs generalizing s with
  | nil => rfl
  | cons x xs ih => simp only [List.cons_append, run, ih]

theorem after_append (xs ys : List Step) : after (xs ++ ys) = ((after xs).run ys).1 := by
  rw [after, run_append, after]

theorem after_concat (xs : List Step) (x : Step) :
    after (xs ++ [x]) = ((after xs).step x).1 := after_append xs [x]

theorem length_replies (s : Session) (xs : List Step) : (s.run xs).2.length = xs.length := by
  induction xs generalizing s with
  | nil => rfl
  | cons x xs ih => simp only [run, List.length_cons, ih]

/-- Whatever follows a step, a run replies to it as to the last of the steps so far. -/
theorem getElem?_run_append (xs ys : List Step) (x : Step) :
    (({} : Session).run (xs ++ x :: ys)).2[xs.length]? = some (replyAfter xs x) := by
  rw [run_append, List.getElem?_append_right (Nat.le_of_eq (length_replies _ xs)),
    length_replies, Nat.sub_self]
  rfl

/-! ## One step -/

theorem through_of_getElem? {s : Session} {extension : Nat} {e : Extension}
    (he : s.extensions[extension]? = some e) (f : Extension → Session × Reply) :
    s.through extension f = f e := by
  rw [through, he]

theorem exists_start_eq (s : Session) (h : Handle) (r : Request) :
    ∃ pending, (s.start h r).1 = { s with pending, begun := s.begun + 1 } := by
  simp only [start]
  split <;> exact ⟨_, rfl⟩

theorem exists_resume_eq (s : Session) (ticket : Nat) :
    ∃ pending, (s.resume ticket).1 = { s with pending } := by
  unfold resume
  split
  · exact ⟨_, rfl⟩
  · split <;> exact ⟨_, rfl⟩

/-- What a step does to the extensions and to the open gates. -/
theorem extensions_and_openGates_step (s : Session) (x : Step) :
    (s.step x).1.extensions = s.extensions ++ x.composed ∧
      (s.step x).1.openGates = x.released ++ s.openGates := by
  have same : s.extensions = s.extensions ++ [] := (List.append_nil _).symm
  obtain ⟨h, op⟩ := x
  cases op with
  | installCompletion | installLint | setCompletion | setLint | apply =>
    rw [step, perform, fst_change]
    exact ⟨same, rfl⟩
  | compose => exact ⟨rfl, rfl⟩
  | complete | lint | activeLint | classify =>
    exact through_of
      (p := fun s' => s'.extensions = s.extensions ++ [] ∧ s'.openGates = s.openGates)
      ⟨same, rfl⟩ fun _ => ⟨same, rfl⟩
  | begin extension r =>
    refine through_of
      (p := fun s' => s'.extensions = s.extensions ++ [] ∧ s'.openGates = s.openGates)
      ⟨same, rfl⟩ fun e => ?_
    obtain ⟨pending, hstart⟩ := s.exists_start_eq e.completion r
    rw [hstart]
    exact ⟨same, rfl⟩
  | poll ticket =>
    obtain ⟨pending, hresume⟩ := s.exists_resume_eq ticket
    rw [step, perform, hresume]
    exact ⟨same, rfl⟩
  | _ => exact ⟨same, rfl⟩

/-! ## Many steps -/

theorem extensions_run (s : Session) (xs : List Step) :
    (s.run xs).1.extensions = s.extensions ++ xs.flatMap Step.composed := by
  induction xs generalizing s with
  | nil => exact (List.append_nil _).symm
  | cons x xs ih =>
    rw [run, ih, (s.extensions_and_openGates_step x).1, List.append_assoc, List.flatMap_cons]

theorem openGates_run (s : Session) (xs : List Step) :
    (s.run xs).1.openGates = gatesAfter s.openGates xs := by
  induction xs generalizing s with
  | nil => rfl
  | cons x xs ih =>
    rw [run, ih, (s.extensions_and_openGates_step x).2]
    rfl

theorem openGates_after (xs : List Step) : (after xs).openGates = gatesAfter [] xs :=
  openGates_run {} xs

/-- A service completes with the strategy that was put in place last. -/
theorem completion_after (h : Handle) (xs : List Step) :
    ((after xs).services h).completion.strategy = lastCompletion h xs := by
  rw [after, completion_run, Slot.strategy_foldl_put]
  rfl

/-- A service lints with the strategy that was put in place last. -/
theorem lint_after (h : Handle) (xs : List Step) :
    ((after xs).services h).lint.strategy = lastLint h xs := by
  rw [after, lint_run, Slot.strategy_foldl_put]
  rfl

/-- What a step puts in place for completion stays there until something else is put in place. -/
theorem lastCompletion_of_put {h : Handle} {x : Step} {σ : CompletionStrategy}
    (hx : x.completion? h = some σ) {ys : List Step} (hys : completionHistory h ys = [])
    (xs : List Step) : lastCompletion h (xs ++ x :: ys) = σ := by
  rw [lastCompletion, completionHistory, getLast?_filterMap_append_cons hx hys]
  rfl

/-- What a step puts in place for linting stays there until something else is put in place. -/
theorem lastLint_of_put {h : Handle} {x : Step} {τ : LintStrategy} (hx : x.lint? h = some τ)
    {ys : List Step} (hys : lintHistory h ys = []) (xs : List Step) :
    lastLint h (xs ++ x :: ys) = τ := by
  rw [lastLint, lintHistory, getLast?_filterMap_append_cons hx hys]
  rfl

/-- An extension keeps its number, and the references that it was composed with. -/
theorem extensions_after_compose (xs ys : List Step) (h : Handle) :
    (after (xs ++ ⟨h, .compose⟩ :: ys)).extensions[(after xs).extensions.length]? =
      some h.extension := by
  rw [after_append, extensions_run, List.getElem?_append_right (Nat.le_refl _), Nat.sub_self]
  rfl

end Session

end PromqlEditor
