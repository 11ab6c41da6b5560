import PromqlEditor.Service.Session

/-!
# The history of a session

What has been put into the two slots of a service, read off the steps of a session alone. A slot
holds what was put into it last, and its revision counts what was put into it (`completion_run`,
`lint_run`), so what the slots hold never depends on requests or extensions, and on handles only in
that they tell the services apart.
-/

namespace PromqlEditor

namespace Operation

/-- The strategy that an operation puts in place for completion, if it does. -/
def completion? : Operation → Option CompletionStrategy
  | .installCompletion settings => (CompletionStrategy.ofSettings settings).toOption
  | .setCompletion strategy => some strategy
  | .apply settings => (CompletionStrategy.ofSettings settings.completion).toOption
  | _ => none

/-- The strategy that an operation puts in place for linting, if it does. Settings whose section on
completion is refused are not applied at all. -/
def lint? : Operation → Option LintStrategy
  | .installLint settings => some (.ofSettings settings)
  | .setLint strategy => some strategy
  | .apply settings =>
    (CompletionStrategy.ofSettings settings.completion).toOption.map fun _ =>
      .ofSettings settings.lint
  | _ => none

/-- Whether an operation is about completion and nothing else. -/
def isCompletion : Operation → Bool
  | .installCompletion _ | .setCompletion _ | .complete .. | .completeDirect _ | .begin .. |
    .poll _ => true
  | _ => false

/-- Whether an operation is about linting and nothing else. -/
def isLint : Operation → Bool
  | .installLint _ | .setLint _ | .lint .. | .lintDirect .. | .activeLint _ => true
  | _ => false

end Operation

/-- The strategy that a step puts in place for completion in the service of a handle, if it
does. -/
def Step.completion? (h : Handle) (x : Step) : Option CompletionStrategy :=
  if x.handle = h then x.operation.completion? else none

/-- The strategy that a step puts in place for linting in the service of a handle, if it does. -/
def Step.lint? (h : Handle) (x : Step) : Option LintStrategy :=
  if x.handle = h then x.operation.lint? else none

/-- What steps put in place for completion in the service of a handle, in order. -/
def completionHistory (h : Handle) (xs : List Step) : List CompletionStrategy :=
  xs.filterMap (Step.completion? h)

/-- What steps put in place for linting in the service of a handle, in order. -/
def lintHistory (h : Handle) (xs : List Step) : List LintStrategy := xs.filterMap (Step.lint? h)

/-- The strategy for completion in the service of a handle after steps that start with a new
session. -/
def lastCompletion (h : Handle) (xs : List Step) : CompletionStrategy :=
  (completionHistory h xs).getLast?.getD (.vocabulary {})

/-- The strategy for linting in the service of a handle after steps that start with a new
session. -/
def lastLint (h : Handle) (xs : List Step) : LintStrategy :=
  (lintHistory h xs).getLast?.getD (.syntaxErrors {})

namespace Session

/-! ## One operation -/

@[simp] theorem services_put_self (s : Session) (h : Handle) (service : Service) :
    (s.put h service).services h = service := if_pos rfl

theorem services_put_of_ne (s : Session) {g h : Handle} (service : Service) (hne : g ≠ h) :
    (s.put h service).services g = s.services g := if_neg hne

@[simp] theorem fst_change (s : Session) (h : Handle) (c : Service × Option InstallError) :
    (s.change h c).1 = s.put h c.1 := by
  obtain ⟨_, _ | _⟩ := c <;> rfl

/-- What is true of a session stays true through an extension if all that is done there keeps it
true. -/
theorem through_of {p : Session → Prop} {s : Session} {extension : Nat}
    {f : Extension → Session × Reply} (hs : p s) (hf : ∀ e, p (f e).1) :
    p (s.through extension f).1 := by
  unfold through
  split
  · exact hf _
  · exact hs

theorem services_through {s : Session} {extension : Nat} {f : Extension → Session × Reply}
    (h : ∀ e, (f e).1.services = s.services) : (s.through extension f).1.services = s.services :=
  through_of (p := fun s' => s'.services = s.services) rfl h

@[simp] theorem services_start (s : Session) (h : Handle) (r : Request) :
    (s.start h r).1.services = s.services := by
  simp only [start]
  split <;> rfl

@[simp] theorem services_resume (s : Session) (ticket : Nat) :
    (s.resume ticket).1.services = s.services := by
  unfold resume
  split
  · rfl
  · split <;> rfl

/-- An operation leaves the services of other handles alone. -/
theorem services_perform_of_ne (s : Session) {g h : Handle} (op : Operation) (hne : g ≠ h) :
    (s.perform h op).1.services g = s.services g := by
  cases op with
  | installCompletion | installLint | setCompletion | setLint | apply =>
    rw [perform, fst_change, services_put_of_ne s _ hne]
  | complete | lint | activeLint | classify | begin =>
    rw [perform, services_through fun _ => by simp]
  | poll => rw [perform, services_resume]
  | _ => rfl

/-- What an operation leaves in the slot for completion. -/
theorem completion_perform (s : Session) (h : Handle) (op : Operation) :
    ((s.perform h op).1.services h).completion =
      op.completion?.elim (s.services h).completion (s.services h).completion.put := by
  cases op with
  | installCompletion settings =>
    simp only [perform, fst_change, services_put_self, Service.installCompletion,
      Operation.completion?]
    split <;> simp [*, Except.toOption, Service.setCompletion]
  | installLint | setCompletion | setLint =>
    simp [perform, Operation.completion?, Service.installLint, Service.setLint,
      Service.setCompletion]
  | apply settings =>
    simp only [perform, fst_change, services_put_self, Service.apply,
      Service.installCompletion, Operation.completion?]
    cases CompletionStrategy.ofSettings settings.completion <;>
      simp [Except.toOption, Service.setCompletion, Service.installLint, Service.setLint]
  | complete | lint | activeLint | classify | begin =>
    simp [perform, services_through, Operation.completion?]
  | poll => simp [perform, Operation.completion?]
  | _ => rfl

/-- What an operation leaves in the slot for linting. -/
theorem lint_perform (s : Session) (h : Handle) (op : Operation) :
    ((s.perform h op).1.services h).lint =
      op.lint?.elim (s.services h).lint (s.services h).lint.put := by
  cases op with
  | installCompletion settings =>
    simp only [perform, fst_change, services_put_self, Service.installCompletion,
      Operation.lint?]
    split <;> rfl
  | installLint | setCompletion | setLint =>
    simp [perform, Operation.lint?, Service.installLint, Service.setLint, Service.setCompletion]
  | apply settings =>
    simp only [perform, fst_change, services_put_self, Service.apply,
      Service.installCompletion, Operation.lint?]
    cases CompletionStrategy.ofSettings settings.completion <;>
      simp [Except.toOption, Service.setCompletion, Service.installLint, Service.setLint]
  | complete | lint | activeLint | classify | begin =>
    simp [perform, services_through, Operation.lint?]
  | poll => simp [perform, Operation.lint?]
  | _ => rfl

/-- What a step leaves in a slot for completion. -/
theorem completion_step (s : Session) (h : Handle) (x : Step) :
    ((s.step x).1.services h).completion =
      (x.completion? h).elim (s.services h).completion (s.services h).completion.put := by
  by_cases hh : x.handle = h
  · subst hh
    rw [step, completion_perform, Step.completion?, if_pos rfl]
  · rw [step, services_perform_of_ne s _ (Ne.symm hh), Step.completion?, if_neg hh]
    rfl

/-- What a step leaves in a slot for linting. -/
theorem lint_step (s : Session) (h : Handle) (x : Step) :
    ((s.step x).1.services h).lint =
      (x.lint? h).elim (s.services h).lint (s.services h).lint.put := by
  by_cases hh : x.handle = h
  · subst hh
    rw [step, lint_perform, Step.lint?, if_pos rfl]
  · rw [step, services_perform_of_ne s _ (Ne.symm hh), Step.lint?, if_neg hh]
    rfl

/-! ## Runs -/

/-- What steps leave in a slot for completion. -/
theorem completion_run (s : Session) (h : Handle) (xs : List Step) :
    ((s.run xs).1.services h).completion =
      (completionHistory h xs).foldl Slot.put (s.services h).completion := by
  induction xs generalizing s with
  | nil => rfl
  | cons x xs ih =>
    simp only [run, ih, completion_step, completionHistory, List.filterMap_cons]
    cases x.completion? h <;> rfl

/-- What steps leave in a slot for linting. -/
theorem lint_run (s : Session) (h : Handle) (xs : List Step) :
    ((s.run xs).1.services h).lint = (lintHistory h xs).foldl Slot.put (s.services h).lint := by
  induction xs generalizing s with
  | nil => rfl
  | cons x xs ih =>
    simp only [run, ih, lint_step, lintHistory, List.filterMap_cons]
    cases x.lint? h <;> rfl

end Session

end PromqlEditor
