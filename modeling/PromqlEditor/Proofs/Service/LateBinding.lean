import PromqlEditor.Proofs.Service.Runs

/-!
# Requests are answered by what was put in place last

An extension finds its service through references, so it does not matter when it was composed or
through which clone of a handle changes are made: each request is answered by the strategy that
was put in place last before it, or by the default one if nothing was
(`requests_answered_by_last`). A change that was refused put nothing in place.
-/

namespace PromqlEditor.Session

/-- Whether the requests that follow some steps are answered by two strategies, both those that go
through an extension, whichever handle is at hand, and those that go through a handle directly. -/
structure AnsweredBy (xs : List Step) (extension : Nat) (h : Handle) (σ : CompletionStrategy)
    (τ : LintStrategy) : Prop where
  complete : ∀ g r, replyAfter xs ⟨g, .complete extension r⟩ =
    if σ.isOpen r (gatesAfter [] xs) then .suggestions (σ.answer r) else .waiting
  completeDirect : ∀ r, replyAfter xs ⟨h, .completeDirect r⟩ =
    if σ.isOpen r (gatesAfter [] xs) then .suggestions (σ.answer r) else .waiting
  begin : ∀ g r, replyAfter xs ⟨g, .begin extension r⟩ =
    if σ.isOpen r (gatesAfter [] xs) then .suggestions (σ.answer r) else .pending (after xs).begun
  lint : ∀ g root t, replyAfter xs ⟨g, .lint extension root t⟩ =
    .diagnostics (if τ.settings.enabled then τ.answer root t else .ok [])
  lintDirect : ∀ root t, replyAfter xs ⟨h, .lintDirect root t⟩ = .diagnostics (τ.answer root t)
  activeLint : ∀ g, replyAfter xs ⟨g, .activeLint extension⟩ =
    .activeLint τ.name τ.settings (lintHistory h xs).length

/-! ## Requests -/

theorem snd_start (s : Session) (h : Handle) (r : Request) :
    (s.start h r).2 =
      if (s.services h).completion.strategy.isOpen r s.openGates then
        .suggestions ((s.services h).completion.strategy.answer r)
      else .pending s.begun := by
  simp only [start]
  split <;> rfl

/-- Requests through an extension, and through the handle that it was composed from, are answered
by what was put in place last. -/
theorem answeredBy_last {xs : List Step} {extension : Nat} {h : Handle}
    (he : (after xs).extensions[extension]? = some h.extension) :
    AnsweredBy xs extension h (lastCompletion h xs) (lastLint h xs) where
  complete g r := by
    rw [replyAfter, step, perform, through_of_getElem? he, reply, openGates_after,
      ← completion_after]
    rfl
  completeDirect r := by
    rw [replyAfter, step, perform, reply, openGates_after, ← completion_after]
  begin g r := by
    rw [replyAfter, step, perform, through_of_getElem? he, snd_start, openGates_after,
      ← completion_after]
    rfl
  lint g root t := by
    rw [replyAfter, step, perform, through_of_getElem? he, ← lint_after]
    rfl
  lintDirect root t := by
    rw [replyAfter, step, perform, ← lint_after]
  activeLint g := by
    have hrevision : ((after xs).services h).lint.revision = (lintHistory h xs).length := by
      rw [after, lint_run, Slot.revision_foldl_put]
      exact Nat.zero_add _
    rw [replyAfter, step, perform, through_of_getElem? he, ← lint_after, ← hrevision]
    rfl

/-! ## The main result -/

/-- Whatever is done before and after an extension is composed, the requests through it are
answered by what was put in place last, and so are those that go through the handle directly. A
clone of a handle is a handle on the same service. -/
theorem requests_answered_by_last (xs ys : List Step) (h : Handle) :
    replyAfter xs ⟨h, .clone⟩ = .handle h ∧ ∃ extension,
      replyAfter xs ⟨h, .compose⟩ = .composed extension ∧
      AnsweredBy (xs ++ ⟨h, .compose⟩ :: ys) extension h
        (lastCompletion h (xs ++ ⟨h, .compose⟩ :: ys)) (lastLint h (xs ++ ⟨h, .compose⟩ :: ys)) :=
  ⟨rfl, _, rfl, answeredBy_last (extensions_after_compose xs ys h)⟩

end PromqlEditor.Session
