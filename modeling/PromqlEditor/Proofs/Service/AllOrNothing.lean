import PromqlEditor.Proofs.Service.Runs

/-!
# Settings are applied as a whole or not at all

Applying settings changes two slots, one after the other, and nothing is ever taken back. Still
there is no service with one section of the settings and not the other: only the section on
completion can be refused, and it is the one that is installed first (`Service.apply_eq`). So
settings that are refused leave no trace in a session, and the others replace both strategies
(`settings_applied_as_a_whole`).
-/

namespace PromqlEditor

/-- Settings with the limit zero change nothing; all others replace both strategies. A section that
is not there stands for the defaults and not for what was there before. -/
theorem Service.apply_eq (s : Service) (settings : Settings) :
    s.apply settings =
      if settings.completion.bind (·.maxItems) = some 0 then (s, some .zeroLimit)
      else
        (⟨s.completion.put (.vocabulary (settings.completion.getD {})),
          s.lint.put (.syntaxErrors (settings.lint.getD {}))⟩, none) := by
  rw [apply, installCompletion, CompletionStrategy.ofSettings_eq]
  by_cases hzero : settings.completion.bind (·.maxItems) = some 0
  · rw [if_pos hzero, if_pos hzero]
  · rw [if_neg hzero, if_neg hzero]
    rfl

namespace Session

/-- A session in which a service is put back as it was is the same session. -/
theorem put_services (s : Session) (h : Handle) : s.put h (s.services h) = s := by
  have hservices : (s.put h (s.services h)).services = s.services := by
    funext g
    by_cases hg : g = h
    · rw [hg, services_put_self]
    · exact services_put_of_ne s _ hg
  calc s.put h (s.services h) = { s with services := (s.put h (s.services h)).services } := rfl
    _ = s := by rw [hservices]

/-- Whether a step after others is refused and leaves no trace: the session stays what it was, and
whatever follows is replied to as if the step had not been made. -/
structure IsRefused (xs : List Step) (x : Step) (e : InstallError) : Prop where
  reply_eq : replyAfter xs x = .refused e
  after_eq : after (xs ++ [x]) = after xs
  replies_eq : ∀ ys y, replyAfter (xs ++ x :: ys) y = replyAfter (xs ++ ys) y

/-- Whether a step after others is done and replaces both strategies in the service of a handle,
and nothing else. -/
structure Installs (xs : List Step) (x : Step) (h : Handle) (σ : CompletionStrategy)
    (τ : LintStrategy) : Prop where
  reply_eq : replyAfter xs x = .done
  after_eq : after (xs ++ [x]) = (after xs).put h
    ⟨((after xs).services h).completion.put σ, ((after xs).services h).lint.put τ⟩

/-- A step that leaves the session as it is makes no difference to what follows. -/
theorem replyAfter_append_cons {xs : List Step} {x : Step} (hx : after (xs ++ [x]) = after xs)
    (ys : List Step) (y : Step) : replyAfter (xs ++ x :: ys) y = replyAfter (xs ++ ys) y := by
  have hafter : after (xs ++ x :: ys) = after (xs ++ ys) := by
    rw [List.append_cons, after_append, hx, after_append]
  rw [replyAfter, hafter, replyAfter]

variable {settings : Settings}

theorem isRefused_apply (hzero : settings.completion.bind (·.maxItems) = some 0) (xs : List Step)
    (h : Handle) : IsRefused xs ⟨h, .apply settings⟩ .zeroLimit := by
  have hstep : (after xs).step ⟨h, .apply settings⟩ = (after xs, .refused .zeroLimit) := by
    rw [step, perform, Service.apply_eq, if_pos hzero, change, put_services]
  have hafter : after (xs ++ [⟨h, .apply settings⟩]) = after xs := by rw [after_concat, hstep]
  exact ⟨by rw [replyAfter, hstep], hafter, replyAfter_append_cons hafter⟩

theorem installs_apply (hzero : ¬ settings.completion.bind (·.maxItems) = some 0)
    (xs : List Step) (h : Handle) :
    Installs xs ⟨h, .apply settings⟩ h (.vocabulary (settings.completion.getD {}))
      (.syntaxErrors (settings.lint.getD {})) := by
  have hstep : (after xs).step ⟨h, .apply settings⟩ = ((after xs).put h
      ⟨((after xs).services h).completion.put (.vocabulary (settings.completion.getD {})),
        ((after xs).services h).lint.put (.syntaxErrors (settings.lint.getD {}))⟩, .done) := by
    rw [step, perform, Service.apply_eq, if_neg hzero, change]
  exact ⟨by rw [replyAfter, hstep], by rw [after_concat, hstep]⟩

/-! ## The main result -/

/-- Whatever was done before, settings are refused exactly if they set the limit of completion to
zero. They then leave no trace. Otherwise both strategies of the service, and nothing else, are
replaced by new ones with exactly these settings, or with the defaults for a section that is not
there. -/
theorem settings_applied_as_a_whole (xs : List Step) (h : Handle) (settings : Settings) :
    ((∃ e, replyAfter xs ⟨h, .apply settings⟩ = .refused e) ↔
      ∃ c, settings.completion = some c ∧ c.maxItems = some 0) ∧
    (IsRefused xs ⟨h, .apply settings⟩ .zeroLimit ∨
      Installs xs ⟨h, .apply settings⟩ h (.vocabulary (settings.completion.getD {}))
        (.syntaxErrors (settings.lint.getD {}))) := by
  rw [← Option.bind_eq_some_iff]
  by_cases hzero : settings.completion.bind (·.maxItems) = some 0
  · have hrefused := isRefused_apply hzero xs h
    exact ⟨iff_of_true ⟨_, hrefused.reply_eq⟩ hzero, Or.inl hrefused⟩
  · have hinstalls := installs_apply hzero xs h
    refine ⟨iff_of_false ?_ hzero, Or.inr hinstalls⟩
    rintro ⟨e, he⟩
    cases hinstalls.reply_eq.symm.trans he

end Session

end PromqlEditor
