import PromqlEditor.Proofs.Completion.Matching
import PromqlEditor.Proofs.Service.Runs

/-!
# The limit zero is never in use

With the limit zero a strategy would have nothing to suggest, ever, and nobody would be told why.
Options may ask for it, though, and so may those who make settings themselves.

It does not get in. A strategy comes into use in two ways only: it was there from the start, or a
step put it in place (`inUse_run`). What a step puts in place was made of settings or is custom
(`Step.isMade_of_puts`), and strategies are not made of settings with the limit zero. So of all that
is ever installed or answers a request in flight, whatever vocabulary strategy there is keeps quiet
only if nothing starts with the word (`limit_zero_never_in_use`).
-/

namespace PromqlEditor

/-! ## Where strategies come from -/

/-- How a strategy for completion can be come by. -/
inductive CompletionStrategy.IsMade : CompletionStrategy → Prop where
  | custom (name : String) (gates : Request → List String)
      (answer : Request → Except String (Option Suggestions)) : IsMade (.custom name gates answer)
  | ofSettings {σ : CompletionStrategy} (settings : Option CompletionSettings)
      (h : CompletionStrategy.ofSettings settings = .ok σ) : IsMade σ

/-- A vocabulary strategy that was made of settings does not have the limit zero. -/
theorem CompletionStrategy.IsMade.maxItems_ne_zero {settings : CompletionSettings}
    (h : IsMade (.vocabulary settings)) : settings.maxItems ≠ some 0 := by
  cases h with
  | ofSettings given hgiven =>
    obtain ⟨hzero, hsettings⟩ := ofSettings_eq_ok_iff.1 hgiven
    cases hsettings
    exact hzero

/-- Whether a strategy that is set by a step, if one is, was made somehow. -/
def Step.SetsMade (x : Step) : Prop := ∀ σ, x.operation = .setCompletion σ → σ.IsMade

/-- What an operation makes of settings was made. -/
theorem CompletionStrategy.isMade_of_toOption {settings : Option CompletionSettings}
    {σ : CompletionStrategy} (h : (ofSettings settings).toOption = some σ) : σ.IsMade := by
  cases hmade : ofSettings settings with
  | error e => simp [hmade, Except.toOption] at h
  | ok made =>
    rw [hmade] at h
    cases h
    exact .ofSettings settings hmade

/-- What a step puts in place was made, by the step if not before. -/
theorem Step.isMade_of_puts {x : Step} (hx : x.SetsMade) {h : Handle} {σ : CompletionStrategy}
    (hputs : x.completion? h = some σ) : σ.IsMade := by
  have hop : x.operation.completion? = some σ := (Option.ite_none_right_eq_some.1 hputs).2
  obtain ⟨g, op⟩ := x
  cases op with
  | installCompletion settings => exact CompletionStrategy.isMade_of_toOption hop
  | apply settings => exact CompletionStrategy.isMade_of_toOption hop
  | setCompletion strategy =>
    cases hop
    exact hx σ rfl
  | _ => cases hop

namespace Session

/-! ## What is in use -/

/-- Whether a strategy for completion is installed or answers a request in flight. -/
def InUse (s : Session) (σ : CompletionStrategy) : Prop :=
  (∃ h, (s.services h).completion.strategy = σ) ∨ ∃ p ∈ s.pending, p.strategy = σ

section

variable {s : Session} {σ : CompletionStrategy}

theorem eq_of_inUse_new (h : ({} : Session).InUse σ) : σ = .vocabulary {} := by
  rcases h with ⟨h, rfl⟩ | ⟨p, hp, -⟩
  · rfl
  · exact absurd hp List.not_mem_nil

theorem inUse_start {h : Handle} {r : Request} {p : Pending}
    (hp : p ∈ (s.start h r).1.pending) : s.InUse p.strategy := by
  simp only [start] at hp
  split at hp
  · exact Or.inr ⟨p, hp, rfl⟩
  · rcases List.mem_cons.1 hp with rfl | hp
    · exact Or.inl ⟨h, rfl⟩
    · exact Or.inr ⟨p, hp, rfl⟩

theorem inUse_resume {ticket : Nat} {p : Pending} (hp : p ∈ (s.resume ticket).1.pending) :
    s.InUse p.strategy := by
  unfold resume at hp
  split at hp
  · exact Or.inr ⟨p, hp, rfl⟩
  · split at hp
    · exact Or.inr ⟨p, (List.mem_filter.1 hp).1, rfl⟩
    · exact Or.inr ⟨p, hp, rfl⟩

/-- A request in flight is answered by a strategy that was in use before. -/
theorem inUse_of_mem_pending_step {x : Step} :
    ∀ p ∈ (s.step x).1.pending, s.InUse p.strategy := by
  have same : ∀ p ∈ s.pending, s.InUse p.strategy := fun p hp => Or.inr ⟨p, hp, rfl⟩
  obtain ⟨h, op⟩ := x
  cases op with
  | installCompletion | installLint | setCompletion | setLint | apply =>
    rw [step, perform, fst_change]
    exact same
  | complete | lint | activeLint | classify =>
    exact through_of (p := fun s' => ∀ p ∈ s'.pending, s.InUse p.strategy) same fun _ => same
  | begin extension r =>
    exact through_of (p := fun s' => ∀ p ∈ s'.pending, s.InUse p.strategy) same
      fun _ _ hp => inUse_start hp
  | poll ticket => exact fun _ hp => inUse_resume hp
  | _ => exact same

/-- What is in use after a step was in use before, or the step put it in place. -/
theorem inUse_step {x : Step} (h : (s.step x).1.InUse σ) :
    s.InUse σ ∨ ∃ g, x.completion? g = some σ := by
  rcases h with ⟨g, rfl⟩ | ⟨p, hp, rfl⟩
  · rw [completion_step]
    cases hputs : x.completion? g with
    | none => exact Or.inl (Or.inl ⟨g, rfl⟩)
    | some τ => exact Or.inr ⟨g, hputs⟩
  · exact Or.inl (inUse_of_mem_pending_step p hp)

/-- What is in use after steps was in use before, or one of them put it in place. -/
theorem inUse_run {xs : List Step} (h : (s.run xs).1.InUse σ) :
    s.InUse σ ∨ ∃ x ∈ xs, ∃ g, x.completion? g = some σ := by
  induction xs generalizing s with
  | nil => exact Or.inl h
  | cons x xs ih =>
    rcases ih h with hstep | ⟨y, hy, hputs⟩
    · rcases inUse_step hstep with hs | hputs
      · exact Or.inl hs
      · exact Or.inr ⟨x, List.mem_cons_self, hputs⟩
    · exact Or.inr ⟨y, List.mem_cons_of_mem x hy, hputs⟩

/-- Every strategy in use was made somehow, if those are that were set. -/
theorem isMade_of_inUse {xs : List Step} (hxs : ∀ x ∈ xs, x.SetsMade) (h : (after xs).InUse σ) :
    σ.IsMade := by
  rcases inUse_run h with hnew | ⟨x, hx, g, hputs⟩
  · rw [eq_of_inUse_new hnew]
    exact .ofSettings none rfl
  · exact Step.isMade_of_puts (hxs x hx) hputs

end

/-! ## The main result -/

/-- Whatever is done in a session, through whichever handles, and whatever strategies are set that
are custom or made of settings: a vocabulary strategy that is installed or answers a request in
flight does not have the limit zero. If a request has a word or the user asks, it answers with
nothing just if none of the lists that it suggests from has a label that starts with the word. -/
theorem limit_zero_never_in_use {xs : List Step} (hxs : ∀ x ∈ xs, x.SetsMade)
    {settings : CompletionSettings} (huse : (after xs).InUse (.vocabulary settings)) :
    settings.maxItems ≠ some 0 ∧
      ∀ r : Request, r.word ≠ [] ∨ r.explicit = true →
        ∃ a, (CompletionStrategy.vocabulary settings).answer r = .ok a ∧
          (a = none ↔ ∀ source ∈ settings.sources, ∀ label ∈ source.1,
            ¬ r.word <+: label.toList) := by
  have hzero : settings.maxItems ≠ some 0 := (isMade_of_inUse hxs huse).maxItems_ne_zero
  refine ⟨hzero, fun r hasked => ⟨settings.suggest r, rfl, ?_⟩⟩
  have hasks : ¬ (r.word = [] ∧ r.explicit = false) := by
    rintro ⟨hword, hexplicit⟩
    rcases hasked with hne | htrue
    · exact hne hword
    · rw [hexplicit] at htrue
      exact Bool.false_ne_true htrue
  rw [(CompletionSettings.suggest_gets hzero r).eq_none_iff, or_iff_right hasks,
    CompletionSettings.startingWith_eq_nil_iff]

/-- A custom strategy keeps a request waiting. The limit one is installed in its place, and after
that settings with the limit zero are refused twice. -/
theorem refused_limit_zero_not_in_use :
    ∃ xs, xs = [⟨⟨0⟩, .compose⟩,
        ⟨⟨0⟩, .setCompletion (.custom "slow" (fun _ => ["gate"]) fun _ => .ok none)⟩,
        ⟨⟨0⟩, .begin 0 ⟨[], 0, true⟩⟩, ⟨⟨0⟩, .installCompletion (some ⟨some 1, ["up"]⟩)⟩,
        ⟨⟨0⟩, .installCompletion (some ⟨some 0, []⟩)⟩, ⟨⟨0⟩, .apply ⟨some ⟨some 0, []⟩, none⟩⟩] ∧
      (∀ x ∈ xs, x.SetsMade) ∧ (after xs).InUse (.vocabulary ⟨some 1, ["up"]⟩) ∧
      ∀ r : Request, r.word ≠ [] ∨ r.explicit = true →
        ∃ a, (CompletionStrategy.vocabulary ⟨some 1, ["up"]⟩).answer r = .ok a ∧
          (a = none ↔ ∀ source ∈ CompletionSettings.sources ⟨some 1, ["up"]⟩,
            ∀ label ∈ source.1, ¬ r.word <+: label.toList) := by
  refine ⟨_, rfl, ?made, ?inUse, (limit_zero_never_in_use ?made ?inUse).2⟩
  case made =>
    intro x hx σ hσ
    simp only [List.mem_cons, List.not_mem_nil, or_false] at hx
    rcases hx with rfl | rfl | rfl | rfl | rfl | rfl <;> cases hσ
    exact .custom _ _ _
  case inUse => exact Or.inl ⟨⟨0⟩, rfl⟩

end Session

end PromqlEditor
