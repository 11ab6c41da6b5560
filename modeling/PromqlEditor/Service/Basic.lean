import PromqlEditor.Service.Strategy

/-!
# The language service

A service holds one strategy for completion and one for linting, and either can be replaced while
the service runs. A slot counts how often its strategy was replaced, so two states of a service
hold the same strategy in a slot exactly if the counts agree.

A change that is refused says why. `Service.apply` makes two changes one after the other and stops
at the first that is refused; what was changed before that stays changed.
-/

namespace PromqlEditor

/-- A place for a strategy, and how often the strategy in it was replaced. -/
structure Slot (σ : Type) where
  strategy : σ
  revision : Nat := 0

/-- The slot with another strategy. -/
def Slot.put {σ : Type} (slot : Slot σ) (strategy : σ) : Slot σ := ⟨strategy, slot.revision + 1⟩

/-- A language service. -/
@[ext] structure Service where
  completion : Slot CompletionStrategy
  lint : Slot LintStrategy

namespace Service

/-- A service with the default strategies. -/
def initial : Service := ⟨⟨.vocabulary {}, 0⟩, ⟨.syntaxErrors {}, 0⟩⟩

/-! ## Changes -/

/-- Makes a strategy the one for completion. -/
def setCompletion (s : Service) (strategy : CompletionStrategy) : Service :=
  { s with completion := s.completion.put strategy }

/-- Makes a strategy the one for linting. -/
def setLint (s : Service) (strategy : LintStrategy) : Service :=
  { s with lint := s.lint.put strategy }

/-- Makes the strategy of the given settings the one for completion. -/
def installCompletion (s : Service) (settings : Option CompletionSettings) :
    Service × Option InstallError :=
  match CompletionStrategy.ofSettings settings with
  | .ok strategy => (s.setCompletion strategy, none)
  | .error e => (s, some e)

/-- Makes the strategy of the given settings the one for linting. -/
def installLint (s : Service) (settings : Option LintSettings) : Service × Option InstallError :=
  (s.setLint (LintStrategy.ofSettings settings), none)

/-- Installs the strategies of both sections of the settings. -/
def apply (s : Service) (settings : Settings) : Service × Option InstallError :=
  match s.installCompletion settings.completion with
  | (s, some e) => (s, some e)
  | (s, none) => s.installLint settings.lint

/-! ## Requests -/

/-- The suggestions for a request. -/
def complete (s : Service) (r : Request) : Except String (Option Suggestions) :=
  s.completion.strategy.answer r

/-- The diagnostics of a tree. Nothing is asked of a strategy that is switched off. -/
def diagnose (s : Service) (root : Node) (t : Text) : Except String (List Diagnostic) :=
  if s.lint.strategy.settings.enabled then s.lint.strategy.answer root t else .ok []

end Service

end PromqlEditor
