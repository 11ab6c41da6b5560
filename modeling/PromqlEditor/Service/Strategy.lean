import PromqlEditor.Settings.Basic

/-!
# Strategies

A strategy is what answers the requests of a service. Each service comes with a strategy of its
own, made from settings, and takes custom ones made elsewhere. A custom strategy is known by the
answers that it gives; one for completion may keep requests waiting at gates until these are open.
-/

namespace PromqlEditor

/-! ## Completion -/

/-- What answers requests for suggestions. -/
inductive CompletionStrategy where
  /-- Suggests the vocabulary and the metric names of the settings. -/
  | vocabulary (settings : CompletionSettings)
  /-- Answers as given, once the gates on the way of the request are open. An answer may be an
  error. -/
  | custom (name : String) (gates : Request → List String)
      (answer : Request → Except String (Option Suggestions))

/-- Why a strategy is not installed. -/
inductive InstallError where
  /-- The limit of completion is zero. -/
  | zeroLimit
deriving DecidableEq, Repr

/-- The text of an error. -/
def InstallError.message : InstallError → String
  | .zeroLimit => "completion maxItems must be greater than zero"

/-- Settings that are not there set no limit. -/
theorem CompletionSettings.maxItems_getD (settings : Option CompletionSettings) :
    (settings.getD {}).maxItems = settings.bind (·.maxItems) := by
  cases settings <;> rfl

namespace CompletionStrategy

/-- The name of a strategy. -/
def name : CompletionStrategy → String
  | .vocabulary _ => "promql-vocabulary"
  | .custom name _ _ => name

/-- The answer to a request. -/
def answer : CompletionStrategy → Request → Except String (Option Suggestions)
  | .vocabulary settings, r => .ok (settings.suggest r)
  | .custom _ _ answer, r => answer r

/-- The gates that a request has to pass before it is answered. -/
def gates : CompletionStrategy → Request → List String
  | .vocabulary _, _ => []
  | .custom _ gates _, r => gates r

/-- Whether a strategy answers a request when the given gates are open. -/
def isOpen (strategy : CompletionStrategy) (r : Request) (openGates : List String) : Bool :=
  (strategy.gates r).all openGates.contains

/-- The strategy of completion settings, with the defaults if there are none. A limit of zero
would leave nothing to suggest and is refused. -/
def ofSettings : Option CompletionSettings → Except InstallError CompletionStrategy
  | none => .ok (.vocabulary {})
  | some s => if s.maxItems = some 0 then .error .zeroLimit else .ok (.vocabulary s)

/-- Settings are refused exactly if they set the limit to zero. -/
theorem ofSettings_eq (settings : Option CompletionSettings) :
    ofSettings settings =
      if settings.bind (·.maxItems) = some 0 then .error .zeroLimit
      else .ok (.vocabulary (settings.getD {})) := by
  cases settings with
  | none => rfl
  | some s => rfl

/-- A strategy that is made of settings is theirs, and does not have the limit zero. -/
theorem ofSettings_eq_ok_iff {settings : Option CompletionSettings} {σ : CompletionStrategy} :
    ofSettings settings = .ok σ ↔
      (settings.getD {}).maxItems ≠ some 0 ∧ σ = .vocabulary (settings.getD {}) := by
  rw [ofSettings_eq, CompletionSettings.maxItems_getD]
  by_cases hzero : settings.bind (·.maxItems) = some 0
  · simp [hzero]
  · simp [hzero, eq_comm (a := σ)]

end CompletionStrategy

/-! ## Linting -/

/-- What answers requests for diagnostics. -/
inductive LintStrategy where
  /-- Reports the error nodes of the tree. -/
  | syntaxErrors (settings : LintSettings)
  /-- Answers as given. An answer may be an error. -/
  | custom (name : String) (settings : LintSettings)
      (answer : Node → Text → Except String (List Diagnostic))

namespace LintStrategy

/-- The name of a strategy. -/
def name : LintStrategy → String
  | .syntaxErrors _ => "promql-syntax-errors"
  | .custom name _ _ => name

/-- The settings of a strategy. -/
def settings : LintStrategy → LintSettings
  | .syntaxErrors settings => settings
  | .custom _ settings _ => settings

/-- The answer to a request. -/
def answer : LintStrategy → Node → Text → Except String (List Diagnostic)
  | .syntaxErrors settings, root, t => .ok (Diagnostic.ofTree settings.severity root t)
  | .custom _ _ answer, root, t => answer root t

/-- The strategy of lint settings, with the defaults if there are none. -/
def ofSettings (s : Option LintSettings) : LintStrategy := .syntaxErrors (s.getD {})

end LintStrategy

end PromqlEditor
