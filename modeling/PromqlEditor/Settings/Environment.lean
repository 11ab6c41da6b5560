import PromqlEditor.Decimal.Count
import PromqlEditor.Settings.Options
import PromqlEditor.Text.Blank
import PromqlEditor.Text.Lowercase

/-!
# The environment

Two environment variables override single settings. One switches linting on or off, the other
gives the limit of completion; the section that a variable belongs to is added if it is not there,
with defaults for everything else. White space around a value does not count. A value that makes no
sense is an error, which shows the value as it is, and the switch is looked at first.

`Settings.load` is how settings come about: the options are read, then the environment is heeded.
-/

namespace PromqlEditor

/-! ## Variables -/

/-- The environment variables that override settings. -/
inductive Variable where
  | lintEnabled
  | maxItems
deriving DecidableEq, Repr

/-- The name of a variable. -/
def Variable.name : Variable → String
  | .lintEnabled => "PROMQL_LINT_ENABLED"
  | .maxItems => "PROMQL_COMPLETION_MAX_ITEMS"

/-- The values of the variables that are set. -/
abbrev Environment := Variable → Option String

/-- A variable whose value makes no sense, and that value. -/
structure EnvironmentError where
  source : Variable
  value : String
deriving DecidableEq, Repr

/-- The text of an error. -/
def EnvironmentError.message (e : EnvironmentError) : String :=
  "invalid value '" ++ e.value ++ "' for " ++ e.source.name

/-! ## Values -/

/-- The value of a switch: one of four words for on and four for off, once it is in lower case. -/
def readSwitch? (value : String) : Option Bool :=
  let word := String.ofList (Text.lowercase (Text.trim value.toList))
  if ["1", "true", "on", "yes"].contains word then some true
  else if ["0", "false", "off", "no"].contains word then some false
  else none

/-- The value of a limit: a number that is not zero. -/
def readLimit? (value : String) : Option Nat :=
  (readCount? (Text.trim value.toList)).filter (0 < ·)

/-! ## Overrides -/

/-- What the environment overrides. -/
structure Overrides where
  lintEnabled : Option Bool := none
  maxItems : Option Nat := none
deriving DecidableEq, Repr

/-- The value of a variable that may be set, as `read?` understands it. -/
def Environment.read {α : Type} (env : Environment) (x : Variable) (read? : String → Option α) :
    Except EnvironmentError (Option α) :=
  match env x with
  | none => .ok none
  | some value =>
    match read? value with
    | some a => .ok (some a)
    | none => .error ⟨x, value⟩

/-- What an environment overrides, or the first of its variables that makes no sense. -/
def Overrides.ofEnvironment (env : Environment) : Except EnvironmentError Overrides := do
  let lintEnabled ← env.read .lintEnabled readSwitch?
  let maxItems ← env.read .maxItems readLimit?
  return ⟨lintEnabled, maxItems⟩

/-- Settings with overrides. -/
def Settings.override (s : Settings) (o : Overrides) : Settings where
  completion :=
    match o.maxItems with
    | none => s.completion
    | some n => some { s.completion.getD {} with maxItems := some n }
  lint :=
    match o.lintEnabled with
    | none => s.lint
    | some b => some { s.lint.getD {} with enabled := b }

/-- Settings as an environment overrides them. -/
def Settings.inEnvironment (s : Settings) (env : Environment) : Except EnvironmentError Settings :=
  s.override <$> Overrides.ofEnvironment env

/-- Without overrides settings stay as they are. -/
@[simp] theorem Settings.override_empty (s : Settings) : s.override {} = s := rfl

/-! ## Loading -/

/-- Why settings cannot be loaded. -/
inductive SettingsError where
  | options (e : OptionsError)
  | environment (e : EnvironmentError)

/-- The text of an error. -/
def SettingsError.message : SettingsError → String
  | .options e => "invalid initialization options: " ++ e.message
  | .environment e => e.message

/-- The text of what an error comes from, where that is an error itself. -/
def SettingsError.cause? : SettingsError → Option String
  | .options e => some e.message
  | .environment _ => none

/-- The settings of the given options in an environment. -/
def Settings.load (options : Option Json.Value) (env : Environment) :
    Except SettingsError Settings := do
  let s ← (Settings.ofOptions options).mapError .options
  (s.inEnvironment env).mapError .environment

end PromqlEditor
