import PromqlEditor.Proofs.Settings.Variables

/-!
# What the environment overrides

Loading goes through two layers: the options give settings, and the environment overrides single
fields of them (`Settings.load_eq_ok_iff`). A field that a variable is about is what the value of
the variable stands for if it is set, and what the options say if it is not
(`Environment.Decides`); all other fields are what the options say. This is shown once for a
variable, whatever it is about (`Environment.decides_iff_of_rel`), then for each field, and put
together for the settings as a whole (`Settings.exists_heeds_of_load`).
-/

namespace PromqlEditor

open Json (Value)

/-! ## Variables -/

section Variables

variable {α : Type} {env : Environment} {x : Variable} {denotes : String → α → Prop}
  {given : Option α}

/-- What a field comes to in an environment, from what is given for it: what the value of its
variable stands for if that is set, and what is given if it is not. -/
inductive Environment.Decides (env : Environment) (x : Variable) (denotes : String → α → Prop)
    (given : Option α) : Option α → Prop
  | set {value : String} {a : α} (hset : env x = some value) (ha : denotes value a) :
      Decides env x denotes given (some a)
  | unset (hunset : env x = none) : Decides env x denotes given given

/-- A variable that is understood takes precedence over what is given. -/
theorem Environment.decides_of_rel {a : Option α} (h : Option.Rel denotes (env x) a) :
    env.Decides x denotes given (a.or given) := by
  cases hx : env x with
  | none =>
    rw [hx] at h
    cases h
    exact .unset hx
  | some value =>
    rw [hx] at h
    cases h with
    | some ha => exact .set hx ha

/-- Where a value stands for one thing only, nothing else comes of the field. -/
theorem Environment.decides_iff_of_rel {a b : Option α} (h : Option.Rel denotes (env x) a)
    (hunique : ∀ value a b, denotes value a → denotes value b → a = b) :
    env.Decides x denotes given b ↔ b = a.or given := by
  refine ⟨fun hb => ?_, fun hb => hb ▸ decides_of_rel h⟩
  cases hb with
  | set hset hb =>
    rw [hset] at h
    cases h with
    | some ha => exact congrArg some (hunique _ _ _ hb ha)
  | unset hunset =>
    rw [hunset] at h
    cases h
    rfl

end Variables

/-! ## Fields -/

namespace Settings

section Fields

variable (s : Settings) (o : Overrides)

theorem maxItems_override : (s.override o).completion.bind (·.maxItems) =
    o.maxItems.or (s.completion.bind (·.maxItems)) := by
  obtain ⟨_, _ | n⟩ := o <;> rfl

theorem metricNames_override : ((s.override o).completion.getD {}).metricNames =
    (s.completion.getD {}).metricNames := by
  obtain ⟨_, _ | n⟩ := o <;> rfl

theorem enabled_override : (s.override o).lint.map (·.enabled) =
    o.lintEnabled.or (s.lint.map (·.enabled)) := by
  obtain ⟨_ | b, _⟩ := o <;> rfl

theorem severity_override : ((s.override o).lint.getD {}).severity =
    (s.lint.getD {}).severity := by
  obtain ⟨_ | b, _⟩ := o <;> rfl

end Fields

/-! ## What counts -/

section Counts

variable {s given : Settings} {env : Environment} {options : Option Value}

/-- Whether a limit of completion counts in an environment where settings are given. -/
def HasLimit (given : Settings) (env : Environment) (limit? : Option Nat) : Prop :=
  env.Decides .maxItems Schema.IsLimit (given.completion.bind (·.maxItems)) limit?

/-- Whether linting is off in an environment where settings are given. -/
def LintIsOff (given : Settings) (env : Environment) : Prop :=
  env.Decides .lintEnabled Schema.IsSwitch (given.lint.map (·.enabled)) (some false)

/-- How serious diagnostics are where settings are given. No variable is about this. -/
def severity (given : Settings) : Severity := given.lint.elim .error (·.severity)

theorem severity_getD (s : Settings) : (s.lint.getD {}).severity = s.severity := by
  obtain ⟨_, _ | l⟩ := s <;> rfl

/-- Whether settings say field by field what counts in an environment where others are given. -/
structure Heeds (s : Settings) (env : Environment) (given : Settings) : Prop where
  hasLimit : given.HasLimit env (s.completion.bind (·.maxItems))
  metricNames_eq : (s.completion.getD {}).metricNames = (given.completion.getD {}).metricNames
  enabled_iff : (s.lint.getD {}).enabled = true ↔ ¬ given.LintIsOff env
  severity_eq : (s.lint.getD {}).severity = given.severity

/-- The limit is zero only if the options say so and the environment does not object. -/
theorem HasLimit.eq_zero_iff {limit? : Option Nat} (h : given.HasLimit env limit?) :
    limit? = some 0 ↔
      env .maxItems = none ∧ given.completion.bind (·.maxItems) = some 0 := by
  cases h with
  | set hset hlimit =>
    obtain ⟨digits, -, -, -, -, hpos, -⟩ := hlimit
    simp [hset, hpos.ne']
  | unset hunset => simp [hunset]

theorem heeds_override {o : Overrides} (h : Overrides.ofEnvironment env = .ok o) :
    (given.override o).Heeds env given := by
  obtain ⟨hswitch, hlimit⟩ := Overrides.ofEnvironment_eq_ok_iff_rel.1 h
  refine ⟨?_, metricNames_override given o, ?_, ?_⟩
  · rw [HasLimit, maxItems_override]
    exact Environment.decides_of_rel hlimit
  · rw [LintIsOff, Environment.decides_iff_of_rel hswitch fun _ _ _ => Schema.IsSwitch.unique,
      ← enabled_override]
    cases (given.override o).lint <;> simp
  · rw [severity_override, severity_getD]

/-- Settings that are loaded are those of the options, overridden by the environment. -/
theorem load_eq_ok_iff : load options env = .ok s ↔
    ∃ given, ofOptions options = .ok given ∧
      ∃ o, Overrides.ofEnvironment env = .ok o ∧ given.override o = s := by
  simp only [load, Options.bind_eq_ok_iff, Options.mapError_eq_ok_iff, inEnvironment,
    Options.map_eq_ok_iff]

theorem exists_heeds_of_load (h : load options env = .ok s) :
    ∃ given, ofOptions options = .ok given ∧ s.Heeds env given := by
  obtain ⟨given, hgiven, o, ho, rfl⟩ := load_eq_ok_iff.1 h
  exact ⟨given, hgiven, heeds_override ho⟩

end Counts

end Settings

end PromqlEditor
