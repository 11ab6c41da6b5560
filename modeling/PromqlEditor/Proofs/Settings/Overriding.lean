import PromqlEditor.Proofs.Settings.Overrides

/-!
# Overrides win and touch nothing else

Each variable is about one field of one section. If it is set, the field is what its value stands
for, and the section is there, with the rest of it as it was. If it is not set, the section is as it
was, there or not (`Settings.IsOverridden`). So an environment has nothing to say that it has said
already, and where it says everything that it can, only the two fields that no variable is about are
left of the settings (`Settings.overridden_in_own_fields`).
-/

namespace PromqlEditor.Settings

/-- The names of metrics that settings give. No variable is about these. -/
def metricNames (s : Settings) : List String := s.completion.elim [] (·.metricNames)

/-- Whether settings are others as an environment overrides them, section by section. -/
structure IsOverridden (s : Settings) (env : Environment) (given : Settings) : Prop where
  lint_of_set : ∀ value ∈ env .lintEnabled, ∃ l, s.lint = some l ∧
    Schema.IsSwitch value l.enabled ∧ l.severity = given.severity
  lint_of_unset : env .lintEnabled = none → s.lint = given.lint
  completion_of_set : ∀ value ∈ env .maxItems, ∃ c, s.completion = some c ∧
    (∃ n, Schema.IsLimit value n ∧ c.maxItems = some n) ∧ c.metricNames = given.metricNames
  completion_of_unset : env .maxItems = none → s.completion = given.completion

variable {s t given : Settings} {o : Overrides} {env : Environment}

/-! ## Overrides -/

theorem metricNames_getD (s : Settings) :
    (s.completion.getD {}).metricNames = s.metricNames := by
  obtain ⟨_ | c, _⟩ := s <;> rfl

/-- Overrides change nothing more the second time. -/
theorem override_override (s : Settings) (o : Overrides) :
    (s.override o).override o = s.override o := by
  obtain ⟨_ | b, _ | n⟩ := o <;> rfl

/-- Overrides of both sections leave only what no variable is about. -/
theorem override_congr (hswitch : o.lintEnabled ≠ none) (hlimit : o.maxItems ≠ none)
    (hseverity : s.severity = t.severity) (hnames : s.metricNames = t.metricNames) :
    s.override o = t.override o := by
  obtain ⟨_ | b, _ | n⟩ := o
  · exact absurd rfl hswitch
  · exact absurd rfl hswitch
  · exact absurd rfl hlimit
  · show Settings.mk (some ⟨some n, (s.completion.getD {}).metricNames⟩)
        (some ⟨b, (s.lint.getD {}).severity⟩) =
      Settings.mk (some ⟨some n, (t.completion.getD {}).metricNames⟩)
        (some ⟨b, (t.lint.getD {}).severity⟩)
    rw [metricNames_getD, metricNames_getD, severity_getD, severity_getD, hseverity, hnames]

/-! ## Environments -/

/-- A variable overrides something just if it is set. -/
theorem eq_none_iff_of_rel {α β : Type} {denotes : α → β → Prop} {value : Option α} {a : Option β}
    (h : Option.Rel denotes value a) : a = none ↔ value = none := by
  cases h with
  | some _ => exact iff_of_false nofun nofun
  | none => exact iff_of_true rfl rfl

theorem isOverridden_override (ho : Overrides.ofEnvironment env = .ok o) :
    (given.override o).IsOverridden env given := by
  obtain ⟨hswitch, hlimit⟩ := Overrides.ofEnvironment_eq_ok_iff_rel.1 ho
  obtain ⟨lintEnabled, maxItems⟩ := o
  refine ⟨?_, ?_, ?_, ?_⟩
  · intro value hvalue
    rw [Option.mem_def.1 hvalue] at hswitch
    cases hswitch with
    | some hb => exact ⟨_, rfl, hb, severity_getD given⟩
  · intro hunset
    rw [hunset] at hswitch
    cases hswitch with
    | none => rfl
  · intro value hvalue
    rw [Option.mem_def.1 hvalue] at hlimit
    cases hlimit with
    | some hn => exact ⟨_, rfl, ⟨_, hn, rfl⟩, metricNames_getD given⟩
  · intro hunset
    rw [hunset] at hlimit
    cases hlimit with
    | none => rfl

/-! ## The main result -/

/-- Settings that an environment overrides are what it says in the fields that its variables are
about, and what they were in everything else. Overriding them again changes nothing, and if both
variables are set, all settings with the same severity and the same names of metrics come to the
same. -/
theorem overridden_in_own_fields (h : given.inEnvironment env = .ok s) :
    s.IsOverridden env given ∧ s.inEnvironment env = .ok s ∧
      (env .lintEnabled ≠ none → env .maxItems ≠ none → ∀ other : Settings,
        other.severity = given.severity → other.metricNames = given.metricNames →
          other.inEnvironment env = .ok s) := by
  obtain ⟨o, ho, rfl⟩ := Options.map_eq_ok_iff.1 h
  obtain ⟨hswitch, hlimit⟩ := Overrides.ofEnvironment_eq_ok_iff_rel.1 ho
  refine ⟨isOverridden_override ho, ?_, ?_⟩
  · exact Options.map_eq_ok_iff.2 ⟨o, ho, override_override given o⟩
  · intro hlint hmax other hseverity hnames
    refine Options.map_eq_ok_iff.2 ⟨o, ho, override_congr ?_ ?_ hseverity hnames⟩
    · exact mt (eq_none_iff_of_rel hswitch).1 hlint
    · exact mt (eq_none_iff_of_rel hlimit).1 hmax

/-- The lint section is added, and the limit is replaced next to the name of a metric. Other
settings with that name come to the same. -/
theorem both_sections_overridden :
    inEnvironment ⟨some ⟨some 3, ["up"]⟩, none⟩
        (fun x => if x = .maxItems then some "+7" else some " OFF") =
        .ok ⟨some ⟨some 7, ["up"]⟩, some ⟨false, .error⟩⟩ ∧
      inEnvironment ⟨some ⟨some 7, ["up"]⟩, some ⟨false, .error⟩⟩
        (fun x => if x = .maxItems then some "+7" else some " OFF") =
        .ok ⟨some ⟨some 7, ["up"]⟩, some ⟨false, .error⟩⟩ ∧
      inEnvironment ⟨some ⟨none, ["up"]⟩, some ⟨true, .error⟩⟩
        (fun x => if x = .maxItems then some "+7" else some " OFF") =
        .ok ⟨some ⟨some 7, ["up"]⟩, some ⟨false, .error⟩⟩ := by
  have hoverridden : inEnvironment ⟨some ⟨some 3, ["up"]⟩, none⟩
      (fun x => if x = .maxItems then some "+7" else some " OFF") =
        .ok ⟨some ⟨some 7, ["up"]⟩, some ⟨false, .error⟩⟩ := rfl
  obtain ⟨-, hagain, hothers⟩ := overridden_in_own_fields hoverridden
  exact ⟨hoverridden, hagain, hothers nofun nofun _ rfl rfl⟩

end PromqlEditor.Settings
