import PromqlEditor.Proofs.Settings.Overrides

/-!
# Which fault is reported

There are three places where loading settings can go wrong: the options, the switch and the limit.
They are looked at in this order, and the first fault is the one reported
(`Settings.first_fault_reported`). What the options say has no part in whether the environment is
accepted. With no switch set, only the limit is left, and its value decides everything
(`Settings.limit_read_exactly`).
-/

namespace PromqlEditor.Settings

variable {options : Option Json.Value} {env : Environment}

/-! ## Stages of loading -/

theorem inEnvironment_eq_error_iff {s : Settings} {e : EnvironmentError} :
    s.inEnvironment env = .error e ↔ env.IsFirstFault e := by
  rw [inEnvironment, Options.map_eq_error_iff, Overrides.ofEnvironment_eq_error_iff]

/-- Options are refused just if they stand for no settings. -/
theorem exists_load_eq_error_options_iff (hordered : ∀ v ∈ options, v.Ordered) :
    (∃ e, load options env = .error (.options e)) ↔ ¬ ∃ s, Schema.IsOptions options s := by
  simp only [← Options.ofOptions_eq_ok_iff_isOptions hordered, ← Options.exists_error_iff]
  refine exists_congr fun e => ?_
  rw [load, Options.bind_eq_error_iff, Options.mapError_eq_error_iff]
  constructor
  · rintro (⟨e', he', heq⟩ | ⟨s, -, hs⟩)
    · cases heq
      exact he'
    · obtain ⟨e', -, heq⟩ := Options.mapError_eq_error_iff.1 hs
      cases heq
  · intro he
    exact Or.inl ⟨e, he, rfl⟩

/-- Where options stand for settings, what is reported is the first fault of the environment. -/
theorem load_eq_error_environment_iff (hordered : ∀ v ∈ options, v.Ordered)
    {e : EnvironmentError} : load options env = .error (.environment e) ↔
      (∃ s, Schema.IsOptions options s) ∧ env.IsFirstFault e := by
  simp only [← Options.ofOptions_eq_ok_iff_isOptions hordered]
  rw [load, Options.bind_eq_error_iff, Options.mapError_eq_error_iff]
  constructor
  · rintro (⟨e', -, heq⟩ | ⟨s, hs, he⟩)
    · cases heq
    · obtain ⟨e', he', heq⟩ := Options.mapError_eq_error_iff.1 he
      cases heq
      exact ⟨⟨s, Options.mapError_eq_ok_iff.1 hs⟩, inEnvironment_eq_error_iff.1 he'⟩
  · rintro ⟨⟨s, hs⟩, hfirst⟩
    refine Or.inr ⟨s, Options.mapError_eq_ok_iff.2 hs, ?_⟩
    exact Options.mapError_eq_error_iff.2 ⟨e, inEnvironment_eq_error_iff.2 hfirst, rfl⟩

theorem exists_load_eq_ok_iff (hordered : ∀ v ∈ options, v.Ordered) :
    (∃ s, load options env = .ok s) ↔
      (∃ s, Schema.IsOptions options s) ∧ ∀ e, ¬ env.IsFault e := by
  simp only [load_eq_ok_iff, ← Options.ofOptions_eq_ok_iff_isOptions hordered,
    ← Overrides.exists_ofEnvironment_iff]
  constructor
  · rintro ⟨s, given, hgiven, o, ho, -⟩
    exact ⟨⟨given, hgiven⟩, o, ho⟩
  · rintro ⟨⟨given, hgiven⟩, o, ho⟩
    exact ⟨_, given, hgiven, o, ho, rfl⟩

theorem exists_load_eq_error_iff (hordered : ∀ v ∈ options, v.Ordered) (env : Environment) :
    (∃ e, load options env = .error e) ↔
      (∀ s, ¬ Schema.IsOptions options s) ∨ ∃ e, env.IsFault e := by
  rw [Options.exists_error_iff, exists_load_eq_ok_iff hordered, not_and_or, not_exists,
    not_forall_not]

/-! ## The first fault -/

/-- Options that stand for no settings are reported whatever the environment. Otherwise it is a
switch that makes no sense, with its value as it is set, and otherwise a limit that makes no sense,
with its value as it is set. If there is no fault, settings are loaded. Whether and for what an
environment is refused does not depend on the settings that it is to override. -/
theorem first_fault_reported (hordered : ∀ v ∈ options, v.Ordered) (env : Environment) :
    ((∃ e, load options env = .error (.options e)) ↔ ¬ ∃ s, Schema.IsOptions options s) ∧
      (∀ value, load options env = .error (.environment ⟨.lintEnabled, value⟩) ↔
        (∃ s, Schema.IsOptions options s) ∧ env.IsFault ⟨.lintEnabled, value⟩) ∧
      (∀ value, load options env = .error (.environment ⟨.maxItems, value⟩) ↔
        (∃ s, Schema.IsOptions options s) ∧ (∀ other, ¬ env.IsFault ⟨.lintEnabled, other⟩) ∧
          env.IsFault ⟨.maxItems, value⟩) ∧
      ((∃ s, load options env = .ok s) ↔
        (∃ s, Schema.IsOptions options s) ∧ ∀ e, ¬ env.IsFault e) ∧
      ∀ (s t : Settings) (e : EnvironmentError),
        s.inEnvironment env = .error e ↔ t.inEnvironment env = .error e := by
  refine ⟨exists_load_eq_error_options_iff hordered, ?_, ?_, exists_load_eq_ok_iff hordered, ?_⟩
  · intro value
    exact load_eq_error_environment_iff hordered
  · intro value
    exact load_eq_error_environment_iff hordered
  · intro s t e
    rw [inEnvironment_eq_error_iff, inEnvironment_eq_error_iff]

/-- Both variables make no sense, and the switch is reported with its blanks. -/
theorem switch_reported_before_limit :
    (∀ v ∈ some (Json.Value.list [.null]), v.Ordered) ∧
      load (some (.list [.null])) (fun x => if x = .maxItems then some "0" else some " maybe ") =
        .error (.environment ⟨.lintEnabled, " maybe "⟩) ∧
      (∃ s, Schema.IsOptions (some (.list [.null])) s) ∧
      Environment.IsFault (fun x => if x = .maxItems then some "0" else some " maybe ")
        ⟨.lintEnabled, " maybe "⟩ := by
  have hordered : ∀ v ∈ some (Json.Value.list [.null]), v.Ordered := by
    rintro v ⟨⟩
    simp [Json.Value.Ordered, Json.Value.AllOrdered]
  have hload : load (some (.list [.null]))
      (fun x => if x = .maxItems then some "0" else some " maybe ") =
        .error (.environment ⟨.lintEnabled, " maybe "⟩) := rfl
  exact ⟨hordered, hload, ((first_fault_reported hordered _).2.1 _).1 hload⟩

/-! ## The limit -/

section Limit

variable {value : String}

/-- With no switch set, the first fault of an environment is that of its limit. -/
theorem isFirstFault_iff_of_unset (hswitch : env .lintEnabled = none)
    (hlimit : env .maxItems = some value) {e : EnvironmentError} :
    env.IsFirstFault e ↔ e = ⟨.maxItems, value⟩ ∧ ¬ Variable.maxItems.Accepts value := by
  have hno : ∀ other, ¬ env.IsFault ⟨.lintEnabled, other⟩ := by
    rintro other ⟨hset, -⟩
    exact Option.some_ne_none other (hset.symm.trans hswitch)
  obtain ⟨source, other⟩ := e
  cases source with
  | lintEnabled =>
    refine iff_of_false (hno other) ?_
    rintro ⟨heq, -⟩
    cases heq
  | maxItems =>
    constructor
    · rintro ⟨-, hset, hnot⟩
      obtain rfl : value = other := Option.some.inj (hlimit.symm.trans hset)
      exact ⟨rfl, hnot⟩
    · rintro ⟨heq, hnot⟩
      cases heq
      exact ⟨hno, hlimit, hnot⟩

/-- With no switch set, settings are overridden just if the value of the limit writes a number, and
then in that number only. Any other value is refused as it is. -/
theorem limit_read_exactly (hswitch : env .lintEnabled = none)
    (hlimit : env .maxItems = some value) (s : Settings) :
    (∀ s', s.inEnvironment env = .ok s' ↔ ∃ n, Schema.IsLimit value n ∧
        s' = { s with completion := some { s.completion.getD {} with maxItems := some n } }) ∧
      ∀ e, s.inEnvironment env = .error e ↔
        e = ⟨.maxItems, value⟩ ∧ ¬ ∃ n, Schema.IsLimit value n := by
  refine ⟨fun s' => ?_, fun e => ?_⟩
  · simp only [inEnvironment, Options.map_eq_ok_iff, Overrides.ofEnvironment_eq_ok_iff_rel, hswitch,
      hlimit]
    constructor
    · rintro ⟨⟨_, _⟩, ⟨⟨⟩, ⟨hn⟩⟩, rfl⟩
      exact ⟨_, hn, rfl⟩
    · rintro ⟨n, hn, rfl⟩
      exact ⟨⟨none, some n⟩, ⟨.none, .some hn⟩, rfl⟩
  · rw [inEnvironment_eq_error_iff]
    exact isFirstFault_iff_of_unset hswitch hlimit

/-- The largest limit, with zeros and white space around it. The next number is none. -/
theorem largest_limit_read :
    Schema.IsLimit "\t+00018446744073709551615 " 18446744073709551615 ∧
      ¬ ∃ n, Schema.IsLimit "18446744073709551616" n := by
  obtain ⟨hread, -⟩ := @limit_read_exactly
    (fun x => if x = .maxItems then some "\t+00018446744073709551615 " else none) _ rfl rfl {}
  obtain ⟨-, hrefused⟩ := @limit_read_exactly
    (fun x => if x = .maxItems then some "18446744073709551616" else none) _ rfl rfl {}
  obtain ⟨n, hn, heq⟩ := (hread ⟨some ⟨some 18446744073709551615, []⟩, none⟩).1 rfl
  cases heq
  exact ⟨hn, ((hrefused ⟨.maxItems, "18446744073709551616"⟩).1 rfl).2⟩

end Limit

end PromqlEditor.Settings
