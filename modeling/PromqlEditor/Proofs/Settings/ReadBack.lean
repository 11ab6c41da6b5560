import PromqlEditor.Proofs.Settings.Conformance

/-!
# Settings are read back

Settings that are written as a JSON value (`Settings.toJson`) and then given as options are loaded
as they were (`settings_read_back`). The schema says so for one record after the other: the value
that is written for a record stands for that record and for no other. A section that is not there
is written as null and stays away, and is not mistaken for one with defaults; the same goes for a
limit that is not set. Limits are the only part of settings that a value may not hold: they have to
fit into 64 bits.
-/

namespace PromqlEditor

open Json (Value)

namespace Schema

/-! ## What is written conforms -/

/-- What may be left out is written as null, which stands for nothing, or as what is there. -/
theorem orNull_elim_iff {α : Type} {denotes : Value → α → Prop} {write : α → Value}
    (hwrite : ∀ a, write a ≠ .null) (o : Option α) :
    OrNull denotes (o.elim .null write) o ↔ ∀ a ∈ o, denotes (write a) a := by
  cases o with
  | none => simp [OrNull]
  | some a => simp [OrNull, hwrite a]

/-- The object that a record of two fields is written as gives both of them. -/
theorem fields?_pair {first second : String} (hne : first ≠ second) (v w : Value) :
    fields? [first, second] (.object [(first, v), (second, w)]) = some [some v, some w] := by
  have hbeq : (second == first) = false := beq_false_of_ne hne.symm
  simp [fields?, List.lookup_cons, hbeq]

theorem isCompletion_toJson_iff (s : CompletionSettings) :
    IsCompletion s.toJson s ↔ ∀ n ∈ s.maxItems, n < wordBound := by
  have hlimit : OrNull Count (s.maxItems.elim .null fun n => .integer n) s.maxItems ↔
      ∀ n ∈ s.maxItems, n < wordBound := by
    rw [orNull_elim_iff nofun]
    simp [Count]
  rw [IsCompletion, CompletionSettings.toJson, fields?_pair (by decide)]
  simp [OrDefault, Texts, hlimit]

theorem isLint_toJson (s : LintSettings) : IsLint s.toJson s := by
  rw [IsLint, LintSettings.toJson, fields?_pair (by decide)]
  exact ⟨_, _, rfl, rfl, Or.inl rfl⟩

theorem isSettings_toJson_iff (s : Settings) :
    IsSettings s.toJson s ↔ ∀ c ∈ s.completion, ∀ n ∈ c.maxItems, n < wordBound := by
  have hcompletion : OrNull IsCompletion (s.completion.elim .null CompletionSettings.toJson)
      s.completion ↔ ∀ c ∈ s.completion, ∀ n ∈ c.maxItems, n < wordBound := by
    rw [orNull_elim_iff nofun]
    simp only [isCompletion_toJson_iff]
  have hlint : OrNull IsLint (s.lint.elim .null LintSettings.toJson) s.lint :=
    (orNull_elim_iff nofun s.lint).2 fun l _ => isLint_toJson l
  have hnull : ¬ (s.toJson = .null ∧ s = {}) := nofun
  rw [IsSettings, or_iff_right hnull, Settings.toJson, fields?_pair (by decide)]
  simp [OrDefault, hcompletion, hlint]

end Schema

/-! ## What is written is ordered -/

theorem ordered_elim {α : Type} {write : α → Value} (hwrite : ∀ a, (write a).Ordered)
    (o : Option α) : (o.elim .null write).Ordered := by
  cases o with
  | none => trivial
  | some a => exact hwrite a

theorem ordered_pair {first second : String} (hlt : first < second) {v w : Value}
    (hv : v.Ordered) (hw : w.Ordered) : (Value.object [(first, v), (second, w)]).Ordered :=
  ⟨List.pairwise_pair.2 hlt, hv, hw, trivial⟩

theorem CompletionSettings.ordered_toJson (s : CompletionSettings) : s.toJson.Ordered := by
  have hlimit : (s.maxItems.elim Value.null fun n => .integer n).Ordered := by
    cases s.maxItems <;> trivial
  have hnames : (Value.list (s.metricNames.map .text)).Ordered :=
    Value.allOrdered_iff.2 (List.forall_mem_map.2 fun _ _ => trivial)
  exact ordered_pair (by decide) hlimit hnames

theorem LintSettings.ordered_toJson (s : LintSettings) : s.toJson.Ordered :=
  ordered_pair (by decide) trivial trivial

theorem Settings.ordered_toJson (s : Settings) : s.toJson.Ordered :=
  ordered_pair (by decide) (ordered_elim CompletionSettings.ordered_toJson s.completion)
    (ordered_elim LintSettings.ordered_toJson s.lint)

/-! ## The main result -/

/-- Where no variable is set, the JSON value of settings is loaded as these settings, whatever they
are, as long as their limit fits into 64 bits. -/
theorem settings_read_back (s : Settings) :
    Settings.load (some s.toJson) (fun _ => none) = .ok s ↔
      ∀ c ∈ s.completion, ∀ n ∈ c.maxItems, n < wordBound := by
  rw [Settings.load_unset, Options.mapError_eq_ok_iff,
    Options.ofOptions_eq_ok_iff s.ordered_toJson, Schema.isSettings_toJson_iff]

end PromqlEditor
