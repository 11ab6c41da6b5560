import PromqlEditor.Proofs.Decimal.Count
import PromqlEditor.Proofs.Settings.Conformance
import PromqlEditor.Proofs.Text.Lowercase
import PromqlEditor.Proofs.Text.Trimming
import PromqlEditor.Settings.Values

/-!
# Variables are read as they are meant

A switch is read as on or off just if its value is a word for that (`readSwitch?_eq_some_iff`), and
a limit as the number that its value writes (`readLimit?_eq_some_iff`). From there on it does not
matter how values are read. An environment overrides what its variables stand for
(`Overrides.ofEnvironment_eq_ok_iff_rel`), and it is refused for the first of them that makes no
sense, with the value as it is set (`Overrides.ofEnvironment_eq_error_iff`).
-/

namespace PromqlEditor

/-! ## Switches -/

section Switches

variable {value : String} {b b' : Bool}

theorem isPlain_of_mem_switchWords {word : String} (hword : word ∈ Schema.switchWords b) :
    ∀ c ∈ word.toList, Text.IsPlain c := by
  have hall : ∀ b : Bool, ∀ word ∈ Schema.switchWords b,
      word.toList.all (fun c => decide (Text.IsPlain c)) = true := by decide
  intro c hc
  exact of_decide_eq_true (List.all_eq_true.1 (hall b word hword) c hc)

/-- No word stands for both. -/
theorem Schema.IsSwitch.unique (h : Schema.IsSwitch value b) (h' : Schema.IsSwitch value b') :
    b = b' := by
  obtain ⟨t, ht, word, hword, hspelt⟩ := h
  obtain ⟨t', ht', word', hword', hspelt'⟩ := h'
  obtain rfl : t = t' := ht.trim_eq.symm.trans ht'.trim_eq
  obtain rfl : word = word' := String.toList_injective (hspelt.symm.trans hspelt')
  have hdisjoint : ∀ b b' : Bool, ∀ word ∈ Schema.switchWords b,
      word ∈ Schema.switchWords b' → b = b' := by decide
  exact hdisjoint b b' word hword hword'

/-- The lower case of a value is a word for a switch just if the value is one in any case. -/
theorem contains_lowercase_iff :
    (Schema.switchWords b).contains (String.ofList (Text.lowercase (Text.trim value.toList))) =
      true ↔ Schema.IsSwitch value b := by
  rw [List.contains_iff_mem]
  constructor
  · intro hmem
    have hspelt := (Text.lowercase_eq_iff (isPlain_of_mem_switchWords hmem) _).1
      String.toList_ofList.symm
    exact ⟨_, Text.trimsTo_trim value.toList, _, hmem, hspelt⟩
  · rintro ⟨t, ht, word, hword, hspelt⟩
    rw [ht.trim_eq, (Text.lowercase_eq_iff (isPlain_of_mem_switchWords hword) t).2 hspelt,
      String.ofList_toList]
    exact hword

theorem readSwitch?_eq_some_iff : readSwitch? value = some b ↔ Schema.IsSwitch value b := by
  show (if (Schema.switchWords true).contains _ = true then some true
    else if (Schema.switchWords false).contains _ = true then some false else none) = some b ↔ _
  by_cases htrue : Schema.IsSwitch value true
  · rw [if_pos (contains_lowercase_iff.2 htrue), Option.some.injEq]
    exact ⟨fun h => h ▸ htrue, htrue.unique⟩
  · rw [if_neg (mt contains_lowercase_iff.1 htrue)]
    by_cases hfalse : Schema.IsSwitch value false
    · rw [if_pos (contains_lowercase_iff.2 hfalse), Option.some.injEq]
      exact ⟨fun h => h ▸ hfalse, hfalse.unique⟩
    · rw [if_neg (mt contains_lowercase_iff.1 hfalse)]
      cases b
      · exact iff_of_false nofun hfalse
      · exact iff_of_false nofun htrue

end Switches

/-! ## Limits -/

theorem readLimit?_eq_some_iff {value : String} {n : Nat} :
    readLimit? value = some n ↔ Schema.IsLimit value n := by
  rw [readLimit?, Option.filter_eq_some_iff, readCount?_eq_some_iff, decide_eq_true_eq]
  unfold Schema.IsLimit
  simp only [Text.trim_eq_iff]
  constructor
  · rintro ⟨⟨digits, hdigits, hne, hall, hvalue, hfits⟩, hpos⟩
    exact ⟨digits, hdigits, hne, hall, hvalue, hpos, hfits⟩
  · rintro ⟨digits, hdigits, hne, hall, hvalue, hpos, hfits⟩
    exact ⟨⟨digits, hdigits, hne, hall, hvalue, hfits⟩, hpos⟩

/-! ## Environments -/

section Environments

variable {α : Type} {env : Environment} {x : Variable} {read? : String → Option α}
  {denotes : String → α → Prop}

/-- A variable is understood if it is not set, or its value makes sense. -/
theorem Environment.read_eq_ok_iff {a : Option α} :
    env.read x read? = .ok a ↔ (env x).map read? = a.map some := by
  rw [read]
  cases env x with
  | none => cases a <;> simp
  | some value =>
    cases hvalue : read? value with
    | none => cases a <;> simp [hvalue]
    | some b => cases a <;> simp [hvalue]

theorem Environment.read_eq_ok_iff_rel (h : ∀ value a, read? value = some a ↔ denotes value a)
    {a : Option α} : env.read x read? = .ok a ↔ Option.Rel denotes (env x) a := by
  rw [read_eq_ok_iff]
  cases env x with
  | none => cases a <;> simp
  | some value => cases a <;> simp [h]

/-- A variable is refused for its fault, with the value as it is set. -/
theorem Environment.read_eq_error_iff (h : ∀ value, (∃ a, read? value = some a) ↔ x.Accepts value)
    {e : EnvironmentError} : env.read x read? = .error e ↔ e.source = x ∧ env.IsFault e := by
  obtain ⟨source, value⟩ := e
  rw [read, IsFault]
  show _ ↔ source = x ∧ env source = some value ∧ ¬ source.Accepts value
  cases hset : env x with
  | none =>
    refine iff_of_false ?_ ?_
    · intro herror
      cases herror
    · rintro ⟨rfl, hvalue, -⟩
      exact Option.some_ne_none value (hvalue.symm.trans hset)
  | some given =>
    cases hread : read? given with
    | none =>
      have hnot : ¬ x.Accepts given := by
        intro haccepts
        obtain ⟨a, ha⟩ := (h given).2 haccepts
        exact Option.some_ne_none a (ha.symm.trans hread)
      simp only [hread, Except.error.injEq, EnvironmentError.mk.injEq]
      constructor
      · rintro ⟨rfl, rfl⟩
        exact ⟨rfl, hset, hnot⟩
      · rintro ⟨rfl, hvalue, -⟩
        exact ⟨rfl, Option.some.inj (hset.symm.trans hvalue)⟩
    | some a =>
      simp only [hread, reduceCtorEq, false_iff]
      rintro ⟨rfl, hvalue, hnot⟩
      obtain rfl : given = value := Option.some.inj (hset.symm.trans hvalue)
      exact hnot ((h given).1 ⟨a, hread⟩)

/-- A variable is understood just if it has no fault. -/
theorem Environment.exists_read_iff (h : ∀ value, (∃ a, read? value = some a) ↔ x.Accepts value) :
    (∃ a, env.read x read? = .ok a) ↔ ∀ value, ¬ env.IsFault ⟨x, value⟩ := by
  rw [← not_iff_not, ← Options.exists_error_iff, not_forall_not]
  simp only [read_eq_error_iff h]
  constructor
  · rintro ⟨⟨source, value⟩, rfl, hfault⟩
    exact ⟨value, hfault⟩
  · rintro ⟨value, hfault⟩
    exact ⟨⟨x, value⟩, rfl, hfault⟩

end Environments

namespace Overrides

variable {env : Environment} {e : EnvironmentError}

theorem ofEnvironment_eq_ok_iff_rel {o : Overrides} :
    ofEnvironment env = .ok o ↔
      Option.Rel Schema.IsSwitch (env .lintEnabled) o.lintEnabled ∧
        Option.Rel Schema.IsLimit (env .maxItems) o.maxItems := by
  rw [← Environment.read_eq_ok_iff_rel fun _ _ => readSwitch?_eq_some_iff,
    ← Environment.read_eq_ok_iff_rel fun _ _ => readLimit?_eq_some_iff]
  obtain ⟨lintEnabled, maxItems⟩ := o
  simp [ofEnvironment, Options.bind_eq_ok_iff, pure, Except.pure]

theorem exists_readSwitch?_iff (value : String) :
    (∃ b, readSwitch? value = some b) ↔ Variable.lintEnabled.Accepts value :=
  exists_congr fun _ => readSwitch?_eq_some_iff

theorem exists_readLimit?_iff (value : String) :
    (∃ n, readLimit? value = some n) ↔ Variable.maxItems.Accepts value :=
  exists_congr fun _ => readLimit?_eq_some_iff

/-- An environment is refused for its first fault. -/
theorem ofEnvironment_eq_error_iff : ofEnvironment env = .error e ↔ env.IsFirstFault e := by
  have hreads : ofEnvironment env = .error e ↔
      (e.source = .lintEnabled ∧ env.IsFault e) ∨
        (∀ value, ¬ env.IsFault ⟨.lintEnabled, value⟩) ∧
          e.source = .maxItems ∧ env.IsFault e := by
    rw [ofEnvironment, Options.bind_eq_error_iff,
      Environment.read_eq_error_iff exists_readSwitch?_iff,
      ← Environment.exists_read_iff exists_readSwitch?_iff,
      ← Environment.read_eq_error_iff exists_readLimit?_iff]
    simp only [Options.bind_eq_error_iff, pure, Except.pure, reduceCtorEq, and_false,
      exists_false, or_false, exists_and_right]
  rw [hreads]
  obtain ⟨source, value⟩ := e
  cases source with
  | lintEnabled => simp [Environment.IsFirstFault]
  | maxItems => simp [Environment.IsFirstFault]

/-- An environment is accepted just if it has no fault. -/
theorem exists_ofEnvironment_iff : (∃ o, ofEnvironment env = .ok o) ↔ ∀ e, ¬ env.IsFault e := by
  rw [← not_iff_not, ← Options.exists_error_iff, not_forall_not]
  simp only [ofEnvironment_eq_error_iff]
  constructor
  · rintro ⟨⟨source, value⟩, hfirst⟩
    cases source with
    | lintEnabled => exact ⟨_, hfirst⟩
    | maxItems => exact ⟨_, hfirst.2⟩
  · rintro ⟨⟨source, value⟩, hfault⟩
    cases source with
    | lintEnabled => exact ⟨⟨.lintEnabled, value⟩, hfault⟩
    | maxItems =>
      by_cases hswitch : ∃ other, env.IsFault ⟨.lintEnabled, other⟩
      · obtain ⟨other, hother⟩ := hswitch
        exact ⟨⟨.lintEnabled, other⟩, hother⟩
      · exact ⟨⟨.maxItems, value⟩, not_exists.1 hswitch, hfault⟩

end Overrides

end PromqlEditor
