import PromqlEditor.Proofs.Settings.Records
import PromqlEditor.Settings.Environment

/-!
# Options are read as the schema says

A reader and a relation between values and what they stand for belong together if the reader takes
exactly the values that stand for something, and as what they stand for (`Options.Reads`). That is
shown once for every kind of value, once for values that may be null and once for records of two
fields (`Options.readRecord_eq_ok_iff`), and the sections and the settings are put together from
these. What does not conform is refused as options, before the environment is looked at
(`options_loaded_as_schema`). Values are ordered here, as all are that are written in a text
(`Json.Writes.ordered`).
-/

namespace PromqlEditor

open Json (Value)

namespace Options

variable {α β σ : Type}

/-- Whether a reader takes a value as what it denotes, and no others. -/
def Reads (read : Value → Except OptionsError α) (denotes : Value → α → Prop) : Prop :=
  ∀ v : Value, v.Ordered → ∀ a, read v = .ok a ↔ denotes v a

theorem map_eq_ok_iff {ε : Type} {x : Except ε α} {f : α → β} {b : β} :
    f <$> x = .ok b ↔ ∃ a, x = .ok a ∧ f a = b := by
  cases x <;> simp [Functor.map, Except.map]

theorem bind_eq_ok_iff {ε : Type} {x : Except ε α} {f : α → Except ε β} {b : β} :
    x >>= f = .ok b ↔ ∃ a, x = .ok a ∧ f a = .ok b := by
  cases x <;> simp [bind, Except.bind]

theorem bind_eq_error_iff {ε : Type} {x : Except ε α} {f : α → Except ε β} {e : ε} :
    x >>= f = .error e ↔ x = .error e ∨ ∃ a, x = .ok a ∧ f a = .error e := by
  cases x <;> simp [bind, Except.bind]

theorem map_eq_error_iff {ε : Type} {x : Except ε α} {f : α → β} {e : ε} :
    f <$> x = .error e ↔ x = .error e := by
  cases x <;> simp [Functor.map, Except.map]

theorem mapError_eq_error_iff {ε ε' : Type} {x : Except ε α} {f : ε → ε'} {e : ε'} :
    x.mapError f = .error e ↔ ∃ e', x = .error e' ∧ f e' = e := by
  cases x <;> simp [Except.mapError]

theorem exists_error_iff {ε : Type} {x : Except ε α} : (∃ e, x = .error e) ↔ ¬ ∃ a, x = .ok a := by
  cases x <;> simp

theorem mapError_eq_ok_iff {ε ε' : Type} {x : Except ε α} {f : ε → ε'} {a : α} :
    x.mapError f = .ok a ↔ x = .ok a := by
  cases x <;> simp [Except.mapError]

/-! ## Single values -/

theorem reads_count : Reads readCount Schema.Count := by
  intro v _ n
  cases v with
  | integer k =>
    rw [readCount, Schema.Count, Value.integer.injEq]
    split
    · rw [Except.ok.injEq]
      omega
    · simp only [reduceCtorEq, false_iff]
      omega
  | _ => simp [readCount, Schema.Count]

theorem readText_eq_ok_iff {v : Value} {s : String} : readText v = .ok s ↔ v = .text s := by
  cases v <;> simp [readText]

theorem mapM_readText_eq_ok_iff {items : List Value} {ss : List String} :
    items.mapM readText = .ok ss ↔ items = ss.map .text := by
  induction items generalizing ss with
  | nil => cases ss <;> simp [pure, Except.pure]
  | cons v vs ih =>
    simp only [List.mapM_cons, bind_eq_ok_iff, readText_eq_ok_iff, ih, pure, Except.pure,
      Except.ok.injEq]
    cases ss with
    | nil => simp
    | cons s ss => simp

theorem reads_texts : Reads readTexts Schema.Texts := by
  intro v _ ss
  cases v with
  | list items => simp [readTexts, Schema.Texts, mapM_readText_eq_ok_iff]
  | _ => simp [readTexts, Schema.Texts]

theorem reads_boolean : Reads readBoolean Schema.Truth := by
  intro v _ b
  cases v <;> simp [readBoolean, Schema.Truth]

theorem readSeverityName_eq_ok_iff {name : String} {s : Severity} :
    readSeverityName name = .ok s ↔ name = s.name := by
  rw [← Severity.ofName?_eq_some_iff, readSeverityName]
  cases Severity.ofName? name <;> simp

theorem reads_severity : Reads readSeverity Schema.IsSeverity := by
  intro v _ s
  unfold Schema.IsSeverity
  fun_cases readSeverity v with
  | case1 name => simp [readSeverityName_eq_ok_iff]
  | case2 name v =>
    simp only [bind_eq_ok_iff, readSeverityName_eq_ok_iff]
    cases v <;> simp [pure, Except.pure]
  | case3 members hone => simpa using hone s.name .null
  | case4 v htext hone _ => simpa using ⟨htext s.name, hone s.name .null⟩

/-! ## Values that may be null -/

theorem readOptional_of_ne_null {read : Value → Except OptionsError α} {v : Value}
    (hnull : v ≠ .null) : readOptional read v = some <$> read v := by
  cases v <;> first | rfl | exact absurd rfl hnull

/-- Null is taken as nothing, and anything else by the reader. -/
theorem Reads.optional {read : Value → Except OptionsError α} {denotes : Value → α → Prop}
    (h : Reads read denotes) : Reads (readOptional read) (Schema.OrNull denotes) := by
  intro v hv o
  by_cases hnull : v = .null
  · subst hnull
    cases o <;> simp [readOptional, Schema.OrNull]
  · rw [readOptional_of_ne_null hnull, map_eq_ok_iff]
    cases o <;> simp [Schema.OrNull, hnull, h v hv]

/-! ## Records -/

/-- The first of the fields: if a value is given it is read, if not the default stays. Here `put`
puts a value of the field into the record. -/
theorem setGiven_cons_eq_ok_iff {read : Value → Except OptionsError α}
    {denotes : Value → α → Prop} (h : Reads read denotes) {f : Field σ} {put : α → σ}
    (hset : ∀ v a, f.set v (put a) = put <$> read v) {fs : List (Field σ)} {x : Option Value}
    (hx : ∀ v ∈ x, v.Ordered) {given : List (Option Value)} {dflt : α} {s : σ} :
    setGiven (f :: fs) (x :: given) (put dflt) = .ok s ↔
      ∃ a, Schema.OrDefault denotes dflt x a ∧ setGiven fs given (put a) = .ok s := by
  cases x with
  | none => simp [setGiven, Schema.OrDefault]
  | some v =>
    have hv : v.Ordered := hx v rfl
    simp only [setGiven, hset, bind_eq_ok_iff, map_eq_ok_iff, h v hv, Schema.OrDefault]
    constructor
    · rintro ⟨-, ⟨a, ha, rfl⟩, hs⟩
      exact ⟨a, ha, hs⟩
    · rintro ⟨a, ha, hs⟩
      exact ⟨put a, ⟨a, ha, rfl⟩, hs⟩

/-- A record of two fields is read field by field, each with its default. -/
theorem readRecord_eq_ok_iff {readFirst : Value → Except OptionsError α}
    {readSecond : Value → Except OptionsError β} {isFirst : Value → α → Prop}
    {isSecond : Value → β → Prop} (hfirst : Reads readFirst isFirst)
    (hsecond : Reads readSecond isSecond) {f g : Field σ} (hlt : f.name < g.name) {mk : α → β → σ}
    (hmk : Function.Injective2 mk) (hf : ∀ v a b, f.set v (mk a b) = (mk · b) <$> readFirst v)
    (hg : ∀ v a b, g.set v (mk a b) = mk a <$> readSecond v) {expected : Expected}
    {v : Value} (hv : v.Ordered) {a dfltFirst : α} {b dfltSecond : β} :
    readRecord expected [f, g] (mk dfltFirst dfltSecond) v = .ok (mk a b) ↔
      ∃ x y, Schema.fields? ([f, g].map Field.name) v = some [x, y] ∧
        Schema.OrDefault isFirst dfltFirst x a ∧ Schema.OrDefault isSecond dfltSecond y b := by
  cases hgiven : Schema.fields? ([f, g].map Field.name) v with
  | none => simpa using readRecord_ne_ok hgiven (mk a b)
  | some given =>
    have hnames : (List.map Field.name [f, g]).Pairwise (· < ·) := by simpa using hlt
    obtain ⟨x, y, rfl⟩ := List.length_eq_two.1 (length_of_fields? hgiven)
    have hordered := ordered_of_fields? hv hgiven
    rw [readRecord_eq_setGiven hnames hv hgiven,
      setGiven_cons_eq_ok_iff hfirst (fun v a => hf v a dfltSecond) (hordered x (by simp))]
    simp only [setGiven_cons_eq_ok_iff hsecond (fun v b => hg v _ b) (hordered y (by simp)),
      setGiven]
    constructor
    · rintro ⟨a', ha, b', hb, heq⟩
      obtain ⟨rfl, rfl⟩ := hmk (Except.ok.inj heq)
      exact ⟨x, y, rfl, ha, hb⟩
    · rintro ⟨_, _, heq, ha, hb⟩
      cases heq
      exact ⟨a, ha, b, hb, rfl⟩

theorem reads_completion : Reads readCompletion Schema.IsCompletion := by
  rintro v hv ⟨maxItems, metricNames⟩
  exact readRecord_eq_ok_iff reads_count.optional reads_texts (by decide)
    (fun _ _ _ _ => CompletionSettings.mk.inj) (fun _ _ _ => rfl) (fun _ _ _ => rfl) hv

theorem reads_lint : Reads readLint Schema.IsLint := by
  rintro v hv ⟨enabled, severity⟩
  exact readRecord_eq_ok_iff reads_boolean reads_severity (by decide)
    (fun _ _ _ _ => LintSettings.mk.inj) (fun _ _ _ => rfl) (fun _ _ _ => rfl) hv

theorem ofOptions_of_ne_null {v : Value} (hnull : v ≠ .null) :
    Settings.ofOptions (some v) = readSettings v := by
  cases v <;> first | rfl | exact absurd rfl hnull

theorem ofOptions_eq_ok_iff {v : Value} (hv : v.Ordered) {s : Settings} :
    Settings.ofOptions (some v) = .ok s ↔ Schema.IsSettings v s := by
  by_cases hnull : v = .null
  · subst hnull
    simp [Settings.ofOptions, Schema.IsSettings, Schema.fields?, eq_comm]
  · obtain ⟨completion, lint⟩ := s
    rw [ofOptions_of_ne_null hnull, Schema.IsSettings, or_iff_right fun h => hnull h.1]
    exact readRecord_eq_ok_iff reads_completion.optional reads_lint.optional (by decide)
      (fun _ _ _ _ => Settings.mk.inj) (fun _ _ _ => rfl) (fun _ _ _ => rfl) hv

theorem ofOptions_eq_ok_iff_isOptions {options : Option Value} (h : ∀ v ∈ options, v.Ordered)
    {s : Settings} : Settings.ofOptions options = .ok s ↔ Schema.IsOptions options s := by
  cases options with
  | none => simp [Settings.ofOptions, Schema.IsOptions, Schema.OrDefault, eq_comm]
  | some v => exact ofOptions_eq_ok_iff (h v rfl)

end Options

/-! ## The main result -/

/-- Where no variable is set, only the options count. -/
theorem Settings.load_unset (options : Option Value) :
    Settings.load options (fun _ => none) = (Settings.ofOptions options).mapError .options := by
  unfold Settings.load
  cases Settings.ofOptions options <;> rfl

/-- Where no variable is set, a value is loaded as the settings that it stands for according to the
schema. If it stands for none, it is refused as options, and only then. -/
theorem options_loaded_as_schema {v : Value} (hv : v.Ordered) :
    (∀ s, Settings.load (some v) (fun _ => none) = .ok s ↔ Schema.IsSettings v s) ∧
      ((∃ e, Settings.load (some v) (fun _ => none) = .error (.options e)) ↔
        ¬ ∃ s, Schema.IsSettings v s) := by
  simp only [Settings.load_unset, ← Options.ofOptions_eq_ok_iff hv]
  cases Settings.ofOptions (some v) <;> simp [Except.mapError]

/-- Completion as an object with the largest limit and a member that is no field, linting as a list
with the other notation of a severity. Null does not stand for a truth value. -/
theorem mixed_notations_loaded :
    (Value.list
        [.object [("maxItems", .integer 18446744073709551615), ("max_items", .text "ten")],
          .list [.boolean false, .object [("warning", .null)]]]).Ordered ∧
      Schema.IsSettings
        (.list
          [.object [("maxItems", .integer 18446744073709551615), ("max_items", .text "ten")],
            .list [.boolean false, .object [("warning", .null)]]])
        ⟨some ⟨some 18446744073709551615, []⟩, some ⟨false, .warning⟩⟩ ∧
      (Value.object [("lint", .object [("enabled", .null)])]).Ordered ∧
      ¬ ∃ s, Schema.IsSettings (.object [("lint", .object [("enabled", .null)])]) s := by
  have hloaded : (Value.list
      [.object [("maxItems", .integer 18446744073709551615), ("max_items", .text "ten")],
        .list [.boolean false, .object [("warning", .null)]]]).Ordered := by
    simp only [Value.Ordered, Value.AllOrdered, Value.MembersOrdered, and_true]
    decide
  have hrefused : (Value.object [("lint", .object [("enabled", .null)])]).Ordered := by
    simp [Value.Ordered, Value.MembersOrdered]
  exact ⟨hloaded, ((options_loaded_as_schema hloaded).1 _).1 rfl, hrefused,
    (options_loaded_as_schema hrefused).2.1 ⟨_, rfl⟩⟩

end PromqlEditor
