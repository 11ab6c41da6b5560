import PromqlEditor.Proofs.Completion.Insertion

/-!
# What matches

The items that match a word come from five lists, one after the other: the metric names of the
settings and the four lists of the vocabulary. Each list is filtered by itself and gives its items
their kind (`CompletionSettings.startingWith`). A request for which there is something to suggest
gets the first of these items, as many as the limit allows, and nothing else
(`suggestions_are_first_matches`).

The limit only cuts: it is never zero in a strategy that is made of settings, so it leaves
something of what there is, and a higher limit leaves the same items and maybe more.
-/

namespace PromqlEditor

/-- What a request is answered, given the items that match its word and a limit: nothing if it asks
for nothing or nothing matches, and else the first items up to the limit, to stand in place of the
word. -/
structure Request.Gets (r : Request) (limit? : Option Nat) (all : List Item)
    (a : Option Suggestions) : Prop where
  eq_none_iff : a = none ↔ (r.word = [] ∧ r.explicit = false) ∨ all = []
  eq_of_mem : ∀ found ∈ a, found = ⟨r.wordStart, limit?.elim all (all.take ·)⟩

/-- Whether suggestions are the first of others for the same place. -/
def Suggestions.IsStartOf (a b : Suggestions) : Prop := a.start = b.start ∧ a.items <+: b.items

/-! ## The matching items -/

namespace CompletionSettings

variable {s given : CompletionSettings}

/-- The lists that can be suggested from, in order, each with the kind of its items. -/
def sources (s : CompletionSettings) : List (List String × ItemKind) :=
  [(s.metricNames, .constant), (Vocabulary.functions, .function),
    (Vocabulary.aggregations, .operator), (Vocabulary.modifiers, .keyword),
    (Vocabulary.binaryKeywords, .keyword)]

/-- The items that start with a word, list by list. -/
def startingWith (s : CompletionSettings) (word : Text) : List Item :=
  s.sources.flatMap fun (labels, kind) =>
    (labels.filter fun label => word <+: label.toList).map fun label => ⟨label, some kind⟩

theorem candidates_eq_flatMap (s : CompletionSettings) :
    s.candidates = s.sources.flatMap fun (labels, kind) => labels.map (⟨·, some kind⟩) := by
  simp [candidates, sources]

theorem matching_eq_startingWith (s : CompletionSettings) (word : Text) :
    s.matching word = s.startingWith word := by
  have hprefix : (fun label : String => word.isPrefixOf label.toList) =
      fun label => decide (word <+: label.toList) := by
    funext label
    rw [Bool.eq_iff_iff, List.isPrefixOf_iff_prefix, decide_eq_true_iff]
  rw [matching, candidates_eq_flatMap, List.filter_flatMap, startingWith]
  simp only [List.filter_map, Function.comp_def, hprefix]

theorem startingWith_eq_nil_iff {word : Text} : s.startingWith word = [] ↔
    ∀ source ∈ s.sources, ∀ label ∈ source.1, ¬ word <+: label.toList := by
  simp [startingWith]

/-- What starts with a word is decided by the metric names alone. -/
theorem startingWith_congr (h : s.metricNames = given.metricNames) (word : Text) :
    s.startingWith word = given.startingWith word := by
  rw [startingWith, sources, h]
  rfl

/-! ## The limit -/

/-- A limit that is not zero leaves something to show. -/
theorem shown_eq_nil_iff (hzero : s.maxItems ≠ some 0) {word : Text} :
    s.shown word = [] ↔ s.matching word = [] := by
  rw [shown]
  cases hmax : s.maxItems with
  | none => rfl
  | some n =>
    have hn : n ≠ 0 := by
      rintro rfl
      exact hzero hmax
    rw [List.take_eq_nil_iff, or_iff_right hn]

theorem suggest_gets (hzero : s.maxItems ≠ some 0) (r : Request) :
    r.Gets s.maxItems (s.startingWith r.word) (s.suggest r) where
  eq_none_iff := by
    rw [suggest_eq_none_iff, shown_eq_nil_iff hzero, matching_eq_startingWith]
  eq_of_mem found hfound := by
    obtain ⟨-, -, rfl⟩ := suggest_eq_some_iff.1 hfound
    rw [shown, matching_eq_startingWith]
    cases s.maxItems <;> rfl

end CompletionSettings

/-- With a higher limit, or none, a request gets the same and maybe more. -/
theorem Request.Gets.isStartOf {r : Request} {limit? higher? : Option Nat} {all : List Item}
    {a b : Option Suggestions} (ha : r.Gets limit? all a) (hb : r.Gets higher? all b)
    (hle : ∀ m ∈ higher?, ∃ n ∈ limit?, n ≤ m) : Option.Rel Suggestions.IsStartOf a b := by
  have hnone : a = none ↔ b = none := ha.eq_none_iff.trans hb.eq_none_iff.symm
  cases a with
  | none =>
    rw [hnone.1 rfl]
    exact .none
  | some x =>
    cases b with
    | none => cases hnone.2 rfl
    | some y =>
      obtain rfl := ha.eq_of_mem x rfl
      obtain rfl := hb.eq_of_mem y rfl
      refine .some ⟨rfl, ?_⟩
      cases higher? with
      | none =>
        cases limit? with
        | none => exact List.prefix_refl _
        | some n => exact List.take_prefix n _
      | some m =>
        obtain ⟨n, rfl, hnm⟩ := hle m rfl
        exact List.take_prefix_take_left hnm

/-! ## The main result -/

/-- Of every strategy that is made from settings: a request gets nothing if it has no word and the
user did not ask, or if nothing starts with the word. Otherwise it gets what starts with the word,
in order and up to the limit, to stand in place of the word. Where another strategy has the same
metric names and no lower limit, it suggests the same and maybe more. -/
theorem suggestions_are_first_matches {settings : Option CompletionSettings}
    {σ : CompletionStrategy} (hσ : CompletionStrategy.ofSettings settings = .ok σ) (r : Request) :
    ∃ a, σ.answer r = .ok a ∧
      r.Gets (settings.getD {}).maxItems ((settings.getD {}).startingWith r.word) a ∧
      ∀ others τ, CompletionStrategy.ofSettings others = .ok τ →
        (others.getD {}).metricNames = (settings.getD {}).metricNames →
        (∀ m ∈ (others.getD {}).maxItems, ∃ n ∈ (settings.getD {}).maxItems, n ≤ m) →
        ∃ b, τ.answer r = .ok b ∧ Option.Rel Suggestions.IsStartOf a b := by
  obtain ⟨hzero, rfl⟩ := CompletionStrategy.ofSettings_eq_ok_iff.1 hσ
  have hgets := CompletionSettings.suggest_gets hzero r
  refine ⟨_, rfl, hgets, fun others τ hτ hnames hle => ?_⟩
  obtain ⟨hzero', rfl⟩ := CompletionStrategy.ofSettings_eq_ok_iff.1 hτ
  have hgets' := CompletionSettings.suggest_gets hzero' r
  rw [CompletionSettings.startingWith_congr hnames] at hgets'
  exact ⟨_, rfl, hgets.isStartOf hgets' hle⟩

/-- Among the metric names one is there twice and is also the name of a function, and one has
another letter in it. The limit cuts the function off, a higher one does not. -/
theorem repeated_names_are_first_matches :
    CompletionStrategy.ofSettings (some ⟨some 2, ["rate", "räte", "rate"]⟩) =
        .ok (.vocabulary ⟨some 2, ["rate", "räte", "rate"]⟩) ∧
      CompletionStrategy.ofSettings (some ⟨some 3, ["rate", "räte", "rate"]⟩) =
        .ok (.vocabulary ⟨some 3, ["rate", "räte", "rate"]⟩) ∧
      ∃ a b, (CompletionStrategy.vocabulary ⟨some 2, ["rate", "räte", "rate"]⟩).answer
          ⟨['(', 'r', 'a'], 3, false⟩ = .ok a ∧
        (CompletionStrategy.vocabulary ⟨some 3, ["rate", "räte", "rate"]⟩).answer
          ⟨['(', 'r', 'a'], 3, false⟩ = .ok b ∧
        Request.Gets ⟨['(', 'r', 'a'], 3, false⟩ (some 2)
          [⟨"rate", some .constant⟩, ⟨"rate", some .constant⟩, ⟨"rate", some .function⟩] a ∧
        Option.Rel Suggestions.IsStartOf a b := by
  have hmade : CompletionStrategy.ofSettings (some ⟨some 2, ["rate", "räte", "rate"]⟩) =
      .ok (.vocabulary ⟨some 2, ["rate", "räte", "rate"]⟩) := rfl
  have hmade' : CompletionStrategy.ofSettings (some ⟨some 3, ["rate", "räte", "rate"]⟩) =
      .ok (.vocabulary ⟨some 3, ["rate", "räte", "rate"]⟩) := rfl
  obtain ⟨a, ha, hgets, hothers⟩ := suggestions_are_first_matches hmade ⟨['(', 'r', 'a'], 3, false⟩
  obtain ⟨b, hb, hstart⟩ := hothers _ _ hmade' rfl (by simp)
  exact ⟨hmade, hmade', a, b, ha, hb, hgets, hstart⟩

end PromqlEditor
