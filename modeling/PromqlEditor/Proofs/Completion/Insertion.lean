import PromqlEditor.Proofs.Text.Offset
import PromqlEditor.Service.Strategy

/-!
# Accepting a suggestion

An editor that accepts a suggestion replaces the text from the start of the suggestions up to the
cursor by the label. What stands there is the word before the cursor
(`Request.slice_wordStart`), and every label that is suggested starts with it
(`CompletionSettings.word_prefix_of_mem_shown`). So nothing that was typed goes away or changes: the
rest of the label is put in at the cursor, and that is all (`accepted_suggestion_only_inserts`).
-/

namespace PromqlEditor

/-- The text with what lies between two offsets replaced by another text. -/
def Text.replace (t : Text) (start stop : Nat) (new : Text) : Text :=
  t.before start ++ new ++ t.after stop

/-- Whether replacing a stretch of a text by the label of an item leaves the stretch and everything
around it as it was, with the rest of the label put in behind the stretch. -/
def Item.OnlyInserts (i : Item) (t : Text) (start stop : Nat) : Prop :=
  ∃ new, i.label.toList = t.slice start stop ++ new ∧
    t.replace start stop i.label.toList = t.before stop ++ new ++ t.after stop

/-! ## The word and its place -/

namespace Request

variable (r : Request)

theorem before_wordStart_append_word :
    r.text.before r.wordStart ++ r.word = r.text.before r.offset := by
  obtain ⟨p, hbefore, hstart⟩ := r.exists_append_word
  have htext : r.text = p ++ (r.word ++ r.text.after r.offset) := by
    rw [← List.append_assoc, ← hbefore, Text.before_append_after]
  have hcut : r.text.before r.wordStart = p := by
    rw [hstart, htext, Text.before_append_size]
  rw [hcut, hbefore]

theorem isBoundary_wordStart : r.text.IsBoundary r.wordStart := by
  obtain ⟨p, hbefore, hstart⟩ := r.exists_append_word
  refine ⟨p, ⟨r.word ++ r.text.after r.offset, ?_⟩, hstart.symm⟩
  rw [← List.append_assoc, ← hbefore, Text.before_append_after]

/-- What stands between the start of the word and the cursor is the word. -/
theorem slice_wordStart : r.text.slice r.wordStart (r.text.snap r.offset) = r.word := by
  obtain ⟨p, hbefore, hstart⟩ := r.exists_append_word
  rw [Text.slice, Text.before_snap, hbefore, hstart, Text.after_append_size]

/-- An item with a label that starts with the word only puts something in at the cursor. -/
theorem onlyInserts_of_word_prefix {i : Item} (hi : r.word <+: i.label.toList) :
    i.OnlyInserts r.text r.wordStart (r.text.snap r.offset) := by
  obtain ⟨new, hnew⟩ := hi
  refine ⟨new, by rw [slice_wordStart, hnew], ?_⟩
  calc r.text.replace r.wordStart (r.text.snap r.offset) i.label.toList
      = r.text.before r.wordStart ++ r.word ++ new ++ r.text.after (r.text.snap r.offset) := by
        rw [Text.replace, ← hnew, List.append_assoc _ r.word]
    _ = r.text.before (r.text.snap r.offset) ++ new ++ r.text.after (r.text.snap r.offset) := by
        rw [before_wordStart_append_word, Text.before_snap]

end Request

/-! ## What is suggested -/

namespace CompletionSettings

variable {s : CompletionSettings}

/-- What is shown starts with the word. -/
theorem word_prefix_of_mem_shown {word : Text} {i : Item} (hi : i ∈ s.shown word) :
    word <+: i.label.toList := by
  have hmatching : i ∈ s.matching word := by
    rw [shown] at hi
    split at hi
    · exact hi
    · exact List.mem_of_mem_take hi
  exact List.isPrefixOf_iff_prefix.1 (List.mem_filter.1 hmatching).2

/-- There are suggestions if there is a word or the user asks, and something is to be shown. -/
theorem suggest_eq (s : CompletionSettings) (r : Request) :
    s.suggest r =
      if (r.word ≠ [] ∨ r.explicit = true) ∧ s.shown r.word ≠ [] then
        some ⟨r.wordStart, s.shown r.word⟩
      else none := by
  have hasked : (r.word.isEmpty && !r.explicit) = false ↔ r.word ≠ [] ∨ r.explicit = true := by
    cases r.explicit <;> simp
  simp only [suggest, ← hasked]
  cases r.word.isEmpty && !r.explicit with
  | true => simp
  | false => by_cases hshown : s.shown r.word = [] <;> simp [hshown]

theorem suggest_eq_some_iff {r : Request} {a : Suggestions} :
    s.suggest r = some a ↔
      (r.word ≠ [] ∨ r.explicit = true) ∧ s.shown r.word ≠ [] ∧
        a = ⟨r.wordStart, s.shown r.word⟩ := by
  rw [suggest_eq, Option.ite_none_right_eq_some, and_assoc, Option.some_inj, eq_comm (a := a)]

theorem suggest_eq_none_iff {r : Request} :
    s.suggest r = none ↔ (r.word = [] ∧ r.explicit = false) ∨ s.shown r.word = [] := by
  rw [suggest_eq, ite_eq_right_iff, imp_iff_not (Option.some_ne_none _), not_and_or, not_or,
    not_not, not_not, Bool.not_eq_true]

end CompletionSettings

/-! ## The main result -/

/-- Of every strategy that is made from settings: what it suggests is to replace the text from a
character boundary, which is not behind the cursor, up to the cursor. The word that was typed
stands there, and accepting a suggestion adds to it what is left of the label. -/
theorem accepted_suggestion_only_inserts {settings : Option CompletionSettings}
    {σ : CompletionStrategy} (hσ : CompletionStrategy.ofSettings settings = .ok σ) {r : Request}
    {a : Suggestions} (ha : σ.answer r = .ok (some a)) :
    ∃ c, IsGreatest {b | r.text.IsBoundary b ∧ b ≤ min r.offset r.text.size} c ∧
      r.text.IsBoundary a.start ∧ a.start ≤ c ∧ r.text.slice a.start c = r.word ∧
      ∀ i ∈ a.items, i.OnlyInserts r.text a.start c := by
  obtain rfl : σ = .vocabulary (settings.getD {}) := by
    rw [CompletionStrategy.ofSettings_eq] at hσ
    split at hσ
    · cases hσ
    · exact (Except.ok.inj hσ).symm
  obtain ⟨-, -, rfl⟩ := CompletionSettings.suggest_eq_some_iff.1 (Except.ok.inj ha)
  have hle : r.wordStart ≤ r.text.snap r.offset := by
    rw [← r.wordStart_add_size_word]
    exact Nat.le_add_right _ _
  exact ⟨r.text.snap r.offset, r.text.isGreatest_snap r.offset, r.isBoundary_wordStart, hle,
    r.slice_wordStart, fun i hi =>
      r.onlyInserts_of_word_prefix (CompletionSettings.word_prefix_of_mem_shown hi)⟩

/-- Three of four names start with the word `a_`, of which two are shown; the cursor is inside the
character behind the word. -/
theorem cut_suggestions_only_insert :
    CompletionStrategy.ofSettings (some ⟨some 2, ["a_⚠", "b", "a_b", "a_c"]⟩) =
        .ok (.vocabulary ⟨some 2, ["a_⚠", "b", "a_b", "a_c"]⟩) ∧
      (CompletionStrategy.vocabulary ⟨some 2, ["a_⚠", "b", "a_b", "a_c"]⟩).answer
          ⟨['⚠', 'a', '_', '⚠', '('], 7, false⟩ =
        .ok (some ⟨3, [⟨"a_⚠", some .constant⟩, ⟨"a_b", some .constant⟩]⟩) ∧
      ∃ c, IsGreatest {b | Text.IsBoundary ['⚠', 'a', '_', '⚠', '('] b ∧
          b ≤ min 7 (Text.size ['⚠', 'a', '_', '⚠', '('])} c ∧
        Text.IsBoundary ['⚠', 'a', '_', '⚠', '('] 3 ∧ 3 ≤ c ∧
        Text.slice ['⚠', 'a', '_', '⚠', '('] 3 c = ['a', '_'] ∧
        ∀ i ∈ [⟨"a_⚠", some .constant⟩, ⟨"a_b", some .constant⟩],
          Item.OnlyInserts i ['⚠', 'a', '_', '⚠', '('] 3 c := by
  have hmade : CompletionStrategy.ofSettings (some ⟨some 2, ["a_⚠", "b", "a_b", "a_c"]⟩) =
      .ok (.vocabulary ⟨some 2, ["a_⚠", "b", "a_b", "a_c"]⟩) := rfl
  have hanswer : (CompletionStrategy.vocabulary ⟨some 2, ["a_⚠", "b", "a_b", "a_c"]⟩).answer
      ⟨['⚠', 'a', '_', '⚠', '('], 7, false⟩ =
      .ok (some ⟨3, [⟨"a_⚠", some .constant⟩, ⟨"a_b", some .constant⟩]⟩) := rfl
  exact ⟨hmade, hanswer, accepted_suggestion_only_inserts hmade hanswer⟩

end PromqlEditor
