import PromqlEditor.Proofs.Completion.Matching
import PromqlEditor.Proofs.Completion.Word

/-!
# Typing on

An editor that shows suggestions need not ask again while the user goes on with the word: it may
keep the suggestions that start with the longer word and drop the others
(`Suggestions.narrow?`). This gives what a new request would be answered, provided that the limit
has not cut the suggestions that are shown (`typing_on_narrows_suggestions`).

There are two reasons. Identifier characters that are typed at the cursor are added to the word and
leave its start where it is, whatever stands behind the cursor (`Request.word_between_append`). And
what starts with the longer word is part of what starts with the word
(`CompletionSettings.matching_append`), so a limit that is high enough for the one is high enough
for the other.
-/

namespace PromqlEditor

/-- The request for suggestions at a cursor between two texts. -/
def Request.between (left right : Text) (explicit : Bool) : Request :=
  ⟨left ++ right, left.size, explicit⟩

/-- Items to stand at a place, if there are any. -/
def Suggestions.of? (start : Nat) (items : List Item) : Option Suggestions :=
  if items = [] then none else some ⟨start, items⟩

/-- What is left of suggestions if only those are kept that start with a word. -/
def Suggestions.narrow? (a : Suggestions) (word : Text) : Option Suggestions :=
  of? a.start (a.items.filter fun i => word <+: i.label.toList)

theorem Suggestions.bind_narrow?_of? (start : Nat) (items : List Item) (word : Text) :
    (of? start items).bind (·.narrow? word) =
      of? start (items.filter fun i => word <+: i.label.toList) := by
  by_cases h : items = []
  · simp [of?, h]
  · simp [of?, narrow?, h]

/-! ## A longer word -/

namespace Request

theorem before_offset_between (t rest : Text) (asked : Bool) :
    (between t rest asked).text.before (between t rest asked).offset = t :=
  Text.before_append_size t rest

/-- Identifier characters that are typed at the cursor make the word longer. -/
theorem word_between_append (t rest : Text) (asked later : Bool) {typed : Text}
    (htyped : ∀ c ∈ typed, InIdentifier c) :
    (between (t ++ typed) rest later).word = (between t rest asked).word ++ typed ∧
      (between (t ++ typed) rest later).wordStart = (between t rest asked).wordStart := by
  set r := between t rest asked with hr
  have hbefore : r.text.before r.wordStart ++ (r.word ++ typed) =
      (between (t ++ typed) rest later).text.before (between (t ++ typed) rest later).offset := by
    rw [← List.append_assoc, before_wordStart_append_word, hr, before_offset_between,
      before_offset_between]
  have hword : ∀ c ∈ r.word ++ typed, isWordChar c = true := by
    intro c hc
    rcases List.mem_append.1 hc with hc | hc
    · exact isWordChar_of_mem_word hc
    · exact isWordChar_iff.2 (htyped c hc)
  obtain ⟨hlonger, hstart⟩ := word_eq_of_append hbefore hword fun c => not_isWordChar_of_getLast?
  exact ⟨hlonger, hstart.trans r.isBoundary_wordStart.size_before⟩

end Request

/-! ## What is shown for it -/

namespace CompletionSettings

variable {s : CompletionSettings} {word : Text}

/-- What starts with a longer word starts with the word. -/
theorem matching_append (s : CompletionSettings) (word typed : Text) :
    s.matching (word ++ typed) =
      (s.matching word).filter fun i => (word ++ typed) <+: i.label.toList := by
  rw [matching, matching, List.filter_filter]
  refine List.filter_congr fun i _ => ?_
  rw [Bool.eq_iff_iff, Bool.and_eq_true, decide_eq_true_iff, List.isPrefixOf_iff_prefix,
    List.isPrefixOf_iff_prefix, iff_self_and]
  exact fun h => (List.prefix_append word typed).trans h

/-- A limit that what matches does not exceed does not cut it. -/
theorem shown_eq_matching (hlimit : ∀ n ∈ s.maxItems, (s.matching word).length ≤ n) :
    s.shown word = s.matching word := by
  rw [shown]
  cases hmax : s.maxItems with
  | none => rfl
  | some n => exact List.take_of_length_le (hlimit n hmax)

/-- The suggestions for a request with a word or of a user who asks. -/
theorem suggest_of_asked {r : Request} (hasked : r.word ≠ [] ∨ r.explicit = true) :
    s.suggest r = Suggestions.of? r.wordStart (s.shown r.word) := by
  rw [suggest_eq, Suggestions.of?]
  by_cases hshown : s.shown r.word = [] <;> simp [hasked, hshown]

/-- While the limit does not cut, the suggestions for a longer word are those for the word that
start with it. -/
theorem suggest_between_append {t typed rest : Text} {asked later : Bool}
    (hasked : (Request.between t rest asked).word ≠ [] ∨ asked = true) (hne : typed ≠ [])
    (htyped : ∀ c ∈ typed, InIdentifier c)
    (hlimit : ∀ n ∈ s.maxItems, (s.matching (Request.between t rest asked).word).length ≤ n) :
    s.suggest (Request.between (t ++ typed) rest later) =
      (s.suggest (Request.between t rest asked)).bind
        (·.narrow? ((Request.between t rest asked).word ++ typed)) := by
  obtain ⟨hword, hstart⟩ := Request.word_between_append t rest asked later htyped
  have hlater : (Request.between (t ++ typed) rest later).word ≠ [] := by
    rw [hword]
    exact List.append_ne_nil_of_right_ne_nil _ hne
  have hfit : ∀ n ∈ s.maxItems,
      (s.matching ((Request.between t rest asked).word ++ typed)).length ≤ n := by
    intro n hn
    rw [matching_append]
    exact Nat.le_trans (List.length_filter_le _ _) (hlimit n hn)
  rw [suggest_of_asked hasked, suggest_of_asked (Or.inl hlater), hword, hstart,
    shown_eq_matching hlimit, shown_eq_matching hfit, matching_append,
    Suggestions.bind_narrow?_of?]

end CompletionSettings

/-! ## The main result -/

/-- Of every strategy that is made from settings: let a request have a word or come from a user who
asks, and let the limit, if there is one, be no lower than the number of items that start with the
word. If identifier characters are then typed at the cursor, the next request is answered with
those of the suggestions that start with the longer word, and with nothing if there are none. -/
theorem typing_on_narrows_suggestions {settings : Option CompletionSettings}
    {σ : CompletionStrategy} (hσ : CompletionStrategy.ofSettings settings = .ok σ)
    (t typed rest : Text) (asked later : Bool)
    (hasked : (Request.between t rest asked).word ≠ [] ∨ asked = true) (hne : typed ≠ [])
    (htyped : ∀ c ∈ typed, InIdentifier c)
    (hlimit : ∀ n ∈ (settings.getD {}).maxItems,
      ((settings.getD {}).startingWith (Request.between t rest asked).word).length ≤ n) :
    ∃ a b, σ.answer (Request.between t rest asked) = .ok a ∧
      σ.answer (Request.between (t ++ typed) rest later) = .ok b ∧
      b = a.bind (·.narrow? ((Request.between t rest asked).word ++ typed)) := by
  obtain ⟨-, rfl⟩ := CompletionStrategy.ofSettings_eq_ok_iff.1 hσ
  rw [← CompletionSettings.matching_eq_startingWith] at hlimit
  exact ⟨_, _, rfl, rfl, CompletionSettings.suggest_between_append hasked hne htyped hlimit⟩

/-- Five items start with `r`, as many as the limit allows. Of these, one metric name and the
function of the same name start with `ra`; what stands behind the cursor does not count. -/
theorem two_of_five_suggestions_left :
    CompletionStrategy.ofSettings (some ⟨some 5, ["rate", "räte"]⟩) =
        .ok (.vocabulary ⟨some 5, ["rate", "räte"]⟩) ∧
      (Request.between ['(', 'r'] ['t', 'e', '('] false).word = ['r'] ∧
      (∀ c ∈ ['a'], InIdentifier c) ∧
      (CompletionSettings.startingWith ⟨some 5, ["rate", "räte"]⟩ ['r']).length = 5 ∧
      ∃ a b, (CompletionStrategy.vocabulary ⟨some 5, ["rate", "räte"]⟩).answer
          (Request.between ['(', 'r'] ['t', 'e', '('] false) = .ok a ∧
        (CompletionStrategy.vocabulary ⟨some 5, ["rate", "räte"]⟩).answer
          (Request.between ['(', 'r', 'a'] ['t', 'e', '('] false) = .ok b ∧
        b = a.bind (·.narrow? ['r', 'a']) ∧
        b = some ⟨1, [⟨"rate", some .constant⟩, ⟨"rate", some .function⟩]⟩ := by
  have hmade : CompletionStrategy.ofSettings (some ⟨some 5, ["rate", "räte"]⟩) =
      .ok (.vocabulary ⟨some 5, ["rate", "räte"]⟩) := rfl
  have hword : (Request.between ['(', 'r'] ['t', 'e', '('] false).word = ['r'] := rfl
  have htyped : ∀ c ∈ ['a'], InIdentifier c := by simp [InIdentifier]
  have hlength : (CompletionSettings.startingWith ⟨some 5, ["rate", "räte"]⟩ ['r']).length = 5 := by
    decide
  obtain ⟨a, b, ha, hb, hnarrow⟩ := typing_on_narrows_suggestions hmade ['(', 'r'] ['a']
    ['t', 'e', '('] false false (Or.inl (by simp [hword])) (List.cons_ne_nil _ _) htyped
    (by simp [hword, hlength])
  exact ⟨hmade, hword, htyped, hlength, a, b, ha, hb, hnarrow, (Except.ok.inj hb).symm.trans rfl⟩

end PromqlEditor
