import PromqlEditor.Completion.Vocabulary
import PromqlEditor.Text.Basic

/-!
# Completion

What to suggest at a cursor. The word before the cursor is the longest run of identifier
characters that ends there; the candidates are the metric names of the settings and the vocabulary,
in that order, and those that start with the word are suggested, up to the limit of the settings.
Without a word nothing is suggested unless the user asks.
-/

namespace PromqlEditor

/-! ## Requests -/

/-- A request for suggestions: the text, the byte offset of the cursor, and whether the user asked
for them rather than typed. -/
structure Request where
  text : Text
  offset : Nat
  explicit : Bool := false
deriving DecidableEq, Repr

/-- The characters of identifiers: ASCII letters and digits, `_` and `:`. -/
def isWordChar (c : Char) : Bool := c.isAlphanum || c == '_' || c == ':'

/-- The word that ends at the cursor. -/
def Request.word (r : Request) : Text :=
  ((r.text.before r.offset).reverse.takeWhile isWordChar).reverse

/-- The byte offset at which the word before the cursor starts. -/
def Request.wordStart (r : Request) : Nat :=
  Text.size ((r.text.before r.offset).reverse.dropWhile isWordChar).reverse

/-- The text up to the cursor is that up to the start of the word, and the word. -/
theorem Request.exists_append_word (r : Request) :
    ∃ p, r.text.before r.offset = p ++ r.word ∧ r.wordStart = Text.size p := by
  refine ⟨((r.text.before r.offset).reverse.dropWhile isWordChar).reverse, ?_, rfl⟩
  rw [word, ← List.reverse_append, List.takeWhile_append_dropWhile, List.reverse_reverse]

/-- The word before the cursor stands between its start and the cursor. -/
theorem Request.wordStart_add_size_word (r : Request) :
    r.wordStart + Text.size r.word = r.text.snap r.offset := by
  obtain ⟨p, hbefore, hstart⟩ := r.exists_append_word
  rw [hstart, ← Text.size_append, ← hbefore, Text.snap]

theorem Request.wordStart_le_snap (r : Request) : r.wordStart ≤ r.text.snap r.offset := by
  rw [← r.wordStart_add_size_word]
  exact Nat.le_add_right _ _

/-! ## Suggestions -/

/-- What a suggestion is. -/
inductive ItemKind where
  | function
  | operator
  | keyword
  | constant
deriving DecidableEq, Repr

/-- The number of a kind in the editor protocol. -/
def ItemKind.code : ItemKind → Nat
  | .function => 3
  | .operator => 24
  | .keyword => 14
  | .constant => 21

/-- One suggestion. -/
structure Item where
  label : String
  kind : Option ItemKind
deriving DecidableEq, Repr

/-- Suggestions, and the byte offset from which the accepted one replaces the text. -/
structure Suggestions where
  start : Nat
  items : List Item
deriving DecidableEq, Repr

/-- The settings of completion: the largest number of suggestions, if there is one, and metric
names to suggest next to the vocabulary. -/
structure CompletionSettings where
  maxItems : Option Nat := none
  metricNames : List String := []
deriving DecidableEq, Repr

/-- All that can be suggested, in order. -/
def CompletionSettings.candidates (s : CompletionSettings) : List Item :=
  s.metricNames.map (⟨·, some .constant⟩) ++ Vocabulary.functions.map (⟨·, some .function⟩) ++
    Vocabulary.aggregations.map (⟨·, some .operator⟩) ++
    Vocabulary.modifiers.map (⟨·, some .keyword⟩) ++
    Vocabulary.binaryKeywords.map (⟨·, some .keyword⟩)

/-- The candidates that start with a word. -/
def CompletionSettings.matching (s : CompletionSettings) (word : Text) : List Item :=
  s.candidates.filter fun i => word.isPrefixOf i.label.toList

/-- The candidates that start with a word, cut to the limit. -/
def CompletionSettings.shown (s : CompletionSettings) (word : Text) : List Item :=
  match s.maxItems with
  | none => s.matching word
  | some n => (s.matching word).take n

/-- The suggestions for a request; `none` stands for nothing to suggest. -/
def CompletionSettings.suggest (s : CompletionSettings) (r : Request) : Option Suggestions :=
  if r.word.isEmpty && !r.explicit then none
  else
    let items := s.shown r.word
    if items.isEmpty then none else some ⟨r.wordStart, items⟩

end PromqlEditor
