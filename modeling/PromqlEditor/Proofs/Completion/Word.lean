import PromqlEditor.Proofs.Completion.Insertion

/-!
# The word before the cursor

The word before a cursor can be said without a search. It is a stretch of the text that ends at the
cursor, holds nothing but identifier characters and cannot be made longer, because it starts with
the text or behind some other character (`Text.IsIdentifierBefore`). At every cursor there is just
one such stretch, and it is the one that a request finds (`word_is_longest_identifier`).

What is found is found by cutting the text at the cursor and what is before it at the start of the
word. Both are boundaries, so the cuts go through (`Text.cut?`) wherever the cursor is said to be:
past the end of the text or inside a character of several bytes.
-/

namespace PromqlEditor

/-- Whether a character may stand in an identifier: an ASCII letter, an ASCII digit, `_` or `:`. -/
def InIdentifier (c : Char) : Prop :=
  'a' ≤ c ∧ c ≤ 'z' ∨ 'A' ≤ c ∧ c ≤ 'Z' ∨ '0' ≤ c ∧ c ≤ '9' ∨ c = '_' ∨ c = ':'

theorem isWordChar_iff {c : Char} : isWordChar c = true ↔ InIdentifier c := by
  delta isWordChar InIdentifier Char.isAlphanum Char.isAlpha Char.isUpper Char.isLower Char.isDigit
  simp only [Char.le_def, Bool.or_eq_true, Bool.and_eq_true, decide_eq_true_eq, beq_iff_eq]
  grind

namespace Text

/-- The characters between two offsets, which have to be boundaries and in order. -/
def cut? (t : Text) (start stop : Nat) : Option Text :=
  if start ≤ stop ∧ t.snap start = start ∧ t.snap stop = stop then some (t.slice start stop)
  else none

/-- Whether the last byte of character `c` of a text is the one before offset `b`. -/
def EndsAt (t : Text) (c : Char) (b : Nat) : Prop :=
  ∃ p q, t = p ++ c :: q ∧ size p + c.utf8Size = b

/-- Whether a stretch of a text is the identifier that ends at the cursor: it holds identifier
characters only and there is no other one in front of it. -/
structure IsIdentifierBefore (t : Text) (cursor start : Nat) (word : Text) : Prop where
  start_le : start ≤ cursor
  isBoundary_start : t.IsBoundary start
  slice_eq : t.slice start cursor = word
  inIdentifier : ∀ c ∈ word, InIdentifier c
  maximal : start = 0 ∨ ∃ c, t.EndsAt c start ∧ ¬ InIdentifier c

section

variable {t : Text} {c : Char} {a b : Nat}

/-! ## Cutting at boundaries -/

theorem IsBoundary.cut?_eq (ha : t.IsBoundary a) (hb : t.IsBoundary b) (hle : a ≤ b) :
    t.cut? a b = some (t.slice a b) :=
  if_pos ⟨hle, ha.snap_eq, hb.snap_eq⟩

/-- What stands before a boundary has that many bytes. -/
theorem IsBoundary.size_before (h : t.IsBoundary b) : size (t.before b) = b := h.snap_eq

/-- A boundary is one of any beginning of the text that reaches up to it. -/
theorem IsBoundary.isBoundary_before (h : t.IsBoundary a) (hle : a ≤ b) :
    (t.before b).IsBoundary a := by
  refine ⟨t.before a, ?_, h.size_before⟩
  rw [← before_append_slice t hle]
  exact List.prefix_append _ _

/-- A text may be cut at a boundary and what is before it at another one. -/
theorem IsBoundary.cut?_cut? (ha : t.IsBoundary a) (hb : t.IsBoundary b) (hle : a ≤ b) :
    (t.cut? 0 b).bind (·.cut? a b) = some (t.slice a b) := by
  have hzero : t.IsBoundary 0 := ⟨[], List.nil_prefix, rfl⟩
  have hbefore : t.slice 0 b = t.before b := after_append_size [] (t.before b)
  have hslice : (t.before b).slice a b = t.slice a b := by
    rw [slice, slice, before_before t (Nat.le_refl b)]
  rw [hzero.cut?_eq hb (Nat.zero_le b), Option.bind_some, hbefore,
    (ha.isBoundary_before hle).cut?_eq (hb.isBoundary_before (Nat.le_refl b)) hle, hslice]

/-- The character that ends at a boundary is the last one before it. -/
theorem IsBoundary.endsAt_iff (h : t.IsBoundary b) :
    t.EndsAt c b ↔ (t.before b).getLast? = some c := by
  constructor
  · rintro ⟨p, q, rfl, rfl⟩
    have hcut : before (p ++ c :: q) (size (p ++ [c])) = p ++ [c] := by
      simpa using before_append_size (p ++ [c]) q
    rw [size_append, size_cons, size_nil, Nat.add_zero] at hcut
    simp [hcut]
  · intro hlast
    obtain ⟨p, hp⟩ := List.getLast?_eq_some_iff.1 hlast
    refine ⟨p, t.after b, ?_, ?_⟩
    · rw [List.append_cons, ← hp, before_append_after]
    · rw [← h.size_before, hp]
      simp

end

end Text

namespace Request

variable {r : Request}

/-! ## The longest run of identifier characters -/

theorem isWordChar_of_mem_word {c : Char} (hc : c ∈ r.word) : isWordChar c = true :=
  List.all_eq_true.1 (List.all_takeWhile) c (List.mem_reverse.1 hc)

/-- In front of the word there is nothing or a character that belongs to no word. -/
theorem not_isWordChar_of_getLast? {c : Char}
    (hc : (r.text.before r.wordStart).getLast? = some c) : isWordChar c = false := by
  have hparts : r.text.before r.wordStart ++ r.word =
      ((r.text.before r.offset).reverse.dropWhile isWordChar).reverse ++ r.word := by
    rw [before_wordStart_append_word, word, ← List.reverse_append,
      List.takeWhile_append_dropWhile, List.reverse_reverse]
  rw [List.append_cancel_right hparts, List.getLast?_reverse] at hc
  have hnot := List.head?_dropWhile_not isWordChar (r.text.before r.offset).reverse
  rw [hc] at hnot
  exact hnot

/-- Word characters are the word before the cursor if no other one stands in front of them. -/
theorem word_eq_of_append {p w : Text} (hbefore : p ++ w = r.text.before r.offset)
    (hw : ∀ c ∈ w, isWordChar c = true) (hp : ∀ c ∈ p.getLast?, isWordChar c = false) :
    r.word = w ∧ r.wordStart = Text.size p := by
  have hfront : p.reverse.takeWhile isWordChar = [] := by
    cases hrev : p.reverse with
    | nil => rfl
    | cons c q =>
      have hc : isWordChar c = false := hp c (by simp [← List.head?_reverse, hrev])
      simp [hc]
  have hword : r.word = w := by
    rw [word, ← hbefore, List.reverse_append,
      List.takeWhile_append_of_pos fun c hc => hw c (List.mem_reverse.1 hc), hfront]
    simp
  obtain ⟨q, hq, hstart⟩ := r.exists_append_word
  rw [← hbefore, hword] at hq
  exact ⟨hword, by rw [hstart, List.append_cancel_right hq]⟩

/-! ## The word as a stretch of the text -/

theorem isIdentifierBefore_word (r : Request) :
    r.text.IsIdentifierBefore (r.text.snap r.offset) r.wordStart r.word where
  start_le := r.wordStart_le_snap
  isBoundary_start := r.isBoundary_wordStart
  slice_eq := r.slice_wordStart
  inIdentifier c hc := isWordChar_iff.1 (isWordChar_of_mem_word hc)
  maximal := by
    cases hlast : (r.text.before r.wordStart).getLast? with
    | none =>
      left
      rw [← r.isBoundary_wordStart.size_before, List.getLast?_eq_none_iff.1 hlast, Text.size_nil]
    | some c =>
      right
      refine ⟨c, r.isBoundary_wordStart.endsAt_iff.2 hlast, ?_⟩
      rw [← isWordChar_iff, not_isWordChar_of_getLast? hlast]
      exact Bool.false_ne_true

/-- There is no other identifier that ends at the cursor. -/
theorem eq_of_isIdentifierBefore {start : Nat} {w : Text}
    (h : r.text.IsIdentifierBefore (r.text.snap r.offset) start w) :
    start = r.wordStart ∧ w = r.word := by
  have hbefore : r.text.before start ++ w = r.text.before r.offset := by
    rw [← h.slice_eq, Text.before_append_slice _ h.start_le, Text.before_snap]
  have hfront : ∀ c ∈ (r.text.before start).getLast?, isWordChar c = false := by
    intro c hc
    rcases h.maximal with rfl | ⟨d, hd, hnot⟩
    · simp at hc
    · obtain rfl : d = c := Option.some.inj ((h.isBoundary_start.endsAt_iff.1 hd).symm.trans hc)
      exact Bool.eq_false_iff.2 fun htrue => hnot (isWordChar_iff.1 htrue)
  obtain ⟨hword, hstart⟩ := word_eq_of_append hbefore
    (fun c hc => isWordChar_iff.2 (h.inIdentifier c hc)) hfront
  exact ⟨by rw [hstart, h.isBoundary_start.size_before], hword.symm⟩

/-- There is a word unless the character before the cursor belongs to none. -/
theorem exists_word_iff (r : Request) :
    r.word ≠ [] ↔ ∃ c, r.text.EndsAt c (r.text.snap r.offset) ∧ InIdentifier c := by
  have hends (c : Char) : r.text.EndsAt c (r.text.snap r.offset) ↔
      (r.text.before r.wordStart ++ r.word).getLast? = some c := by
    rw [(r.text.isBoundary_snap r.offset).endsAt_iff, r.before_wordStart_append_word,
      Text.before_snap]
  constructor
  · intro hword
    have hlast := List.getLast?_eq_some_getLast hword
    refine ⟨r.word.getLast hword, (hends _).2 ?_, ?_⟩
    · rw [List.getLast?_append, hlast, Option.some_or]
    · exact isWordChar_iff.1 (isWordChar_of_mem_word (List.getLast_mem hword))
  · rintro ⟨c, hc, hin⟩ hword
    rw [hends, hword, List.append_nil] at hc
    have hnot := not_isWordChar_of_getLast? hc
    rw [isWordChar_iff.2 hin] at hnot
    cases hnot

/-! ## The main result -/

/-- At the largest boundary `cursor` that is neither past the offset of a request nor past the end
of its text, both cuts that lead to the word go through, and what they give is the one identifier
that ends there. It is empty, and starts at the cursor, exactly if no identifier character ends
there. -/
theorem word_is_longest_identifier (r : Request) :
    ∃ cursor, IsGreatest {b | r.text.IsBoundary b ∧ b ≤ min r.offset r.text.size} cursor ∧
      (r.text.cut? 0 cursor).bind (·.cut? r.wordStart cursor) = some r.word ∧
      (∀ start word, r.text.IsIdentifierBefore cursor start word ↔
        start = r.wordStart ∧ word = r.word) ∧
      (r.wordStart = cursor ∧ r.word = [] ↔ ¬ ∃ c, r.text.EndsAt c cursor ∧ InIdentifier c) := by
  have hword := r.isIdentifierBefore_word
  refine ⟨r.text.snap r.offset, r.text.isGreatest_snap r.offset, ?_, fun start word => ⟨?_, ?_⟩, ?_⟩
  · rw [← r.slice_wordStart]
    exact r.isBoundary_wordStart.cut?_cut? (r.text.isBoundary_snap r.offset) hword.start_le
  · exact eq_of_isIdentifierBefore
  · rintro ⟨rfl, rfl⟩
    exact hword
  · rw [← r.exists_word_iff, not_not, and_iff_right_iff_imp]
    intro hnil
    rw [← r.wordStart_add_size_word, hnil, Text.size_nil, Nat.add_zero]

/-- A letter beyond ASCII ends the word, and a cursor inside a character stands before it. -/
example : (⟨['é', '_', ':', '7', '⚠'], 7, false⟩ : Request).word = ['_', ':', '7'] := rfl

end Request

end PromqlEditor
