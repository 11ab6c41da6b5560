import PromqlEditor.Diagnostic
import PromqlEditor.Proofs.Text.Offset

/-!
# Ranges of spans

An offset has the position of the boundary that it stands for (`position_snap`), and positions can
be led back to boundaries, so two offsets share a position only if they stand for one boundary
(`position_eq_position_iff`). Positions are therefore in the order of the boundaries, neither more
nor less (`position_le_position_iff`), wherever the offsets lie: past the end of the text, inside a
character or between the two characters of a line break.

A range is what becomes of a span. If the span is in order, so is the range, and it holds something
unless both ends of the span stand for the same boundary (`ranges_follow_boundaries`).
-/

namespace PromqlEditor

namespace Range

/-- Whether a range stops before it starts. -/
def IsReversed (r : Range) : Prop := ¬ r.start ≤ r.stop

/-- Whether a range stops where it starts. -/
def IsEmpty (r : Range) : Prop := r.start = r.stop

end Range

namespace Text

variable {t : Text} {a b : Nat}

/-! ## Positions and boundaries -/

/-- Between a boundary and the next one the position stays the same. -/
theorem position_snap (t : Text) (b : Nat) : t.position (t.snap b) = t.position b := by
  induction t, b using offset_induction with
  | nil => rfl
  | inside c t b hb => rw [snap_cons_of_lt t hb, position_zero, position_cons_of_lt t hb]
  | past c t b ih => rw [snap_cons_add, position_cons_add, position_cons_add, ih]

/-- Two offsets have the same position if they stand for the same boundary, and only then. -/
theorem position_eq_position_iff : t.position a = t.position b ↔ t.snap a = t.snap b := by
  constructor
  · intro h
    have ha := t.offset?_position a
    rw [h, offset?_position] at ha
    exact (Option.some.inj ha).symm
  · intro h
    rw [← position_snap t a, h, position_snap]

/-- Positions are ordered as the boundaries that the offsets stand for. -/
theorem position_le_position_iff : t.position a ≤ t.position b ↔ t.snap a ≤ t.snap b := by
  constructor
  · intro h
    by_contra hlt
    have hle := t.position_le_position (Nat.le_of_lt (Nat.not_le.1 hlt))
    rw [position_snap, position_snap] at hle
    exact hlt (Nat.le_of_eq (position_eq_position_iff.1 (le_antisymm h hle)))
  · intro h
    have hle := t.position_le_position h
    rwa [position_snap, position_snap] at hle

/-! ## The main result -/

/-- In a text of less than 2 ^ 32 bytes every line and every column is below 2 ^ 32. Of two offsets,
let `c` and `d` be the largest boundaries that are neither past them nor past the end of the text.
If the offsets are in order, so are their positions, and the range between them is not reversed.
The positions are in the order of `c` and `d`. They are the same, and the range is empty, exactly if
`c` is `d`. -/
theorem ranges_follow_boundaries {t : Text} (ht : t.size < UInt32.size) (a b : Nat) :
    (∀ x, (t.position x).line < UInt32.size ∧ (t.position x).column < UInt32.size) ∧
      (a ≤ b → t.position a ≤ t.position b ∧ ¬ (t.range ⟨a, b⟩).IsReversed) ∧
      ∃ c d, IsGreatest {x | t.IsBoundary x ∧ x ≤ min a t.size} c ∧
        IsGreatest {x | t.IsBoundary x ∧ x ≤ min b t.size} d ∧
        (t.position a ≤ t.position b ↔ c ≤ d) ∧ (t.position a = t.position b ↔ c = d) ∧
        ((t.range ⟨a, b⟩).IsEmpty ↔ c = d) := by
  refine ⟨position_lt ht, fun hab => ?_, t.snap a, t.snap b, t.isGreatest_snap a,
    t.isGreatest_snap b, position_le_position_iff, position_eq_position_iff,
    position_eq_position_iff⟩
  have hle := t.position_le_position hab
  exact ⟨hle, not_not.2 hle⟩

/-- Of three offsets in order one lies between the two characters of a line break and two inside the
same character behind it. -/
theorem range_within_character_is_empty :
    Text.size ['é', '\r', '\n', '😀'] < UInt32.size ∧
      (position ['é', '\r', '\n', '😀'] 3 ≤ position ['é', '\r', '\n', '😀'] 5 ∧
        ¬ (range ['é', '\r', '\n', '😀'] ⟨3, 5⟩).IsReversed) ∧
      (∃ c d, IsGreatest {x | IsBoundary ['é', '\r', '\n', '😀'] x ∧ x ≤ 3} c ∧
        IsGreatest {x | IsBoundary ['é', '\r', '\n', '😀'] x ∧ x ≤ 5} d ∧ c ≠ d) ∧
      ∃ c, IsGreatest {x | IsBoundary ['é', '\r', '\n', '😀'] x ∧ x ≤ 5} c ∧
        IsGreatest {x | IsBoundary ['é', '\r', '\n', '😀'] x ∧ x ≤ 7} c ∧
        (range ['é', '\r', '\n', '😀'] ⟨5, 7⟩).IsEmpty := by
  have hsize : Text.size ['é', '\r', '\n', '😀'] < UInt32.size := by decide
  have hapart : position ['é', '\r', '\n', '😀'] 3 ≠ position ['é', '\r', '\n', '😀'] 5 := by decide
  have hsame : position ['é', '\r', '\n', '😀'] 5 = position ['é', '\r', '\n', '😀'] 7 := by decide
  obtain ⟨-, hordered, c, d, hc, hd, -, heq, -⟩ := ranges_follow_boundaries hsize 3 5
  obtain ⟨-, -, c', d', hc', hd', -, heq', hempty⟩ := ranges_follow_boundaries hsize 5 7
  obtain rfl : c' = d' := heq'.1 hsame
  exact ⟨hsize, hordered (by decide), ⟨c, d, hc, hd, mt heq.2 hapart⟩, c', hc', hd', hempty.2 rfl⟩

end Text

end PromqlEditor
