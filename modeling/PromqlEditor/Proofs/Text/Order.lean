import Mathlib.Order.Defs.LinearOrder
import PromqlEditor.Text.Line

/-!
# The order of positions

Positions are ordered as a reader meets them, and moving on from a position keeps that order. So
the position of an offset grows with the offset (`position_le_position`), be the offset past the
end, inside a character or between the two characters of a line break.

A text that is read in two parts has the positions of its second part after those of the first
(`position_append`). The numbers that make up a position never exceed the size of the text
(`position_le_size`).
-/

namespace PromqlEditor

namespace Position

/-! ## A linear order -/

instance : LinearOrder Position where
  le_refl p := Or.inr ⟨rfl, Nat.le_refl _⟩
  le_trans p q r hpq hqr := by
    rw [le_def] at *
    omega
  le_antisymm p q hpq hqp := by
    rw [le_def] at *
    obtain ⟨pl, pc⟩ := p
    obtain ⟨ql, qc⟩ := q
    simp only [mk.injEq] at *
    omega
  le_total p q := by
    rw [le_def, le_def]
    omega
  toDecidableLE := fun p q => inferInstanceAs (Decidable (p ≤ q))

/-- The start of a text is before all else. -/
theorem origin_le (p : Position) : origin ≤ p := by
  rw [le_def]
  simp only [origin]
  omega

/-- Of two readers who set out together, the one who moves further is further on. -/
theorem advance_le_advance (p : Position) {q r : Position} (h : q ≤ r) :
    p.advance q ≤ p.advance r := by
  rw [le_def] at *
  unfold advance
  split <;> split <;> dsimp only <;> omega

end Position

namespace Text

/-! ## The position of a later offset -/

@[simp] theorem position_nil (b : Nat) : position [] b = Position.origin := rfl

/-- An offset inside the first character is where the text starts. -/
theorem position_cons_of_lt {c : Char} {b : Nat} (t : Text) (h : b < c.utf8Size) :
    position (c :: t) b = Position.origin := by
  simp [position, positionFrom, Nat.not_le.2 h]

/-- Past the first character a reader has made its move. -/
theorem position_cons_add (c : Char) (t : Text) (b : Nat) :
    position (c :: t) (c.utf8Size + b) = (move c t).advance (position t b) := by
  rw [position, positionFrom, if_pos (Nat.le_add_right _ _), Nat.add_sub_cancel_left,
    positionFrom_eq_advance, Position.origin_advance]

/-- A character that ends its line moves a reader to the same column one line further down. -/
theorem advance_move_of_endsLine {c : Char} {t : Text} (h : endsLine c t = true) (p : Position) :
    (move c t).advance p = ⟨p.line + 1, p.column⟩ := by
  rw [move, if_pos h, Position.advance]
  split <;> simp <;> omega

/-- A character within a line moves a reader on who stays on that line, and no other. -/
theorem advance_move_of_not_endsLine {c : Char} {t : Text} (h : ¬ endsLine c t = true)
    (p : Position) :
    (move c t).advance p = if p.line = 0 then ⟨0, units c + p.column⟩ else p := by
  rw [move, if_neg h, Position.advance]
  split <;> simp

@[simp] theorem position_zero (t : Text) : position t 0 = Position.origin := by
  cases t with
  | nil => rfl
  | cons c t => exact position_cons_of_lt t c.utf8Size_pos

/-- The second part of a text follows the first. What stands in it may decide where the first part
has line breaks, so the position that is moved on from is that of the whole text. -/
theorem position_append (s u : Text) (b : Nat) :
    position (s ++ u) (size s + b) = (position (s ++ u) (size s)).advance (position u b) := by
  induction s with
  | nil => simp
  | cons c s ih =>
    simp only [List.cons_append, size_cons, Nat.add_assoc, position_cons_add]
    rw [ih, Position.advance_assoc]

/-- A later offset has no earlier position. -/
theorem position_le_position (t : Text) {a b : Nat} (h : a ≤ b) : t.position a ≤ t.position b := by
  induction t, a using offset_induction generalizing b with
  | nil => exact le_refl _
  | inside c t a ha =>
    rw [position_cons_of_lt t ha]
    exact Position.origin_le _
  | past c t a ih =>
    obtain ⟨k, rfl⟩ := Nat.exists_eq_add_of_le h
    rw [Nat.add_assoc, position_cons_add, position_cons_add]
    exact Position.advance_le_advance _ (ih (Nat.le_add_right a k))

/-! ## Bounds -/

/-- No character has more UTF-16 units than bytes. -/
theorem units_le_utf8Size (c : Char) : units c ≤ c.utf8Size := by
  unfold units
  split
  · rename_i h
    have h₁ : c.utf8Size ≠ 1 := by
      intro hc
      rw [Char.utf8Size_eq_one_iff, UInt32.le_iff_toNat_le] at hc
      have hv : c.val.toNat = c.toNat := rfl
      have hn : (127 : UInt32).toNat = 127 := rfl
      omega
    have h₀ := c.utf8Size_pos
    omega
  · exact c.utf8Size_pos

/-- No text has more UTF-16 units than bytes. -/
theorem width_le_size (t : Text) : width t ≤ size t := by
  induction t with
  | nil => simp
  | cons c t ih =>
    have hc := units_le_utf8Size c
    simp only [width_cons, size_cons]
    omega

/-- Neither the line nor the column of a position exceeds the size of the text. -/
theorem position_le_size (t : Text) (b : Nat) :
    (t.position b).line ≤ t.size ∧ (t.position b).column ≤ t.size := by
  induction t, b using offset_induction with
  | nil => simp [Position.origin]
  | inside c t b hb =>
    rw [position_cons_of_lt t hb]
    simp [Position.origin]
  | past c t b ih =>
    obtain ⟨hl, hc⟩ := ih
    have hu := units_le_utf8Size c
    have hs := c.utf8Size_pos
    rw [position_cons_add]
    simp only [size_cons, move, Position.advance]
    split <;> split <;> simp only <;> omega

/-- In a text of less than `n` bytes every line and every column is below `n`. -/
theorem position_lt {t : Text} {n : Nat} (h : t.size < n) (b : Nat) :
    (t.position b).line < n ∧ (t.position b).column < n := by
  obtain ⟨hline, hcolumn⟩ := t.position_le_size b
  exact ⟨Nat.lt_of_le_of_lt hline h, Nat.lt_of_le_of_lt hcolumn h⟩

end Text

end PromqlEditor
