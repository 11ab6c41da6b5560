import Mathlib.Order.Bounds.Defs
import PromqlEditor.Proofs.Text.Breaks

/-!
# Offsets of positions

A position is read by going forward from the start of its line. `Text.offset?` does so, and it
undoes `Text.position`: it leads to the boundary that the offset stands for (`offset?_position`),
so for a boundary to the offset itself. On the way a reader does not leave the line and the break
that ends it (`position_leads_to_boundary`), wherever the offset lies: past the end of the text,
inside a character or between the two characters of a break.
-/

namespace PromqlEditor.Text

/-! ## Going forward on a line -/

@[simp] theorem takeUnits_zero (l : Text) : takeUnits l 0 = [] := by
  cases l with
  | nil => rfl
  | cons c l => rw [takeUnits, if_neg (Nat.not_le.2 (units_pos c))]

theorem takeUnits_cons_add (c : Char) (l : Text) (n : Nat) :
    takeUnits (c :: l) (units c + n) = c :: takeUnits l n := by
  rw [takeUnits, if_pos (Nat.le_add_right _ _), Nat.add_sub_cancel_left]

theorem offset?_origin (t : Text) : t.offset? Position.origin = some 0 := by
  obtain ⟨l, ls, hl⟩ := List.exists_cons_of_ne_nil (lines_ne_nil t)
  simp [offset?, Position.origin, hl]

/-- Who goes forward on a line stays on it. -/
theorem takeUnits_prefix (l : Text) (n : Nat) : takeUnits l n <+: l := by
  fun_induction takeUnits l n with
  | case1 => exact List.prefix_refl _
  | case2 c l n h ih => exact (List.prefix_cons_inj c).2 ih
  | case3 => exact List.nil_prefix

theorem offset?_eq_some_iff {t : Text} {p : Position} {b : Nat} :
    t.offset? p = some b ↔ ∃ l, t.lines[p.line]? = some l ∧
      width (takeUnits l p.column) = p.column ∧
        t.lineStart p.line + size (takeUnits l p.column) = b := by
  rw [offset?]
  cases t.lines[p.line]? with
  | none => simp
  | some l => simp

/-- A reader who moves on by a character first ends that much further in the text. -/
theorem offset?_advance (c : Char) (t : Text) (p : Position) :
    offset? (c :: t) ((move c t).advance p) = (t.offset? p).map (c.utf8Size + ·) := by
  obtain ⟨n, k⟩ := p
  by_cases hc : endsLine c t = true
  · simp only [advance_move_of_endsLine hc, offset?, lines_cons_of_endsLine hc,
      List.getElem?_cons_succ, lineStart_cons_of_endsLine hc]
    cases t.lines[n]? with
    | none => rfl
    | some l => by_cases hw : width (takeUnits l k) = k <;> simp [hw, Nat.add_assoc]
  · obtain ⟨l, ls, ht, hlines⟩ := lines_cons_of_not_endsLine hc
    rw [advance_move_of_not_endsLine hc]
    cases n with
    | zero =>
      by_cases hw : width (takeUnits l k) = k <;>
        simp [offset?, hlines, ht, takeUnits_cons_add, hw]
    | succ n =>
      simp only [offset?, hlines, ht, List.getElem?_cons_succ, lineStart_cons_of_not_endsLine hc,
        Nat.succ_ne_zero, if_false]
      cases ls[n]? with
      | none => rfl
      | some l => by_cases hw : width (takeUnits l k) = k <;> simp [hw, Nat.add_assoc]

/-! ## The boundary of an offset -/

theorem snap_cons_of_lt {c : Char} {b : Nat} (t : Text) (h : b < c.utf8Size) :
    snap (c :: t) b = 0 := by
  rw [snap, before, if_neg (Nat.not_le.2 h), size_nil]

theorem snap_cons_add (c : Char) (t : Text) (b : Nat) :
    snap (c :: t) (c.utf8Size + b) = c.utf8Size + t.snap b := by
  rw [snap, before, if_pos (Nat.le_add_right _ _), Nat.add_sub_cancel_left, size_cons, snap]

/-- A boundary stands for itself. -/
theorem IsBoundary.snap_eq {t : Text} {b : Nat} (h : t.IsBoundary b) : t.snap b = b := by
  obtain ⟨s, ⟨r, rfl⟩, rfl⟩ := h
  rw [snap, before_append_size]

theorem snap_le_snap (t : Text) {a b : Nat} (h : a ≤ b) : t.snap a ≤ t.snap b := by
  induction t, a using offset_induction generalizing b with
  | nil => exact Nat.le_refl _
  | inside c t a ha =>
    rw [snap_cons_of_lt t ha]
    exact Nat.zero_le _
  | past c t a ih =>
    obtain ⟨k, rfl⟩ := Nat.exists_eq_add_of_le h
    rw [Nat.add_assoc, snap_cons_add, snap_cons_add]
    exact Nat.add_le_add_left (ih (Nat.le_add_right a k)) _

/-- An offset stands for the largest boundary that is neither past it nor past the end. -/
theorem isGreatest_snap (t : Text) (b : Nat) :
    IsGreatest {c | t.IsBoundary c ∧ c ≤ min b t.size} (t.snap b) := by
  have hsize : t.snap b ≤ t.size := by
    conv => rhs; rw [← before_append_after t b, size_append]
    exact Nat.le_add_right _ _
  refine ⟨⟨isBoundary_snap t b, Nat.le_min.2 ⟨snap_le t b, hsize⟩⟩, ?_⟩
  rintro c ⟨hc, hle⟩
  rw [← hc.snap_eq]
  exact snap_le_snap t (Nat.le_trans hle (Nat.min_le_left _ _))

/-- The position of an offset names the boundary that the offset stands for. -/
theorem offset?_position (t : Text) (b : Nat) : t.offset? (t.position b) = some (t.snap b) := by
  induction t, b using offset_induction with
  | nil => exact offset?_origin []
  | inside c t b hb => rw [position_cons_of_lt t hb, snap_cons_of_lt t hb, offset?_origin]
  | past c t b ih => rw [position_cons_add, offset?_advance, ih, snap_cons_add, Option.map_some]

/-- The position of a boundary names the boundary. -/
theorem IsBoundary.offset?_position {t : Text} {b : Nat} (h : t.IsBoundary b) :
    t.offset? (t.position b) = some b := by
  rw [Text.offset?_position, h.snap_eq]

/-! ## The main result -/

/-- The position of any offset of a text of less than 2 ^ 32 bytes is on a line that the text is
split into. Going forward on that line by the units of the column, from where the line starts, leads
to the largest boundary that is neither past the offset nor past the end of the text. -/
theorem position_leads_to_boundary {t : Text} (ht : t.size < UInt32.size) (b : Nat) :
    (∀ ls, SplitsInto t ls ↔ ls = t.lines) ∧
      (t.position b).line < UInt32.size ∧ (t.position b).column < UInt32.size ∧
      ∃ l, t.lines[(t.position b).line]? = some l ∧
        ∃ s, s <+: l ∧ width s = (t.position b).column ∧
          IsGreatest {c | t.IsBoundary c ∧ c ≤ min b t.size}
            (t.lineStart (t.position b).line + size s) := by
  obtain ⟨hline, hcolumn⟩ := t.position_le_size b
  obtain ⟨l, hl, hwidth, hoffset⟩ := offset?_eq_some_iff.1 (t.offset?_position b)
  refine ⟨fun ls => splitsInto_iff, Nat.lt_of_le_of_lt hline ht, Nat.lt_of_le_of_lt hcolumn ht, l,
    hl, _, takeUnits_prefix l _, hwidth, ?_⟩
  rw [hoffset]
  exact t.isGreatest_snap b

/-- Three lines, of which the first ends with `\r` and the second is nothing but its break. One
offset lies between the two characters of that break and one inside the last character. -/
theorem positions_lead_back_to_boundaries :
    Text.size ['é', '\r', '\r', '\n', '😀'] < UInt32.size ∧
      SplitsInto ['é', '\r', '\r', '\n', '😀'] [['é', '\r'], ['\r', '\n'], ['😀']] ∧
      (position ['é', '\r', '\r', '\n', '😀'] 4 = ⟨1, 1⟩ ∧
        ∃ s, s <+: ['\r', '\n'] ∧ width s = 1 ∧
          IsGreatest {c | IsBoundary ['é', '\r', '\r', '\n', '😀'] c ∧ c ≤ 4} (3 + size s)) ∧
      position ['é', '\r', '\r', '\n', '😀'] 8 = ⟨2, 0⟩ ∧
        ∃ s, s <+: ['😀'] ∧ width s = 0 ∧
          IsGreatest {c | IsBoundary ['é', '\r', '\r', '\n', '😀'] c ∧ c ≤ 8} (5 + size s) := by
  have hsize : Text.size ['é', '\r', '\r', '\n', '😀'] < UInt32.size := by decide
  obtain ⟨hsplit, -, -, l, hl, hbreak⟩ := position_leads_to_boundary hsize 4
  obtain ⟨-, -, -, l', hl', hinside⟩ := position_leads_to_boundary hsize 8
  cases hl
  cases hl'
  exact ⟨hsize, (hsplit _).2 rfl, ⟨rfl, hbreak⟩, rfl, hinside⟩

end PromqlEditor.Text
