import PromqlEditor.Proofs.Text.Order

/-!
# Positions in joined texts

Where two texts are joined, the positions of the first stay what they were, and those of the second
go on from where the first ends (`PositionsCompose`). So a position depends on nothing behind the
offset, and the counting of lines and columns starts again at any cut: next to a line break, at the
end of an empty line, behind a character of two units.

One cut is left out. A `\r` at the end of the first text is a line break of its own, but not with a
`\n` behind it: then the two are one line break, which ends one character later. That is the only
way in which what follows can change a position (`positions_compose_iff`).
-/

namespace PromqlEditor.Text

/-- Whether the last character of one text and the first of another make one line break. -/
def JoinsBreak (s u : Text) : Prop := s.getLast? = some '\r' ∧ u.head? = some '\n'

/-- Whether the positions of two texts that are joined are those of the first, and behind it those
of the second, counted from where the first ends. -/
structure PositionsCompose (s u : Text) : Prop where
  left : ∀ i ≤ s.size, (s ++ u).position i = s.position i
  right : ∀ k, (s ++ u).position (s.size + k) =
    if (u.position k).line = 0 then
      ⟨(s.position s.size).line, (s.position s.size).column + (u.position k).column⟩
    else ⟨(s.position s.size).line + (u.position k).line, (u.position k).column⟩

section

variable {s u : Text} {c : Char}

/-! ## What follows a text -/

theorem JoinsBreak.cons (h : JoinsBreak s u) (c : Char) : JoinsBreak (c :: s) u :=
  ⟨by simp [List.getLast?_cons, h.1], h.2⟩

/-- What follows a text is nothing to the moves of its characters, unless a line break is joined. -/
theorem move_append (h : ¬ JoinsBreak (c :: s) u) : move c (s ++ u) = move c s := by
  have hends : endsLine c (s ++ u) = endsLine c s := by
    cases s with
    | nil =>
      have hu : c = '\r' → u.head? ≠ some '\n' := fun hc hu => h ⟨by simp [hc], hu⟩
      rw [Bool.eq_iff_iff, endsLine_iff, endsLine_iff]
      exact or_congr_right (and_congr_right fun hc => iff_of_true (hu hc) nofun)
    | cons d s => simp [endsLine]
  rw [move, move, hends]

theorem position_append_left (h : ¬ JoinsBreak s u) {i : Nat} (hi : i ≤ s.size) :
    (s ++ u).position i = s.position i := by
  induction s, i using offset_induction with
  | nil i =>
    obtain rfl : i = 0 := Nat.le_zero.1 hi
    simp
  | inside c s i hc => rw [List.cons_append, position_cons_of_lt _ hc, position_cons_of_lt _ hc]
  | past c s i ih =>
    have hi' : i ≤ size s := by simpa using hi
    rw [List.cons_append, position_cons_add, position_cons_add, move_append h,
      ih (fun hs => h (hs.cons c)) hi']

theorem position_append_right (h : ¬ JoinsBreak s u) (k : Nat) :
    (s ++ u).position (s.size + k) = (s.position s.size).advance (u.position k) := by
  rw [position_append, position_append_left h (Nat.le_refl _)]

/-- A line break that is joined has not ended where the first text does. -/
theorem JoinsBreak.position_ne (h : JoinsBreak s u) :
    (s ++ u).position s.size ≠ s.position s.size := by
  obtain ⟨s', rfl⟩ := List.getLast?_eq_some_iff.1 h.1
  obtain ⟨u', rfl⟩ := List.head?_eq_some_iff.1 h.2
  -- up to the `\r` both texts are the same, and no line break is joined in front of it
  have hfront (v : Text) : position (s' ++ '\r' :: v) (size s' + 1) =
      (position s' (size s')).advance (move '\r' v) := by
    have hmove := position_cons_add '\r' v 0
    rw [position_zero, Position.advance_origin] at hmove
    rw [position_append_right (by simp [JoinsBreak])]
    exact congrArg _ hmove
  have hsize : size (s' ++ ['\r']) = size s' + 1 := by
    simp
    decide
  rw [hsize, hfront, List.append_assoc, List.singleton_append, hfront]
  simp [move, endsLine, Position.advance]

end

/-! ## The main result -/

/-- Of two texts that are joined to less than 2 ^ 32 bytes: every line and every column, in the
parts and in the whole, is below 2 ^ 32, and positions compose unless the first ends with `\r` and
the second begins with `\n`. In that case they never do. -/
theorem positions_compose_iff {s u : Text} (hsize : (s ++ u).size < UInt32.size) :
    (∀ t ∈ [s, u, s ++ u], ∀ b,
      (t.position b).line < UInt32.size ∧ (t.position b).column < UInt32.size) ∧
      (PositionsCompose s u ↔ ¬ (s.getLast? = some '\r' ∧ u.head? = some '\n')) := by
  refine ⟨fun t ht b => ?_, fun h hjoins => ?_, fun h => ?_⟩
  · have hle : t.size ≤ (s ++ u).size := by
      simp only [List.mem_cons, List.not_mem_nil, or_false] at ht
      rcases ht with rfl | rfl | rfl <;> simp
    exact position_lt (Nat.lt_of_le_of_lt hle hsize) b
  · exact JoinsBreak.position_ne hjoins (h.left _ (Nat.le_refl _))
  · exact ⟨fun i hi => position_append_left h hi, fun k => position_append_right h k⟩

/-- Behind a `\r` a text may be cut, unless a `\n` comes next. -/
theorem positions_compose_behind_carriage_return :
    Text.size (['é', '\r'] ++ ['😀', '\n', 'a']) < UInt32.size ∧
      PositionsCompose ['é', '\r'] ['😀', '\n', 'a'] ∧
      Text.size (['é', '\r'] ++ ['\n', 'a']) < UInt32.size ∧
      ¬ PositionsCompose ['é', '\r'] ['\n', 'a'] := by
  have hsize : Text.size (['é', '\r'] ++ ['😀', '\n', 'a']) < UInt32.size := by decide
  have hsize' : Text.size (['é', '\r'] ++ ['\n', 'a']) < UInt32.size := by decide
  obtain ⟨-, hcompose⟩ := positions_compose_iff hsize
  obtain ⟨-, hjoined⟩ := positions_compose_iff hsize'
  exact ⟨hsize, hcompose.2 (by simp), hsize', fun h => hjoined.1 h (by simp)⟩

end PromqlEditor.Text
