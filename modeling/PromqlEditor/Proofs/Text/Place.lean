import PromqlEditor.Proofs.Text.Order

/-!
# Where a character stands

A character of a text has a place in bytes and a place in lines: the line it stands in and the
UTF-16 units of that line before it. `Text.StandsAt` says both through the lines of the text, and
every character of a text stands somewhere (`exists_standsAt`).

What positions say of offsets agrees with it. All offsets within a character have its place as
their position (`StandsAt.position_eq`), the offset where it ends has the column after its units
(`StandsAt.position_end`), and its units lie within the content of the line (`StandsAt.le_width`),
the last two unless it is a line break.
-/

namespace PromqlEditor.Text

/-! ## Lines of a longer text -/

theorem lines_cons_of_endsLine {c : Char} {t : Text} (h : endsLine c t = true) :
    lines (c :: t) = [c] :: lines t := by
  rw [lines, if_pos h]

theorem lines_cons_of_not_endsLine {c : Char} {t : Text} (h : ¬ endsLine c t = true) :
    ∃ l ls, lines t = l :: ls ∧ lines (c :: t) = (c :: l) :: ls := by
  obtain ⟨l, ls, hl⟩ := List.exists_cons_of_ne_nil (lines_ne_nil t)
  refine ⟨l, ls, hl, ?_⟩
  rw [lines, if_neg h, hl, List.modifyHead_cons]

@[simp] theorem lineStart_zero (t : Text) : lineStart t 0 = 0 := by
  simp [lineStart]

theorem lineStart_cons_of_endsLine {c : Char} {t : Text} (h : endsLine c t = true) (n : Nat) :
    lineStart (c :: t) (n + 1) = c.utf8Size + lineStart t n := by
  simp [lineStart, lines_cons_of_endsLine h]

theorem lineStart_cons_of_not_endsLine {c : Char} {t : Text} (h : ¬ endsLine c t = true)
    (n : Nat) : lineStart (c :: t) (n + 1) = c.utf8Size + lineStart t (n + 1) := by
  obtain ⟨l, ls, hl, hc⟩ := lines_cons_of_not_endsLine h
  simp [lineStart, hl, hc]

/-- The line of a position is a line of the text. -/
theorem line_position_lt (t : Text) (b : Nat) : (t.position b).line < t.lines.length := by
  induction t, b using offset_induction with
  | nil => simp [lines, Position.origin]
  | inside c t b hb =>
    rw [position_cons_of_lt t hb]
    exact List.length_pos_iff.2 (lines_ne_nil _)
  | past c t b ih =>
    rw [position_cons_add]
    by_cases h : endsLine c t = true
    · rw [advance_move_of_endsLine h, lines_cons_of_endsLine h, List.length_cons]
      exact Nat.succ_lt_succ ih
    · obtain ⟨l, ls, hl, hc⟩ := lines_cons_of_not_endsLine h
      rw [hl, List.length_cons] at ih
      rw [advance_move_of_not_endsLine h, hc, List.length_cons]
      split
      · exact Nat.succ_pos _
      · exact ih

/-! ## Places -/

/-- Whether character `c` starts at byte `b` and its UTF-16 units at position `p`: it stands in
line `p.line` of the text, after a beginning of that line which is `p.column` units wide. -/
def StandsAt (t : Text) (c : Char) (b : Nat) (p : Position) : Prop :=
  ∃ pre post, t.lines[p.line]? = some (pre ++ c :: post) ∧ width pre = p.column ∧
    t.lineStart p.line + size pre = b

theorem StandsAt.head (c : Char) (t : Text) : StandsAt (c :: t) c 0 Position.origin := by
  by_cases h : endsLine c t = true
  · exact ⟨[], [], by simp [lines_cons_of_endsLine h, Position.origin], rfl, by
      simp [Position.origin]⟩
  · obtain ⟨l, ls, -, hc⟩ := lines_cons_of_not_endsLine h
    exact ⟨[], l, by simp [hc, Position.origin], rfl, by simp [Position.origin]⟩

/-- A character moves all that stand after it. -/
theorem StandsAt.tail {t : Text} {c : Char} {b : Nat} {p : Position} (h : t.StandsAt c b p)
    (d : Char) : StandsAt (d :: t) c (d.utf8Size + b) ((move d t).advance p) := by
  obtain ⟨n, k⟩ := p
  obtain ⟨pre, post, hl, hw, hb⟩ := h
  dsimp only at hl hw hb
  by_cases hd : endsLine d t = true
  · rw [advance_move_of_endsLine hd]
    dsimp only
    refine ⟨pre, post, by simpa [lines_cons_of_endsLine hd] using hl, hw, ?_⟩
    rw [lineStart_cons_of_endsLine hd]
    omega
  · obtain ⟨l, ls, ht, hc⟩ := lines_cons_of_not_endsLine hd
    rw [ht] at hl
    cases n with
    | zero =>
      have hl' : l = pre ++ c :: post := by simpa using hl
      rw [advance_move_of_not_endsLine hd, if_pos rfl]
      refine ⟨d :: pre, post, by simp [hc, hl'], by simp [hw], ?_⟩
      rw [lineStart_zero] at *
      simp only [size_cons]
      omega
    | succ n =>
      rw [advance_move_of_not_endsLine hd, if_neg (Nat.succ_ne_zero n)]
      refine ⟨pre, post, by simpa [hc] using hl, hw, ?_⟩
      rw [lineStart_cons_of_not_endsLine hd]
      omega

section

variable {t : Text} {c d : Char} {b : Nat} {p : Position}

theorem StandsAt.cases_of_endsLine (h : StandsAt (d :: t) c b p) (hd : endsLine d t = true) :
    (c = d ∧ b = 0 ∧ p = Position.origin) ∨
      ∃ b' p', t.StandsAt c b' p' ∧ b = d.utf8Size + b' ∧ p = (move d t).advance p' := by
  obtain ⟨n, k⟩ := p
  obtain ⟨pre, post, hl, hw, hb⟩ := h
  dsimp only at hl hw hb
  rw [lines_cons_of_endsLine hd] at hl
  cases n with
  | zero =>
    have hl' : [d] = pre ++ c :: post := by simpa using hl
    cases pre with
    | nil =>
      obtain ⟨rfl, -⟩ : d = c ∧ [] = post := by simpa using hl'
      rw [lineStart_zero] at hb
      exact Or.inl ⟨rfl, hb.symm, by rw [← hw]; rfl⟩
    | cons e pre => simp at hl'
  | succ n =>
    rw [lineStart_cons_of_endsLine hd] at hb
    exact Or.inr ⟨t.lineStart n + size pre, ⟨n, k⟩, ⟨pre, post, by simpa using hl, hw, rfl⟩,
      by omega, (advance_move_of_endsLine hd ⟨n, k⟩).symm⟩

theorem StandsAt.cases_of_not_endsLine (h : StandsAt (d :: t) c b p)
    (hd : ¬ endsLine d t = true) :
    (c = d ∧ b = 0 ∧ p = Position.origin) ∨
      ∃ b' p', t.StandsAt c b' p' ∧ b = d.utf8Size + b' ∧ p = (move d t).advance p' := by
  obtain ⟨n, k⟩ := p
  obtain ⟨pre, post, hl, hw, hb⟩ := h
  dsimp only at hl hw hb
  obtain ⟨l, ls, ht, hc⟩ := lines_cons_of_not_endsLine hd
  rw [hc] at hl
  cases n with
  | zero =>
    have hl' : d :: l = pre ++ c :: post := by simpa using hl
    cases pre with
    | nil =>
      obtain ⟨rfl, -⟩ : d = c ∧ l = post := by simpa using hl'
      rw [lineStart_zero] at hb
      exact Or.inl ⟨rfl, hb.symm, by rw [← hw]; rfl⟩
    | cons e pre =>
      obtain ⟨rfl, rfl⟩ : d = e ∧ l = pre ++ c :: post := by simpa using hl'
      refine Or.inr ⟨size pre, ⟨0, width pre⟩, ⟨pre, post, by simp [ht], rfl, by simp⟩, ?_, ?_⟩
      · simpa using hb.symm
      · rw [advance_move_of_not_endsLine hd, if_pos rfl, ← hw, width_cons]
  | succ n =>
    rw [lineStart_cons_of_not_endsLine hd] at hb
    refine Or.inr ⟨t.lineStart (n + 1) + size pre, ⟨n + 1, k⟩,
      ⟨pre, post, by simpa [ht] using hl, hw, rfl⟩, by omega, ?_⟩
    rw [advance_move_of_not_endsLine hd, if_neg (Nat.succ_ne_zero n)]

/-- A character stands at the start of the text or after its first character. -/
theorem StandsAt.cases (h : StandsAt (d :: t) c b p) :
    (c = d ∧ b = 0 ∧ p = Position.origin) ∨
      ∃ b' p', t.StandsAt c b' p' ∧ b = d.utf8Size + b' ∧ p = (move d t).advance p' := by
  by_cases hd : endsLine d t = true
  · exact h.cases_of_endsLine hd
  · exact h.cases_of_not_endsLine hd

end

/-- Every character of a text stands somewhere. -/
theorem exists_standsAt (s : Text) (c : Char) (r : Text) :
    ∃ p, StandsAt (s ++ c :: r) c s.size p := by
  induction s with
  | nil => exact ⟨_, StandsAt.head c r⟩
  | cons d s ih =>
    obtain ⟨p, hp⟩ := ih
    exact ⟨_, hp.tail d⟩

/-- A character that stands in a text cuts it in two, at a byte whose position is its place. -/
theorem StandsAt.exists_split {t : Text} {c : Char} {b : Nat} {p : Position}
    (h : t.StandsAt c b p) : ∃ s r, t = s ++ c :: r ∧ size s = b ∧ t.position b = p := by
  induction t generalizing b p with
  | nil =>
    obtain ⟨pre, post, hl, -, -⟩ := h
    cases hn : p.line <;> simp [lines, hn] at hl
  | cons d t ih =>
    rcases h.cases with ⟨rfl, rfl, rfl⟩ | ⟨b', p', h', rfl, rfl⟩
    · exact ⟨[], t, rfl, rfl, by simp⟩
    · obtain ⟨s, r, rfl, hs, hp⟩ := ih h'
      exact ⟨d :: s, r, rfl, by simp [hs], by rw [position_cons_add, hp]⟩

/-- The positions from a character on are those of the text that it starts, moved to its place. -/
theorem StandsAt.exists_position_add {t : Text} {c : Char} {b : Nat} {p : Position}
    (h : t.StandsAt c b p) :
    ∃ r, ∀ k, t.position (b + k) = p.advance (position (c :: r) k) := by
  obtain ⟨s, r, rfl, rfl, hp⟩ := h.exists_split
  exact ⟨r, fun k => by rw [position_append, hp]⟩

/-- All offsets within a character have the same position. -/
theorem StandsAt.position_eq {t : Text} {c : Char} {b x : Nat} {p : Position}
    (h : t.StandsAt c b p) (hx : b ≤ x) (hx' : x < b + c.utf8Size) : t.position x = p := by
  obtain ⟨r, hr⟩ := h.exists_position_add
  obtain ⟨k, rfl⟩ := Nat.exists_eq_add_of_le hx
  rw [hr, position_cons_of_lt r (by omega), Position.advance_origin]

theorem not_endsLine_of_not_isBreak {c : Char} (h : ¬ isBreak c = true) (t : Text) :
    ¬ endsLine c t = true := by
  intro hends
  rcases endsLine_iff.1 hends with rfl | ⟨rfl, -⟩
  · exact h rfl
  · exact h rfl

/-- Where a character other than a break ends, its line goes on with the next column. -/
theorem StandsAt.position_end {t : Text} {c : Char} {b : Nat} {p : Position}
    (h : t.StandsAt c b p) (hc : ¬ isBreak c = true) :
    t.position (b + c.utf8Size) = ⟨p.line, p.column + units c⟩ := by
  obtain ⟨r, hr⟩ := h.exists_position_add
  have hk := position_cons_add c r 0
  rw [Nat.add_zero, position_zero, Position.advance_origin, move,
    if_neg (not_endsLine_of_not_isBreak hc r)] at hk
  rw [hr, hk, Position.advance, if_pos rfl]

/-- A position is at or before a unit of a character exactly if its offset is before the end of the
character. -/
theorem StandsAt.position_le_iff {t : Text} {c : Char} {b x u : Nat} {p : Position}
    (h : t.StandsAt c b p) (hc : ¬ isBreak c = true) (hu : u < units c) :
    t.position x ≤ ⟨p.line, p.column + u⟩ ↔ x < b + c.utf8Size := by
  constructor
  · intro hle
    by_contra hx
    have hend := t.position_le_position (Nat.not_lt.1 hx)
    rw [h.position_end hc] at hend
    have hcolumn := Position.mk_le_mk_iff.1 (le_trans hend hle)
    omega
  · intro hx
    have hlast := t.position_le_position (Nat.le_sub_one_of_lt hx)
    have hsize := c.utf8Size_pos
    rw [h.position_eq (x := b + c.utf8Size - 1) (by omega) (by omega)] at hlast
    exact le_trans hlast (Position.mk_le_mk_iff.2 (Nat.le_add_right _ _))

/-- A position is behind some units of a character exactly if its offset is behind all of it. -/
theorem StandsAt.le_position_iff {t : Text} {c : Char} {b x u : Nat} {p : Position}
    (h : t.StandsAt c b p) (hc : ¬ isBreak c = true) (hpos : 0 < u) (hu : u ≤ units c) :
    ⟨p.line, p.column + u⟩ ≤ t.position x ↔ b + c.utf8Size ≤ x := by
  constructor
  · intro hle
    by_contra hx
    have hfirst := (h.position_le_iff hc (units_pos c)).2 (Nat.not_le.1 hx)
    have hcolumn := Position.mk_le_mk_iff.1 (le_trans hle hfirst)
    omega
  · intro hx
    have hend := t.position_le_position hx
    rw [h.position_end hc] at hend
    exact le_trans (Position.mk_le_mk_iff.2 (Nat.add_le_add_left hu _)) hend

/-- No boundary lies inside a character. -/
theorem IsBoundary.le_or_le {s r : Text} {c : Char} {x : Nat}
    (h : IsBoundary (s ++ c :: r) x) : x ≤ size s ∨ size s + c.utf8Size ≤ x := by
  obtain ⟨u, hu, rfl⟩ := h
  have hc : s ++ [c] <+: s ++ c :: r := ⟨r, by simp⟩
  rcases List.prefix_or_prefix_of_prefix hu hc with h | h
  · rcases List.prefix_concat_iff.1 h with rfl | ⟨v, rfl⟩
    · right
      simp
    · left
      rw [size_append]
      exact Nat.le_add_right _ _
  · obtain ⟨v, rfl⟩ := h
    right
    simp only [size_append, size_cons, size_nil]
    omega

/-! ## Contents -/

/-- What stands in a line up to a character other than a break is part of its content. -/
theorem lineContent_append_cons {c : Char} (hc : ¬ isBreak c = true) (pre post : Text) :
    lineContent (pre ++ c :: post) = pre ++ c :: lineContent post := by
  simp only [lineContent, List.reverse_append, List.reverse_cons, List.append_assoc,
    List.singleton_append, List.dropWhile_append]
  split
  · rename_i h
    simp [List.isEmpty_iff.1 h, List.dropWhile_cons_of_neg hc]
  · simp

/-- A line is its content and what comes after it. -/
theorem exists_lineContent_append (l : Text) : ∃ r, lineContent l ++ r = l := by
  obtain ⟨s, hs⟩ := List.dropWhile_suffix (l := l.reverse) isBreak
  refine ⟨s.reverse, ?_⟩
  rw [lineContent, ← List.reverse_append, hs, List.reverse_reverse]

/-- A line is no larger than its text. -/
theorem size_le_of_mem_lines {t l : Text} (hl : l ∈ t.lines) : l.size ≤ t.size := by
  obtain ⟨s, r, hsr⟩ := List.append_of_mem hl
  rw [← flatten_lines t, hsr, List.flatten_append, List.flatten_cons, size_append, size_append]
  omega

/-- No line is wider than its text is large. -/
theorem lineWidth_le_size {t l : Text} (hl : l ∈ t.lines) : lineWidth l ≤ t.size := by
  obtain ⟨r, hr⟩ := exists_lineContent_append l
  calc lineWidth l ≤ width (lineContent l ++ r) := by
        rw [width_append, lineWidth]
        exact Nat.le_add_right _ _
    _ = width l := by rw [hr]
    _ ≤ size l := width_le_size l
    _ ≤ size t := size_le_of_mem_lines hl

/-- The widths of the lines of a text. -/
abbrev lineWidths (t : Text) : Array Nat := (t.lines.map lineWidth).toArray

/-- The units of a character other than a break lie within the content of its line. -/
theorem StandsAt.le_width {t : Text} {c : Char} {b : Nat} {p : Position} (h : t.StandsAt c b p)
    (hc : ¬ isBreak c = true) :
    ∃ w, t.lineWidths[p.line]? = some w ∧ p.column + units c ≤ w := by
  obtain ⟨pre, post, hl, hw, -⟩ := h
  refine ⟨lineWidth (pre ++ c :: post), by simp [lineWidths, hl], ?_⟩
  rw [lineWidth, lineContent_append_cons hc, width_append, width_cons, hw]
  omega

end PromqlEditor.Text
