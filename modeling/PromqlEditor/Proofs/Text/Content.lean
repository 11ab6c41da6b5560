import Mathlib.Data.List.TakeWhile
import PromqlEditor.Proofs.Text.Place

/-!
# Positions and the content of lines

Where a line ends as its content says, and where it ends as positions say. Offsets that lie in the
content of a line have their position on that line, at the column after what stands before them
(`position_lineStart_add`).

No position lies beyond the content of its line but one. An offset between the two characters of
`\r\n` is still on the line that they end, and the `\r` counts as a column, so its position is one
column past the content (`column_position`).
-/

namespace PromqlEditor.Text

/-! ## Lines that start with a break -/

/-- A character that takes part in a break without ending its line is the first of two. -/
theorem exists_pair_of_not_endsLine {c : Char} {t : Text} (hc : isBreak c = true)
    (h : ¬ endsLine c t = true) : c = '\r' ∧ ∃ r, t = '\n' :: r := by
  cases t with
  | nil => simp_all [isBreak, endsLine]
  | cons d r => simp_all [isBreak, endsLine]

theorem lines_lineFeed (r : Text) : lines ('\n' :: r) = ['\n'] :: lines r :=
  lines_cons_of_endsLine rfl

theorem lineContent_cons {c : Char} (hc : ¬ isBreak c = true) (l : Text) :
    lineContent (c :: l) = c :: lineContent l :=
  lineContent_append_cons hc [] l

/-- A line of nothing but its break has no content. -/
theorem lineContent_eq_nil {l : Text} (h : ∀ c ∈ l, isBreak c = true) : lineContent l = [] := by
  have hdrop : l.reverse.dropWhile isBreak = [] :=
    List.dropWhile_eq_nil_iff.2 fun c hc => h c (List.mem_reverse.1 hc)
  rw [lineContent, hdrop, List.reverse_nil]

/-- The first line of a text that starts with a break is nothing but the break. -/
theorem lineContent_eq_nil_of_isBreak {c : Char} {t l : Text} {ls : List Text}
    (hc : isBreak c = true) (hl : lines (c :: t) = l :: ls) : lineContent l = [] := by
  by_cases hends : endsLine c t = true
  · obtain ⟨rfl, -⟩ : [c] = l ∧ lines t = ls := by simpa [lines_cons_of_endsLine hends] using hl
    exact lineContent_eq_nil (by simp [hc])
  · obtain ⟨rfl, r, rfl⟩ := exists_pair_of_not_endsLine hc hends
    obtain ⟨rfl, -⟩ : ['\r', '\n'] = l ∧ lines r = ls := by
      rw [lines, if_neg hends, lines_lineFeed] at hl
      simpa using hl
    exact lineContent_eq_nil (by simp [isBreak])

/-- A character that takes part in no break stands in the content of the first line. -/
theorem exists_of_lines_cons {c : Char} {t l : Text} {ls : List Text} (hc : ¬ isBreak c = true)
    (hl : lines (c :: t) = l :: ls) :
    ∃ l₀, lines t = l₀ :: ls ∧ lineContent l = c :: lineContent l₀ := by
  obtain ⟨l₀, ls₀, ht, hlines⟩ := lines_cons_of_not_endsLine (not_endsLine_of_not_isBreak hc t)
  obtain ⟨rfl, rfl⟩ : c :: l₀ = l ∧ ls₀ = ls := by simpa [hlines] using hl
  exact ⟨l₀, ht, lineContent_cons hc l₀⟩

/-- A text that starts with a break is past its first line once the break has ended. -/
theorem lt_of_line_position_eq_zero {c : Char} {t : Text} {b : Nat} (h : endsLine c t = true)
    (hb : (position (c :: t) b).line = 0) : b < c.utf8Size := by
  refine Nat.not_le.1 fun hle => ?_
  obtain ⟨b', rfl⟩ := Nat.exists_eq_add_of_le hle
  rw [position_cons_add, advance_move_of_endsLine h] at hb
  exact absurd hb (Nat.succ_ne_zero _)

/-! ## Offsets in the content of a line -/

/-- An offset in the content of the first line has as its column what stands before it. -/
theorem position_of_le_lineContent {t l : Text} {ls : List Text} {k : Nat} (hl : t.lines = l :: ls)
    (hk : k ≤ size (lineContent l)) : t.position k = ⟨0, width ((lineContent l).before k)⟩ := by
  induction t, k using offset_induction generalizing l ls with
  | nil k =>
    obtain ⟨rfl, -⟩ : [] = l ∧ [] = ls := by simpa [lines] using hl
    rfl
  | inside c t k hkc =>
    rw [position_cons_of_lt t hkc]
    by_cases hc : isBreak c = true
    · rw [lineContent_eq_nil_of_isBreak hc hl]
      rfl
    · obtain ⟨l₀, -, hcontent⟩ := exists_of_lines_cons hc hl
      rw [hcontent, before, if_neg (Nat.not_le.2 hkc)]
      rfl
  | past c t k ih =>
    have hc : ¬ isBreak c = true := by
      intro hc
      have hpos := c.utf8Size_pos
      rw [lineContent_eq_nil_of_isBreak hc hl, size_nil] at hk
      omega
    obtain ⟨l₀, ht, hcontent⟩ := exists_of_lines_cons hc hl
    rw [hcontent] at hk ⊢
    rw [position_cons_add, ih ht (by simpa using hk),
      advance_move_of_not_endsLine (not_endsLine_of_not_isBreak hc t), if_pos rfl, before,
      if_pos (Nat.le_add_right _ _), Nat.add_sub_cancel_left, width_cons]

/-- An offset in the content of a line is on that line, after the part of the content before
it. -/
theorem position_lineStart_add {t l : Text} {n k : Nat} (hl : t.lines[n]? = some l)
    (hk : k ≤ size (lineContent l)) :
    t.position (t.lineStart n + k) = ⟨n, width ((lineContent l).before k)⟩ := by
  induction t generalizing n with
  | nil =>
    cases n with
    | zero =>
      obtain rfl : [] = l := by simpa [lines] using hl
      rfl
    | succ n => simp [lines] at hl
  | cons c t ih =>
    cases n with
    | zero =>
      obtain ⟨l₀, ls, hlines⟩ := List.exists_cons_of_ne_nil (lines_ne_nil (c :: t))
      obtain rfl : l₀ = l := by simpa [hlines] using hl
      rw [lineStart_zero, Nat.zero_add, position_of_le_lineContent hlines hk]
    | succ n =>
      by_cases hc : endsLine c t = true
      · rw [lines_cons_of_endsLine hc] at hl
        rw [lineStart_cons_of_endsLine hc, Nat.add_assoc, position_cons_add, ih hl,
          advance_move_of_endsLine hc]
      · obtain ⟨l₀, ls, ht, hlines⟩ := lines_cons_of_not_endsLine hc
        rw [hlines, List.getElem?_cons_succ] at hl
        have hrest := ih (n := n + 1) (by rw [ht, List.getElem?_cons_succ, hl])
        rw [lineStart_cons_of_not_endsLine hc, Nat.add_assoc, position_cons_add, hrest,
          advance_move_of_not_endsLine hc, if_neg (Nat.succ_ne_zero n)]

/-! ## Offsets between the characters of a break -/

/-- Whether an offset lies between the two characters of a line break. -/
def SplitsBreak (t : Text) (b : Nat) : Prop :=
  ∃ s r, t = s ++ '\r' :: '\n' :: r ∧ b = size s + 1

theorem not_splitsBreak_of_lt {c : Char} {t : Text} {b : Nat} (hb : b < c.utf8Size) :
    ¬ SplitsBreak (c :: t) b := by
  rintro ⟨s, r, ht, rfl⟩
  cases s with
  | nil =>
    obtain ⟨rfl, -⟩ : c = '\r' ∧ t = '\n' :: r := by simpa using ht
    exact absurd hb (by decide)
  | cons d s =>
    obtain ⟨rfl, -⟩ : c = d ∧ t = s ++ '\r' :: '\n' :: r := by simpa using ht
    rw [size_cons] at hb
    omega

theorem splitsBreak_cons_add {c : Char} {t : Text} {b : Nat} :
    SplitsBreak (c :: t) (c.utf8Size + b) ↔
      t.SplitsBreak b ∨ c = '\r' ∧ b = 0 ∧ ∃ r, t = '\n' :: r := by
  constructor
  · rintro ⟨s, r, ht, hb⟩
    cases s with
    | nil =>
      obtain ⟨rfl, rfl⟩ : c = '\r' ∧ t = '\n' :: r := by simpa using ht
      have hsize : ('\r' : Char).utf8Size = 1 := by decide
      rw [size_nil] at hb
      exact Or.inr ⟨rfl, by omega, r, rfl⟩
    | cons d s =>
      obtain ⟨rfl, rfl⟩ : c = d ∧ t = s ++ '\r' :: '\n' :: r := by simpa using ht
      rw [size_cons] at hb
      exact Or.inl ⟨s, r, rfl, by omega⟩
  · rintro (⟨s, r, rfl, rfl⟩ | ⟨rfl, rfl, r, rfl⟩)
    · exact ⟨c :: s, r, rfl, by rw [size_cons, Nat.add_assoc]⟩
    · exact ⟨[], r, rfl, rfl⟩

/-- Whether the position of an offset is on a line of the text and not beyond its content, or one
column beyond it if the offset lies between the two characters of the break that ends the line. -/
def FitsLine (t : Text) (b : Nat) : Prop :=
  ∃ l, t.lines[(t.position b).line]? = some l ∧
    (t.SplitsBreak b ∧ (t.position b).column = lineWidth l + 1 ∨
      ¬ t.SplitsBreak b ∧ (t.position b).column ≤ lineWidth l)

section

variable {c : Char} {t : Text} {b : Nat}

theorem fitsLine_of_lt (h : b < c.utf8Size) : FitsLine (c :: t) b := by
  obtain ⟨l, ls, hl⟩ := List.exists_cons_of_ne_nil (lines_ne_nil (c :: t))
  rw [FitsLine, position_cons_of_lt t h, hl]
  exact ⟨l, rfl, Or.inr ⟨not_splitsBreak_of_lt h, Nat.zero_le _⟩⟩

/-- An offset behind the end of a line is on another one. -/
theorem FitsLine.cons_of_endsLine (h : FitsLine t b) (hc : endsLine c t = true) :
    FitsLine (c :: t) (c.utf8Size + b) := by
  obtain ⟨l, hl, hcolumn⟩ := h
  have hpair : ¬ (c = '\r' ∧ b = 0 ∧ ∃ r, t = '\n' :: r) := by
    rintro ⟨rfl, -, r, rfl⟩
    simp [endsLine] at hc
  rw [FitsLine, position_cons_add, splitsBreak_cons_add, advance_move_of_endsLine hc,
    lines_cons_of_endsLine hc]
  exact ⟨l, hl, by simpa [hpair] using hcolumn⟩

/-- An offset behind the first line stays where it is on its own. -/
theorem FitsLine.cons_of_line_ne_zero (h : FitsLine t b) (hc : ¬ endsLine c t = true)
    (hline : (t.position b).line ≠ 0) : FitsLine (c :: t) (c.utf8Size + b) := by
  obtain ⟨l, hl, hcolumn⟩ := h
  obtain ⟨l₀, ls, ht, hlines⟩ := lines_cons_of_not_endsLine hc
  obtain ⟨n, hn⟩ := Nat.exists_eq_succ_of_ne_zero hline
  have hpair : ¬ (c = '\r' ∧ b = 0 ∧ ∃ r, t = '\n' :: r) := by
    rintro ⟨-, rfl, -⟩
    exact hline (by rw [position_zero]; rfl)
  rw [FitsLine, position_cons_add, splitsBreak_cons_add, advance_move_of_not_endsLine hc,
    if_neg hline, hlines]
  rw [ht] at hl
  rw [hn, List.getElem?_cons_succ] at hl ⊢
  exact ⟨l, hl, by simpa [hpair] using hcolumn⟩

/-- An offset on the first line has one more character of it on its left: one of the content, or
the first character of the break, which the offset then splits. -/
theorem FitsLine.cons_of_line_eq_zero (h : FitsLine t b) (hc : ¬ endsLine c t = true)
    (hline : (t.position b).line = 0) : FitsLine (c :: t) (c.utf8Size + b) := by
  obtain ⟨l, hl, hcolumn⟩ := h
  obtain ⟨l₀, ls, ht, hlines⟩ := lines_cons_of_not_endsLine hc
  obtain rfl : l₀ = l := by simpa [hline, ht] using hl
  rw [FitsLine, position_cons_add, splitsBreak_cons_add, advance_move_of_not_endsLine hc,
    if_pos hline, hlines]
  refine ⟨c :: l₀, rfl, ?_⟩
  by_cases hbreak : isBreak c = true
  · obtain ⟨rfl, r, rfl⟩ := exists_pair_of_not_endsLine hbreak hc
    obtain ⟨rfl, -⟩ : ['\n'] = l₀ ∧ lines r = ls := by simpa [lines_lineFeed] using ht
    have hlt : b < ('\n' : Char).utf8Size := lt_of_line_position_eq_zero rfl hline
    obtain rfl : b = 0 := Nat.lt_one_iff.1 hlt
    exact Or.inl ⟨Or.inr ⟨rfl, rfl, r, rfl⟩, by rw [position_zero]; decide⟩
  · have hreturn : c ≠ '\r' := fun h => hbreak (h ▸ rfl)
    have hwidth : lineWidth (c :: l₀) = units c + lineWidth l₀ := by
      rw [lineWidth, lineContent_cons hbreak, width_cons, lineWidth]
    simp only [hwidth, hreturn, false_and, or_false]
    exact hcolumn.imp (And.imp_right fun h => by omega) (And.imp_right fun h => by omega)

end

/-- Every position fits its line. -/
theorem column_position (t : Text) (b : Nat) : t.FitsLine b := by
  induction t, b using offset_induction with
  | nil =>
    refine ⟨[], rfl, Or.inr ⟨?_, Nat.zero_le _⟩⟩
    rintro ⟨s, r, h, -⟩
    simp at h
  | inside c t b hb => exact fitsLine_of_lt hb
  | past c t b ih =>
    by_cases hc : endsLine c t = true
    · exact ih.cons_of_endsLine hc
    · by_cases hline : (t.position b).line = 0
      · exact ih.cons_of_line_eq_zero hc hline
      · exact ih.cons_of_line_ne_zero hc hline

end PromqlEditor.Text
