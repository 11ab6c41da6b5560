import PromqlEditor.Proofs.Text.Ranges

/-!
# Where the content of a line ends

The width of a line is found by dropping whatever break characters stand at its end, the column of
an offset by counting from the start of its line. Both agree on where a line ends. Among the
characters dropped is nothing but the one break that ends the line, since the characters before it
take part in no break and those behind it belong to the next line (`exists_lineAt`,
`LineAt.lineContent_eq`). So the width of a line is the column of the offset at which its break
starts, and of the offsets on the line, those between the two characters of a break apart, that one
has the largest column (`line_width_is_last_column`). The offsets on a line are those from its start
to the start of the next one (`LineAt.line_position_iff`).
-/

namespace PromqlEditor.Text

/-- Whether line number `n` of a text, with `pre` in front of it and `rest` behind it, is `content`
and then `brk`. No character of the content takes part in a break, and behind the content comes one
line break, or nothing at all if the line is the last one. -/
structure LineAt (t : Text) (n : Nat) (pre content brk rest : Text) : Prop where
  line : t.lines[n]? = some (content ++ brk)
  front : pre = (t.lines.take n).flatten
  around : t = pre ++ (content ++ brk) ++ rest
  plain : ∀ c ∈ content, ¬ isBreak c = true
  ended : n + 1 < t.lines.length ∧ IsLineBreak brk rest ∨
    n + 1 = t.lines.length ∧ brk = [] ∧ rest = []

section

variable {t l content brk rest : Text} {ls : List Text} {n : Nat}

/-! ## The content and the break of a line -/

theorem IsLineBreak.isBreak_of_mem (h : IsLineBreak brk rest) : ∀ c ∈ brk, isBreak c = true := by
  cases h <;> simp [isBreak]

/-- Break characters behind characters that take part in no break are all that is dropped. -/
theorem lineContent_append (hcontent : ∀ c ∈ content, ¬ isBreak c = true)
    (hbrk : ∀ c ∈ brk, isBreak c = true) : lineContent (content ++ brk) = content := by
  induction content with
  | nil => exact lineContent_eq_nil hbrk
  | cons c content ih =>
    obtain ⟨hc, hcontent⟩ := List.forall_mem_cons.1 hcontent
    rw [List.cons_append, lineContent_cons hc, ih hcontent]

theorem SplitsInto.ne_nil (h : SplitsInto t ls) : ls ≠ [] := by
  rw [h.eq_lines]
  exact lines_ne_nil t

theorem SplitsInto.flatten_eq (h : SplitsInto t ls) : ls.flatten = t := by
  rw [h.eq_lines, flatten_lines]

/-- Each line that a text is split into has a content and one break, but the last, which has no
break. -/
theorem SplitsInto.exists_content (h : SplitsInto t ls) (hl : ls[n]? = some l) :
    ∃ content brk, l = content ++ brk ∧ (∀ c ∈ content, ¬ isBreak c = true) ∧
      (n + 1 < ls.length ∧ IsLineBreak brk (ls.drop (n + 1)).flatten ∨
        n + 1 = ls.length ∧ brk = []) := by
  induction h generalizing n with
  | @last content hcontent =>
    obtain ⟨rfl, rfl⟩ : n = 0 ∧ content = l := by simpa [List.getElem?_singleton] using hl
    exact ⟨content, [], by simp, hcontent, Or.inr ⟨rfl, rfl⟩⟩
  | @line content brk rest ls hcontent hbrk hrest ih =>
    cases n with
    | zero =>
      obtain rfl : content ++ brk = l := by simpa using hl
      refine ⟨content, brk, rfl, hcontent, Or.inl ⟨?_, ?_⟩⟩
      · simpa using List.length_pos_iff.2 hrest.ne_nil
      · simpa [hrest.flatten_eq] using hbrk
    | succ n =>
      obtain ⟨content', brk', rfl, hcontent', hend⟩ := ih hl
      exact ⟨content', brk', rfl, hcontent', by simpa using hend⟩

/-! ## Offsets at the ends of a line -/

/-- A text is the lines in front of a line, the line, and those behind it. -/
theorem eq_flatten_append_line (hl : t.lines[n]? = some l) :
    t = (t.lines.take n).flatten ++ l ++ (t.lines.drop (n + 1)).flatten := by
  obtain ⟨hn, rfl⟩ := List.getElem?_eq_some_iff.1 hl
  calc t = (t.lines.take n ++ t.lines.drop n).flatten := by
        rw [List.take_append_drop, flatten_lines]
    _ = _ := by
        rw [List.drop_eq_getElem_cons hn, List.flatten_append, List.flatten_cons,
          List.append_assoc]

theorem lineStart_succ (hl : t.lines[n]? = some l) :
    t.lineStart (n + 1) = t.lineStart n + size l := by
  rw [lineStart, lineStart, List.take_add_one, hl, Option.toList_some, List.flatten_append,
    size_append, List.flatten_singleton]

theorem isBoundary_lineStart (hl : t.lines[n]? = some l) : t.IsBoundary (t.lineStart n) := by
  refine ⟨(t.lines.take n).flatten, ⟨l ++ (t.lines.drop (n + 1)).flatten, ?_⟩, rfl⟩
  rw [← List.append_assoc, ← eq_flatten_append_line hl]

/-- A line starts in its first column. -/
theorem position_lineStart (hl : t.lines[n]? = some l) : t.position (t.lineStart n) = ⟨n, 0⟩ := by
  have h := position_lineStart_add hl (Nat.zero_le _)
  rwa [before_zero, Nat.add_zero] at h

/-- The offsets from the start of a line on are those that are on this line or on a later one. -/
theorem le_line_position_iff {b : Nat} (hl : t.lines[n]? = some l) :
    n ≤ (t.position b).line ↔ t.lineStart n ≤ b := by
  constructor
  · intro hn
    have hle : t.position (t.lineStart n) ≤ t.position b := by
      rw [position_lineStart hl, Position.le_def]
      dsimp only
      omega
    rw [position_le_position_iff, (isBoundary_lineStart hl).snap_eq] at hle
    exact Nat.le_trans hle (snap_le t b)
  · intro hb
    have hle := t.position_le_position hb
    rw [position_lineStart hl] at hle
    exact Position.line_le_line hle

/-- The content of a line ends in the column that is its width. -/
theorem position_lineStart_add_content (hl : t.lines[n]? = some l) :
    t.position (t.lineStart n + size (lineContent l)) = ⟨n, lineWidth l⟩ := by
  have hall := before_append_size (lineContent l) []
  rw [List.append_nil] at hall
  rw [position_lineStart_add hl (Nat.le_refl _), hall, lineWidth]

/-- The column of an offset is not beyond the content of its line, unless the offset lies between
the characters of a break. -/
theorem le_lineWidth_iff {b k : Nat} (hl : t.lines[n]? = some l) (hb : t.position b = ⟨n, k⟩) :
    k ≤ lineWidth l ↔ ¬ t.SplitsBreak b := by
  obtain ⟨l', hl', hcolumn⟩ := column_position t b
  rw [hb] at hl' hcolumn
  cases hl.symm.trans hl'
  rcases hcolumn with ⟨hsplits, hbeyond⟩ | ⟨hnot, hle⟩
  · have hlt : lineWidth l < k := Nat.lt_of_succ_le (Nat.le_of_eq hbeyond.symm)
    exact iff_of_false (Nat.not_le.2 hlt) (not_not.2 hsplits)
  · exact iff_of_true hle hnot

/-- No line starts between the characters of a break. -/
theorem not_splitsBreak_lineStart (hl : t.lines[n]? = some l) :
    ¬ t.SplitsBreak (t.lineStart n) :=
  (le_lineWidth_iff hl (position_lineStart hl)).1 (Nat.zero_le _)

end

/-! ## Lines in their text -/

section

variable {t pre content brk rest l : Text} {n : Nat}

/-- Every line of a text stands somewhere in it. -/
theorem exists_lineAt (hl : t.lines[n]? = some l) :
    ∃ pre content brk rest, LineAt t n pre content brk rest ∧ content ++ brk = l := by
  obtain ⟨content, brk, rfl, hcontent, hend⟩ := (splitsInto_lines t).exists_content hl
  refine ⟨(t.lines.take n).flatten, content, brk, (t.lines.drop (n + 1)).flatten,
    ⟨hl, rfl, eq_flatten_append_line hl, hcontent, ?_⟩, rfl⟩
  refine hend.imp_right fun ⟨hlast, hbrk⟩ => ⟨hlast, hbrk, ?_⟩
  rw [List.drop_eq_nil_of_le (Nat.le_of_eq hlast.symm), List.flatten_nil]

/-- The content of a line is what is left when the break characters at its end are dropped. -/
theorem LineAt.lineContent_eq (h : LineAt t n pre content brk rest) :
    lineContent (content ++ brk) = content := by
  refine lineContent_append h.plain ?_
  rcases h.ended with ⟨-, hbrk⟩ | ⟨-, rfl, -⟩
  · exact hbrk.isBreak_of_mem
  · exact nofun

theorem LineAt.size_front (h : LineAt t n pre content brk rest) : size pre = t.lineStart n := by
  rw [h.front, lineStart]

/-- The next line starts where the break of a line ends. -/
theorem LineAt.size_brk (h : LineAt t n pre content brk rest) :
    size (pre ++ content ++ brk) = t.lineStart (n + 1) := by
  rw [List.append_assoc, size_append, h.size_front, lineStart_succ h.line]

/-- The offsets on a line go up to the end of its break, and without a break there is no end. -/
theorem LineAt.line_position_iff (h : LineAt t n pre content brk rest) {b : Nat} :
    (t.position b).line = n ↔ size pre ≤ b ∧ (brk = [] ∨ b < size (pre ++ content ++ brk)) := by
  rw [h.size_front, h.size_brk, ← le_line_position_iff h.line]
  rcases h.ended with ⟨hlt, hbrk⟩ | ⟨hlast, hnil, -⟩
  · have hne : brk ≠ [] := List.length_pos_iff.1 hbrk.length_pos
    have hnext := le_line_position_iff (b := b) (List.getElem?_eq_getElem hlt)
    rw [or_iff_right hne, ← Nat.not_le, ← hnext]
    omega
  · have hline := t.line_position_lt b
    rw [and_iff_left (Or.inl hnil)]
    omega

/-- The break of a line starts in the column that is the width of the line. -/
theorem LineAt.position_brk (h : LineAt t n pre content brk rest) :
    t.position (size (pre ++ content)) = ⟨n, lineWidth (content ++ brk)⟩ := by
  rw [size_append, h.size_front, ← position_lineStart_add_content h.line, h.lineContent_eq]

/-- A line starts, and its content and its break end, where no break is split. -/
theorem LineAt.not_splitsBreak (h : LineAt t n pre content brk rest) :
    ¬ t.SplitsBreak (size pre) ∧ ¬ t.SplitsBreak (size (pre ++ content)) ∧
      ¬ t.SplitsBreak (size (pre ++ content ++ brk)) := by
  have hcontent : ¬ t.SplitsBreak (size (pre ++ content)) :=
    (le_lineWidth_iff h.line h.position_brk).1 (Nat.le_refl _)
  refine ⟨?_, hcontent, ?_⟩
  · rw [h.size_front]
    exact not_splitsBreak_lineStart h.line
  · rcases h.ended with ⟨hlt, -⟩ | ⟨-, rfl, -⟩
    · rw [h.size_brk]
      exact not_splitsBreak_lineStart (List.getElem?_eq_getElem hlt)
    · rwa [List.append_nil]

/-- Of the offsets on a line that lie within no break the one at which its break starts has the
largest column. -/
theorem LineAt.isGreatest_lineWidth (h : LineAt t n pre content brk rest) :
    IsGreatest {k | ∃ b, t.position b = ⟨n, k⟩ ∧ ¬ t.SplitsBreak b}
      (lineWidth (content ++ brk)) := by
  refine ⟨⟨size (pre ++ content), h.position_brk, h.not_splitsBreak.2.1⟩, ?_⟩
  rintro k ⟨b, hb, hnot⟩
  exact (le_lineWidth_iff h.line hb).2 hnot

end

/-! ## The main result -/

/-- In a text of less than 2 ^ 32 bytes every line, every column and every width is below 2 ^ 32,
and the lines are those that the text is split into. A line has a content and a break, which the
last line lacks, and all that is dropped at its end is that break and no part of another one. The
offsets on the line are those from its start to the end of its break. The width of the line is the
column at which the break starts, or at which the text ends if there is no break, and it is the
largest column of any offset on the line that does not lie between the two characters of a break. -/
theorem line_width_is_last_column {t : Text} (ht : t.size < UInt32.size) {n : Nat} {l : Text}
    (hl : t.lines[n]? = some l) :
    (∀ ls, SplitsInto t ls ↔ ls = t.lines) ∧
      (∀ b, (t.position b).line < UInt32.size ∧ (t.position b).column < UInt32.size) ∧
      lineWidth l < UInt32.size ∧
      ∃ pre content brk rest, LineAt t n pre content brk rest ∧
        l = content ++ brk ∧ lineContent l = content ∧
        (¬ t.SplitsBreak (size pre) ∧ ¬ t.SplitsBreak (size (pre ++ content)) ∧
          ¬ t.SplitsBreak (size (pre ++ content ++ brk))) ∧
        (∀ b, (t.position b).line = n ↔
          size pre ≤ b ∧ (brk = [] ∨ b < size (pre ++ content ++ brk))) ∧
        t.position (size (pre ++ content)) = ⟨n, lineWidth l⟩ ∧
        IsGreatest {k | ∃ b, t.position b = ⟨n, k⟩ ∧ ¬ t.SplitsBreak b} (lineWidth l) := by
  have hwidth := lineWidth_le_size (List.mem_of_getElem? hl)
  obtain ⟨pre, content, brk, rest, hline, rfl⟩ := exists_lineAt hl
  exact ⟨fun ls => splitsInto_iff, position_lt ht, Nat.lt_of_le_of_lt hwidth ht, pre, content, brk,
    rest, hline, rfl, hline.lineContent_eq, hline.not_splitsBreak, fun b => hline.line_position_iff,
    hline.position_brk, hline.isGreatest_lineWidth⟩

/-- Five lines that end in every way a line can, with breaks right behind other breaks. -/
def mixedLines : Text := ['é', '\r', '\r', '\n', '\n', '\r', '😀']

/-- The first line is ended by a `\r` with a break of two characters behind it, and the second line
is nothing but that break. One offset lies between its characters. -/
theorem width_of_mixed_lines :
    mixedLines.size < UInt32.size ∧
      (mixedLines.lines[0]? = some ['é', '\r'] ∧ lineContent ['é', '\r'] = ['é'] ∧
        IsGreatest {k | ∃ b, mixedLines.position b = ⟨0, k⟩ ∧ ¬ mixedLines.SplitsBreak b} 1) ∧
      (mixedLines.lines[1]? = some ['\r', '\n'] ∧ mixedLines.position 4 = ⟨1, 1⟩ ∧
        IsGreatest {k | ∃ b, mixedLines.position b = ⟨1, k⟩ ∧ ¬ mixedLines.SplitsBreak b} 0) := by
  have hsize : mixedLines.size < UInt32.size := by decide
  have hfirst : mixedLines.lines[0]? = some ['é', '\r'] := rfl
  have hsecond : mixedLines.lines[1]? = some ['\r', '\n'] := rfl
  obtain ⟨_, _, _, _, -, -, -, -, -, -, hlast⟩ := (line_width_is_last_column hsize hfirst).2.2.2
  obtain ⟨_, _, _, _, -, -, -, -, -, -, hlast'⟩ := (line_width_is_last_column hsize hsecond).2.2.2
  exact ⟨hsize, ⟨hfirst, rfl, hlast⟩, hsecond, rfl, hlast'⟩

end PromqlEditor.Text
