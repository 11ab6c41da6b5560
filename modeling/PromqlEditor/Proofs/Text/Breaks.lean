import PromqlEditor.Proofs.Text.Content

/-!
# Line breaks

What the lines of a text are, said without going through it character by character. There are
three line breaks: `\n`, `\r\n`, and a `\r` that no `\n` follows. A text is split into lines if
each of them is some characters that take part in no break, and then, unless it is the last, one
break. There is just one way to split a text, and it gives the lines of the text
(`splitsInto_iff`).
-/

namespace PromqlEditor.Text

/-- Whether a text is a line break when `rest` follows it. -/
inductive IsLineBreak : Text → Text → Prop
  | lineFeed {rest : Text} : IsLineBreak ['\n'] rest
  | pair {rest : Text} : IsLineBreak ['\r', '\n'] rest
  | carriageReturn {rest : Text} (h : rest.head? ≠ some '\n') : IsLineBreak ['\r'] rest

/-- Whether a text is split into lines, each with its break. -/
inductive SplitsInto : Text → List Text → Prop
  | last {content : Text} (hcontent : ∀ c ∈ content, ¬ isBreak c = true) :
      SplitsInto content [content]
  | line {content brk rest : Text} {ls : List Text}
      (hcontent : ∀ c ∈ content, ¬ isBreak c = true) (hbrk : IsLineBreak brk rest)
      (hrest : SplitsInto rest ls) : SplitsInto (content ++ brk ++ rest) ((content ++ brk) :: ls)

section

variable {t content brk rest : Text} {ls : List Text}

/-! ## A text is split at its breaks -/

theorem IsLineBreak.length_pos (h : IsLineBreak brk rest) : 0 < brk.length := by
  cases h <;> simp

/-- A text has a first break unless it has none. -/
theorem exists_first_lineBreak (t : Text) :
    (∀ c ∈ t, ¬ isBreak c = true) ∨
      ∃ content brk rest, t = content ++ brk ++ rest ∧ (∀ c ∈ content, ¬ isBreak c = true) ∧
        IsLineBreak brk rest := by
  induction t with
  | nil => exact Or.inl nofun
  | cons c t ih =>
    by_cases hc : isBreak c = true
    · right
      by_cases hends : endsLine c t = true
      · refine ⟨[], [c], t, rfl, nofun, ?_⟩
        rcases endsLine_iff.1 hends with rfl | ⟨rfl, hhead⟩
        · exact .lineFeed
        · exact .carriageReturn hhead
      · obtain ⟨rfl, r, rfl⟩ := exists_pair_of_not_endsLine hc hends
        exact ⟨[], ['\r', '\n'], r, rfl, nofun, .pair⟩
    · refine ih.imp (fun h => List.forall_mem_cons.2 ⟨hc, h⟩) ?_
      rintro ⟨content, brk, rest, rfl, hcontent, hbrk⟩
      exact ⟨c :: content, brk, rest, rfl, List.forall_mem_cons.2 ⟨hc, hcontent⟩, hbrk⟩

theorem lines_of_forall_not_isBreak (h : ∀ c ∈ t, ¬ isBreak c = true) : lines t = [t] := by
  induction t with
  | nil => rfl
  | cons c t ih =>
    obtain ⟨hc, ht⟩ := List.forall_mem_cons.1 h
    rw [lines, if_neg (not_endsLine_of_not_isBreak hc t), ih ht, List.modifyHead_cons]

/-- The first line of a text ends with the first break. -/
theorem lines_append_lineBreak (hcontent : ∀ c ∈ content, ¬ isBreak c = true)
    (hbrk : IsLineBreak brk rest) :
    lines (content ++ brk ++ rest) = (content ++ brk) :: lines rest := by
  induction content with
  | nil =>
    cases hbrk with
    | lineFeed => exact lines_lineFeed rest
    | pair =>
      have hpair : ¬ endsLine '\r' ('\n' :: rest) = true := by simp [endsLine]
      simp only [List.nil_append, List.cons_append]
      rw [lines, if_neg hpair, lines_lineFeed, List.modifyHead_cons]
    | carriageReturn h => exact lines_cons_of_endsLine (by simp [endsLine, h])
  | cons c content ih =>
    obtain ⟨hc, hcontent⟩ := List.forall_mem_cons.1 hcontent
    simp only [List.cons_append]
    rw [lines, if_neg (not_endsLine_of_not_isBreak hc _), ih hcontent, List.modifyHead_cons]

/-! ## The lines of a text -/

theorem SplitsInto.eq_lines (h : SplitsInto t ls) : ls = lines t := by
  induction h with
  | last hcontent => rw [lines_of_forall_not_isBreak hcontent]
  | line hcontent hbrk _ ih => rw [lines_append_lineBreak hcontent hbrk, ih]

/-- The induction is on the length of the text: what follows the first break is shorter. -/
theorem splitsInto_lines (t : Text) : SplitsInto t (lines t) := by
  induction hn : t.length using Nat.strong_induction_on generalizing t with
  | h n ih =>
    rcases exists_first_lineBreak t with hcontent | ⟨content, brk, rest, rfl, hcontent, hbrk⟩
    · rw [lines_of_forall_not_isBreak hcontent]
      exact .last hcontent
    · have hlt : rest.length < n := by
        have hpos := hbrk.length_pos
        simp only [List.length_append] at hn
        omega
      rw [lines_append_lineBreak hcontent hbrk]
      exact .line hcontent hbrk (ih rest.length hlt rest rfl)

/-- A text is split into its lines and into nothing else. -/
theorem splitsInto_iff : SplitsInto t ls ↔ ls = lines t :=
  ⟨SplitsInto.eq_lines, fun h => h ▸ splitsInto_lines t⟩

end

end PromqlEditor.Text
