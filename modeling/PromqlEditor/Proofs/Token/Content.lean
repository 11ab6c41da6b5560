import PromqlEditor.Proofs.Text.Content
import PromqlEditor.Proofs.Token.Order

/-!
# Tokens and the ends of lines

A token is to lie within the content of its line and leave the line break alone. A highlight that
goes on to a later line is cut at the end of the content, but one that stops on a line is taken to
stop at its own position, which is one column too far if it stops between the two characters of
`\r\n`. So a token covers the `\r` where a piece of the flattened highlights stops there, and in no
other case does a token lie beyond the content of its line (`exists_tokens_within_content_iff`).
-/

namespace PromqlEditor

/-- What comes out of a list was made from a member of it. -/
theorem exists_of_mem_mapM {α β : Type} {f : α → Option β} {l : List α} {ys : List β}
    (h : l.mapM f = some ys) {y : β} (hy : y ∈ ys) : ∃ x ∈ l, f x = some y := by
  have hmem : some y ∈ l.map f := by
    rw [mapM_eq_some_iff.1 h]
    exact List.mem_map_of_mem hy
  exact List.mem_map.1 hmem

namespace Mark

section

variable {widths : Array Nat} {m : Mark} {ms : List Mark}

/-- On one line a mark stops where the stroke does, or with the content of the line. -/
theorem stop_eq_or_le_of_onLine {start stop : Position} {c : Category} {n : Nat}
    (hn : n < widths.size) (h : onLine? widths start stop c n = some ms) (hm : m ∈ ms) :
    m.stop = stop ∨ ∃ w, widths[m.line]? = some w ∧ m.column + m.length ≤ w := by
  rw [onLine?_eq hn] at h
  split at h
  · rename_i hlt
    cases h
    obtain rfl := List.mem_singleton.1 hm
    have hlen := Nat.add_sub_cancel' (Nat.le_of_lt hlt)
    by_cases hline : n = stop.line
    · left
      rw [Mark.stop, hlen, lastOn, if_pos hline, hline]
    · right
      refine ⟨widths[n], Array.getElem?_eq_getElem hn, ?_⟩
      rw [hlen, lastOn, if_neg hline, Array.getElem?_eq_getElem hn, Option.getD_some]
  · cases h
    simp at hm

/-- A highlight has one mark if it starts and stops on the same line, and otherwise those on the
lines that it touches. -/
theorem ofHighlight?_cases {t : Text} {q : Highlight}
    (h : ofHighlight? t t.lineWidths q = some ms) :
    ((t.position q.span.start).line = (t.position q.span.stop).line ∧
      (t.position q.span.start).column ≤ (t.position q.span.stop).column ∧
      ms = [⟨(t.position q.span.start).line, (t.position q.span.start).column,
        (t.position q.span.stop).column - (t.position q.span.start).column, q.category⟩]) ∨
    ((t.position q.span.start).line ≠ (t.position q.span.stop).line ∧
      ∀ m ∈ ms, ∃ n < t.lineWidths.size, ∃ ms',
        onLine? t.lineWidths (t.position q.span.start) (t.position q.span.stop) q.category n =
          some ms' ∧ m ∈ ms') := by
  rw [ofHighlight?] at h
  dsimp only at h
  split at h
  · rename_i hline
    obtain ⟨d, hd, h⟩ := Option.bind_eq_some_iff.1 h
    cases h
    unfold difference? at hd
    split at hd
    · rename_i hcol
      cases hd
      exact Or.inl ⟨hline, hcol, rfl⟩
    · simp at hd
  · rename_i hline
    obtain ⟨mss, hmss, h⟩ := Option.bind_eq_some_iff.1 h
    cases h
    refine Or.inr ⟨hline, fun m hm => ?_⟩
    obtain ⟨ms', hms', hm⟩ := List.mem_flatten.1 hm
    obtain ⟨n, hn, hnm⟩ := exists_of_mem_mapM hmss hms'
    have hlast : (t.position q.span.stop).line < t.lineWidths.size := by
      simpa using t.line_position_lt q.span.stop
    rw [List.mem_range'_1] at hn
    exact ⟨n, by omega, ms', hnm, hm⟩

/-- A mark of a highlight stops where the highlight does, or with the content of its line. -/
theorem stop_eq_or_le_of_ofHighlight {t : Text} {q : Highlight}
    (h : ofHighlight? t t.lineWidths q = some ms) (hm : m ∈ ms) :
    m.stop = t.position q.span.stop ∨
      ∃ w, t.lineWidths[m.line]? = some w ∧ m.column + m.length ≤ w := by
  rcases ofHighlight?_cases h with ⟨hline, hcol, rfl⟩ | ⟨-, hlines⟩
  · obtain rfl := List.mem_singleton.1 hm
    left
    rw [Mark.stop]
    dsimp only
    rw [Nat.add_sub_cancel' hcol, hline]
  · obtain ⟨n, hn, ms', hms', hm⟩ := hlines m hm
    exact stop_eq_or_le_of_onLine hn hms' hm

end

/-- A mark is on a line of the text and within its content, unless a piece of the flattened
highlights stops where the mark does and between the characters of the line's break. -/
theorem within_content_or_splitsBreak {t : Text} {hs : List Highlight} {ms : List Mark}
    (h : ofHighlights? t hs = some ms) {m : Mark} (hm : m ∈ ms) :
    ∃ l, t.lines[m.line]? = some l ∧
      (m.column + m.length ≤ Text.lineWidth l ∨
        m.column + m.length = Text.lineWidth l + 1 ∧
          ∃ q ∈ Highlight.flatten hs, t.SplitsBreak q.span.stop ∧
            t.position q.span.stop = m.stop) := by
  rw [ofHighlights?] at h
  obtain ⟨mss, hmss, h⟩ := Option.bind_eq_some_iff.1 h
  cases h
  obtain ⟨ms', hms', hm⟩ := List.mem_flatten.1 hm
  obtain ⟨q, hq, hqm⟩ := exists_of_mem_mapM hmss hms'
  rcases stop_eq_or_le_of_ofHighlight hqm hm with hstop | ⟨w, hw, hle⟩
  · obtain ⟨l, hl, hcol⟩ := t.column_position q.span.stop
    rw [← hstop] at hl hcol
    refine ⟨l, hl, ?_⟩
    rcases hcol with ⟨hsplit, hcol⟩ | ⟨-, hcol⟩
    · exact Or.inr ⟨hcol, q, hq, hsplit, hstop.symm⟩
    · exact Or.inl hcol
  · rw [List.getElem?_toArray, List.getElem?_map, Option.map_eq_some_iff] at hw
    obtain ⟨l, hl, rfl⟩ := hw
    exact ⟨l, hl, Or.inl hle⟩

end Mark

namespace Token

/-- Highlights have tokens, each of which is on a line of the text and at most one column longer
than the content of that line. It is longer exactly if a piece of the flattened highlights stops
at the end of the token and there lies between the two characters of a line break. -/
theorem exists_tokens_within_content_iff (t : Text) (hs : List Highlight) :
    ∃ ks, ofHighlights? t hs = some ks ∧
      ∀ k ∈ decode 0 0 ks, ∃ l, t.lines[k.line]? = some l ∧
        k.column + k.length ≤ Text.lineWidth l + 1 ∧
        (k.column + k.length ≤ Text.lineWidth l ↔
          ¬ ∃ q ∈ Highlight.flatten hs, t.SplitsBreak q.span.stop ∧
            t.position q.span.stop = ⟨k.line, k.column + k.length⟩) := by
  obtain ⟨ks, -, hks, -⟩ := exists_ofHighlights? t hs
  obtain ⟨ms, hms, hdecode⟩ := decode_ofHighlights? hks
  refine ⟨ks, hks, fun k hk => ?_⟩
  rw [hdecode] at hk
  obtain ⟨m, hm, rfl⟩ := List.mem_map.1 hk
  obtain ⟨l, hl, hwithin⟩ := Mark.within_content_or_splitsBreak hms hm
  refine ⟨l, hl, ?_⟩
  rcases hwithin with hle | ⟨heq, hsplit⟩
  · refine ⟨Nat.le_succ_of_le hle, iff_of_true hle ?_⟩
    rintro ⟨q, -, hsplit, hstop⟩
    obtain ⟨l', hl', hcol⟩ := t.column_position q.span.stop
    rw [hstop] at hl' hcol
    obtain rfl : l = l' := Option.some.inj (hl.symm.trans hl')
    rcases hcol with ⟨-, hcol⟩ | ⟨hnot, -⟩
    · exact Nat.not_succ_le_self _ (Nat.le_trans (Nat.le_of_eq hcol.symm) hle)
    · exact hnot hsplit
  · refine ⟨Nat.le_of_eq heq, iff_of_false (fun hle => ?_) (not_not.2 hsplit)⟩
    exact Nat.not_succ_le_self _ (Nat.le_trans (Nat.le_of_eq heq.symm) hle)

/-- Tokens do not always lie within the content of their lines: that of a comment which reaches up
to the line feed of `\r\n` covers the `\r`. -/
theorem not_forall_token_within_content :
    ¬ ∀ (t : Text) (hs : List Highlight) (ks : List Token), t.size < UInt32.size →
      ofHighlights? t hs = some ks → ∀ k ∈ decode 0 0 ks, ∃ l, t.lines[k.line]? = some l ∧
        k.column + k.length ≤ Text.lineWidth l := by
  intro h
  have hflat : Highlight.flatten [⟨⟨0, 4⟩, .comment⟩] = [⟨⟨0, 4⟩, .comment⟩] := by
    simp [Highlight.flatten, Highlight.nonempty, Highlight.sweep, Highlight.piece]
  have htokens : ofHighlights? ['#', ' ', 'c', '\r', '\n'] [⟨⟨0, 4⟩, .comment⟩] =
      some [⟨0, 0, 4, 0, 0⟩] := by
    rw [ofHighlights?, Mark.ofHighlights?, hflat]
    rfl
  obtain ⟨l, hl, hle⟩ := h _ _ _ (by decide) htokens ⟨0, 0, 4, 0⟩ List.mem_cons_self
  have hline : ['#', ' ', 'c', '\r', '\n'] = l := Option.some.inj hl
  subst hline
  exact absurd hle (by decide)

end Token

end PromqlEditor
