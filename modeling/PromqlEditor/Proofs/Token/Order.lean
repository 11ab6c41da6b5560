import PromqlEditor.Proofs.Token.Marks
import PromqlEditor.Token.Decode

/-!
# Tokens exist and are in order

Marks that follow one another can be made into relative tokens: each of them starts after the one
before it, so no difference is negative (`exists_encode?`). Reading the tokens leads back to the
marks, which do not overlap. So every list of highlights has tokens, and none of them reaches into
the next (`exists_tokens_in_order`). While the text has less than 2 ^ 32 bytes, all numbers on the
way fit in 32 bits.
-/

namespace PromqlEditor

namespace Mark

/-- A mark does not stop before it starts. -/
theorem start_le_stop (m : Mark) : m.start ≤ m.stop :=
  Or.inr ⟨rfl, Nat.le_add_right _ _⟩

theorem placed_isBefore_iff {m m' : Mark} :
    m.placed.IsBefore m'.placed ↔ m.stop ≤ m'.start := Iff.rfl

end Mark

namespace Token

/-! ## Encoding -/

/-- A mark that does not start before a position has a token after it. -/
theorem exists_ofMark? {line column : Nat} {m : Mark}
    (h : (⟨line, column⟩ : Position) ≤ m.start) : ∃ k, ofMark? line column m = some k := by
  rw [Mark.start, Position.le_def] at h
  dsimp only at h
  have hl : line ≤ m.line := by omega
  rw [ofMark?, difference?_eq_some hl]
  by_cases hd : m.line - line = 0
  · have hc : column ≤ m.column := by omega
    simp [hd, difference?_eq_some hc]
  · simp [hd]

/-- Marks that follow one another have tokens. What carries the induction is that the position
the next mark is placed from, the start of this one, lies before the rest. -/
theorem exists_encode? {line column : Nat} {ms : List Mark}
    (hfirst : ∀ m ∈ ms, (⟨line, column⟩ : Position) ≤ m.start)
    (hord : ms.Pairwise fun m m' => m.stop ≤ m'.start) :
    ∃ ks, encode? line column ms = some ks := by
  induction ms generalizing line column with
  | nil => exact ⟨[], rfl⟩
  | cons m ms ih =>
    obtain ⟨hm, hms⟩ := List.pairwise_cons.1 hord
    obtain ⟨k, hk⟩ := exists_ofMark? (hfirst m List.mem_cons_self)
    obtain ⟨ks, hks⟩ := ih (fun m' hm' => le_trans m.start_le_stop (hm m' hm')) hms
    exact ⟨k :: ks, by rw [encode?, hk, hks]; rfl⟩

/-- Highlights have tokens, and reading these gives marks that show the highlights. -/
theorem exists_ofHighlights? (t : Text) (hs : List Highlight) :
    ∃ ks ms, ofHighlights? t hs = some ks ∧ decode 0 0 ks = ms.map Mark.placed ∧
      Mark.Shows t.lineWidths (Highlight.strokes t hs) ms := by
  obtain ⟨ms, hms, hshows⟩ := Mark.exists_shows_ofHighlights? t hs
  obtain ⟨ks, hks⟩ := exists_encode? (fun m _ => Position.origin_le m.start) hshows.ordered
  exact ⟨ks, ms, by rw [ofHighlights?, hms]; exact hks, decode_encode? hks, hshows⟩

/-- Reading the tokens of highlights leads to their marks. -/
theorem decode_ofHighlights? {t : Text} {hs : List Highlight} {ks : List Token}
    (h : ofHighlights? t hs = some ks) :
    ∃ ms, Mark.ofHighlights? t hs = some ms ∧ decode 0 0 ks = ms.map Mark.placed := by
  obtain ⟨ms, hms, hks⟩ := Option.bind_eq_some_iff.1 h
  exact ⟨ms, hms, decode_encode? hks⟩

/-! ## The main result -/

/-- Every list of highlights has tokens for every text, so nothing that is subtracted on the way
is negative and no line is asked for that the text does not have, and each token lies before all
that follow it. In a text of less than 2 ^ 32 bytes every line, every column and the width of
every line is below 2 ^ 32. -/
theorem exists_tokens_in_order {t : Text} (ht : t.size < UInt32.size) (hs : List Highlight) :
    (∃ ks, ofHighlights? t hs = some ks ∧ (decode 0 0 ks).Pairwise PlacedToken.IsBefore) ∧
      (∀ b, (t.position b).line < t.lines.length ∧ (t.position b).line < UInt32.size ∧
        (t.position b).column < UInt32.size) ∧
      ∀ l ∈ t.lines, Text.lineWidth l < UInt32.size := by
  refine ⟨?_, ?_, ?_⟩
  · obtain ⟨ks, ms, hks, hms, hshows⟩ := exists_ofHighlights? t hs
    refine ⟨ks, hks, ?_⟩
    rw [hms, List.pairwise_map]
    exact hshows.ordered.imp Mark.placed_isBefore_iff.2
  · intro b
    obtain ⟨hline, hcolumn⟩ := t.position_le_size b
    exact ⟨t.line_position_lt b, Nat.lt_of_le_of_lt hline ht, Nat.lt_of_le_of_lt hcolumn ht⟩
  · intro l hl
    exact Nat.lt_of_le_of_lt (Text.lineWidth_le_size hl) ht

/-- Highlights that cross, one that stops between the two characters of a line break and one that
is reversed. -/
theorem crossing_tokens_in_order :
    Text.size ['a', '\r', '\n', '😀'] < UInt32.size ∧
      ∃ ks, ofHighlights? ['a', '\r', '\n', '😀']
          [⟨⟨1, 9⟩, .number⟩, ⟨⟨0, 2⟩, .operator⟩, ⟨⟨2, 1⟩, .string⟩] = some ks ∧
        (decode 0 0 ks).Pairwise PlacedToken.IsBefore := by
  have hsize : Text.size ['a', '\r', '\n', '😀'] < UInt32.size := by decide
  exact ⟨hsize, (exists_tokens_in_order hsize _).1⟩

end Token

end PromqlEditor
