import PromqlEditor.Proofs.Highlight.Apart
import PromqlEditor.Proofs.Text.Content
import PromqlEditor.Proofs.Text.Offset
import PromqlEditor.Proofs.Token.Order

/-!
# Reading tokens back

A token that is taken to its place stands for a highlight again: its two ends name offsets of the
text, and its type a category (`PlacedToken.highlight?`). Highlights of which each lies within the
content of one line, on character boundaries, and no two of which overlap come out of their tokens
as they were, sorted by where they start (`exists_tokens_read_back`). So nothing is merged where
two of the same category touch, and nothing is cut.
-/

namespace PromqlEditor

/-- The highlight that a token shows in a text, if its ends fall between characters. -/
def PlacedToken.highlight? (t : Text) (k : PlacedToken) : Option Highlight := do
  let start ← t.offset? ⟨k.line, k.column⟩
  let stop ← t.offset? ⟨k.line, k.column + k.length⟩
  let category ← Category.all[k.type]?
  return ⟨⟨start, stop⟩, category⟩

/-- Whether a highlight covers characters within the content of one line of a text, and nothing
else. -/
structure Highlight.LiesInLine (t : Text) (h : Highlight) : Prop where
  start_lt_stop : h.span.start < h.span.stop
  isBoundary_start : t.IsBoundary h.span.start
  isBoundary_stop : t.IsBoundary h.span.stop
  within_content : ∃ n l, t.lines[n]? = some l ∧ t.lineStart n ≤ h.span.start ∧
    h.span.stop ≤ t.lineStart n + Text.size (Text.lineContent l)

/-- What comes out of a list is known if it is known of each of its members. -/
theorem mapM_eq_some_map {α β : Type} {f : α → Option β} {g : α → β} {l : List α}
    (h : ∀ x ∈ l, f x = some (g x)) : l.mapM f = some (l.map g) := by
  rw [mapM_eq_some_iff, List.map_map]
  exact List.map_congr_left h

namespace Mark

/-- The one mark of a highlight that starts and stops on the same line. -/
def ofLine (t : Text) (h : Highlight) : Mark :=
  ⟨(t.position h.span.start).line, (t.position h.span.start).column,
    (t.position h.span.stop).column - (t.position h.span.start).column, h.category⟩

section

variable {t : Text} {h : Highlight}

/-- A highlight that lies in a line starts and stops on it. -/
theorem line_position_eq (hline : h.LiesInLine t) :
    (t.position h.span.start).line = (t.position h.span.stop).line := by
  obtain ⟨n, l, hl, hstart, hstop⟩ := hline.within_content
  have hlt := hline.start_lt_stop
  have hposition : ∀ b, t.lineStart n ≤ b → b ≤ h.span.stop → (t.position b).line = n := by
    intro b hb hle
    obtain ⟨k, rfl⟩ := Nat.exists_eq_add_of_le hb
    rw [Text.position_lineStart_add hl (by omega)]
  rw [hposition _ hstart (Nat.le_of_lt hlt), hposition _ (by omega) (Nat.le_refl _)]

theorem column_position_le (hline : h.LiesInLine t) :
    (t.position h.span.start).column ≤ (t.position h.span.stop).column :=
  Position.column_le_column (t.position_le_position (Nat.le_of_lt hline.start_lt_stop))
    (line_position_eq hline)

/-- The mark of a highlight that lies in a line stops where the highlight does. -/
theorem stop_ofLine (hline : h.LiesInLine t) : (ofLine t h).stop = t.position h.span.stop := by
  rw [Mark.stop, ofLine]
  dsimp only
  rw [Nat.add_sub_cancel' (column_position_le hline), line_position_eq hline]

/-- A highlight that lies in a line has one mark. -/
theorem ofHighlight?_eq_ofLine (widths : Array Nat) (hline : h.LiesInLine t) :
    ofHighlight? t widths h = some [ofLine t h] := by
  rw [ofHighlight?]
  dsimp only
  rw [if_pos (line_position_eq hline), difference?_eq_some (column_position_le hline)]
  rfl

/-- The mark of a highlight that lies in a line is read back as the highlight. -/
theorem highlight?_placed_ofLine (hline : h.LiesInLine t) :
    (ofLine t h).placed.highlight? t = some h := by
  have hstart : t.offset? (ofLine t h).start = some h.span.start :=
    hline.isBoundary_start.offset?_position
  have hstop : t.offset? (ofLine t h).stop = some h.span.stop := by
    rw [stop_ofLine hline, hline.isBoundary_stop.offset?_position]
  have hcategory : Category.all[(ofLine t h).placed.type]? = some h.category :=
    h.category.getElem?_index
  show (t.offset? (ofLine t h).start).bind _ = _
  rw [hstart, Option.bind_some]
  show (t.offset? (ofLine t h).stop).bind _ = _
  rw [hstop, Option.bind_some]
  show (Category.all[(ofLine t h).placed.type]?).bind _ = _
  rw [hcategory]
  rfl

end

/-- Highlights that lie in lines and do not overlap have one mark each. -/
theorem ofHighlights?_eq_map {t : Text} {hs : List Highlight}
    (hline : ∀ q ∈ Highlight.flatten hs, q.LiesInLine t) :
    ofHighlights? t hs = some ((Highlight.flatten hs).map (ofLine t)) := by
  have hmapM := mapM_eq_some_map fun q hq => ofHighlight?_eq_ofLine t.lineWidths (hline q hq)
  rw [ofHighlights?, hmapM, ← List.flatMap_singleton' ((Highlight.flatten hs).map (ofLine t)),
    List.flatMap_map]
  rfl

end Mark

namespace Token

/-- Highlights that lie in lines and do not overlap have tokens, and what these show when they are
taken to their places are the very highlights, sorted by where they start. -/
theorem exists_tokens_read_back {t : Text} {hs : List Highlight}
    (hline : ∀ h ∈ hs, h.LiesInLine t) (hapart : hs.Pairwise Highlight.IsApart) :
    ∃ ks sorted, ofHighlights? t hs = some ks ∧
      (decode 0 0 ks).mapM (PlacedToken.highlight? t) = some sorted ∧ sorted.Perm hs ∧
      sorted.Pairwise fun g h => g.span.start < h.span.start := by
  have hlt : ∀ h ∈ hs, h.span.start < h.span.stop := fun h hh => (hline h hh).start_lt_stop
  have hperm : (Highlight.flatten hs).Perm hs := by
    rw [Highlight.flatten_eq_mergeSort hlt hapart]
    exact List.mergeSort_perm hs Highlight.behind
  have hline' : ∀ q ∈ Highlight.flatten hs, q.LiesInLine t := fun q hq =>
    hline q (hperm.mem_iff.1 hq)
  obtain ⟨ks, -, hks, -⟩ := exists_ofHighlights? t hs
  obtain ⟨ms, hms, hdecode⟩ := decode_ofHighlights? hks
  cases (Mark.ofHighlights?_eq_map hline').symm.trans hms
  refine ⟨ks, Highlight.flatten hs, hks, ?_, hperm, ?_⟩
  · rw [hdecode, List.map_map, List.mapM_map]
    have hread := mapM_eq_some_map (g := id) fun q hq => Mark.highlight?_placed_ofLine (hline' q hq)
    rw [List.map_id] at hread
    exact hread
  · refine (Highlight.pairwise_flatten hs).imp_of_mem fun hg _ hle => ?_
    exact Nat.lt_of_lt_of_le (Highlight.start_lt_stop_of_mem_flatten hg) hle

/-- Two highlights of one category that touch stay two, in whichever order they are given. -/
theorem touching_tokens_read_back :
    ∃ ks sorted, ofHighlights? ['a', '\r', '\n', '😀', 'b']
        [⟨⟨7, 8⟩, .number⟩, ⟨⟨0, 1⟩, .string⟩, ⟨⟨3, 7⟩, .number⟩] = some ks ∧
      (decode 0 0 ks).mapM (PlacedToken.highlight? ['a', '\r', '\n', '😀', 'b']) = some sorted ∧
      sorted.Perm [⟨⟨7, 8⟩, .number⟩, ⟨⟨0, 1⟩, .string⟩, ⟨⟨3, 7⟩, .number⟩] ∧
      sorted.Pairwise fun g h => g.span.start < h.span.start := by
  refine exists_tokens_read_back (fun h hh => ?_) ?_
  · have hb : ∀ s, s <+: ['a', '\r', '\n', '😀', 'b'] →
        Text.IsBoundary ['a', '\r', '\n', '😀', 'b'] (Text.size s) := fun s hs => ⟨s, hs, rfl⟩
    simp only [List.mem_cons, List.not_mem_nil, or_false] at hh
    obtain rfl | rfl | rfl := hh
    · exact ⟨by decide, hb ['a', '\r', '\n', '😀'] (by decide),
        hb ['a', '\r', '\n', '😀', 'b'] (by decide), 1, ['😀', 'b'], rfl, by decide, by decide⟩
    · exact ⟨by decide, hb [] (by decide), hb ['a'] (by decide), 0, ['a', '\r', '\n'], rfl,
        by decide, by decide⟩
    · exact ⟨by decide, hb ['a', '\r', '\n'] (by decide),
        hb ['a', '\r', '\n', '😀'] (by decide), 1, ['😀', 'b'], rfl, by decide, by decide⟩
  · simp [Highlight.IsApart]

end Token

end PromqlEditor
