import PromqlEditor.Proofs.Highlight.Apart
import PromqlEditor.Proofs.Text.Ranges
import PromqlEditor.Proofs.Token.Content

/-!
# Empty tokens

A highlight that goes on to a later line has no mark on a line where it covers nothing, but one that
starts and stops on the same line always has one. So a token is empty just if it comes from a piece
of the flattened highlights whose ends have the same position, that is, stand for the same boundary
of the text (`Mark.countP_length_ofHighlight?`). Such a piece lies inside a character or past the
end of the text. Pieces start and stop where highlights do, so there is none if all highlights are
on boundaries (`Token.empty_tokens_are_collapsed_pieces`).
-/

namespace PromqlEditor

/-- Counting what comes out of a list comes to counting in the list, if each member contributes
one where it counts and nothing elsewhere. -/
theorem countP_flatten_of_mapM {α β : Type} {f : α → Option (List β)} {p : β → Bool}
    {q : α → Bool} {l : List α} {yss : List (List β)} (h : l.mapM f = some yss)
    (hcount : ∀ x ∈ l, ∀ ys, f x = some ys → ys.countP p = if q x then 1 else 0) :
    yss.flatten.countP p = l.countP q := by
  rw [mapM_eq_some_iff] at h
  induction l generalizing yss with
  | nil =>
    obtain rfl := List.map_eq_nil_iff.1 h.symm
    rfl
  | cons x l ih =>
    obtain ⟨ys, yss, rfl, hys, hyss⟩ := List.map_eq_cons_iff.1 h.symm
    have hfirst := hcount x List.mem_cons_self ys hys.symm
    have hrest := ih hyss.symm fun x' hx' => hcount x' (List.mem_cons_of_mem x hx')
    rw [List.flatten_cons, List.countP_append, hfirst, hrest, List.countP_cons, Nat.add_comm]

/-! ## Marks -/

namespace Mark

section

variable {m : Mark} {ms : List Mark}

/-- A mark on one of several lines is not empty. -/
theorem length_pos_of_onLine? {widths : Array Nat} {start stop : Position} {c : Category} {n : Nat}
    (hn : n < widths.size) (h : onLine? widths start stop c n = some ms) (hm : m ∈ ms) :
    0 < m.length := by
  rw [onLine?_eq hn] at h
  split at h
  · rename_i hlt
    cases h
    obtain rfl := List.mem_singleton.1 hm
    exact Nat.sub_pos_of_lt hlt
  · cases h
    simp at hm

/-- A highlight has one empty mark if its ends stand for the same boundary, and else none. -/
theorem countP_length_ofHighlight? {t : Text} {q : Highlight} (hq : q.span.start ≤ q.span.stop)
    (h : ofHighlight? t t.lineWidths q = some ms) :
    (ms.countP fun m => m.length = 0) =
      if t.snap q.span.start = t.snap q.span.stop then 1 else 0 := by
  have hle := t.position_le_position hq
  rcases ofHighlight?_cases h with ⟨hline, hcol, rfl⟩ | ⟨hline, hlines⟩
  · -- On one line the ends have the same position just if they have the same column.
    have hiff : (t.position q.span.stop).column - (t.position q.span.start).column = 0 ↔
        t.snap q.span.start = t.snap q.span.stop := by
      constructor
      · intro h
        have hback : t.position q.span.stop ≤ t.position q.span.start :=
          Or.inr ⟨hline.symm, Nat.le_of_sub_eq_zero h⟩
        exact Text.position_eq_position_iff.1 (le_antisymm hle hback)
      · intro h
        rw [Text.position_eq_position_iff.2 h, Nat.sub_self]
    simp [List.countP_cons, hiff]
  · have hne : t.snap q.span.start ≠ t.snap q.span.stop := by
      intro heq
      rw [← Text.position_eq_position_iff] at heq
      exact hline (congrArg Position.line heq)
    rw [if_neg hne, List.countP_eq_zero]
    intro m hm
    obtain ⟨n, hn, ms', hms', hm⟩ := hlines m hm
    simpa using Nat.ne_of_gt (length_pos_of_onLine? hn hms' hm)

end

/-- There are as many empty marks as pieces whose ends stand for the same boundary. -/
theorem countP_length_ofHighlights? {t : Text} {hs : List Highlight} {ms : List Mark}
    (h : ofHighlights? t hs = some ms) :
    (ms.countP fun m => m.length = 0) =
      (Highlight.flatten hs).countP fun q => t.snap q.span.start = t.snap q.span.stop := by
  rw [ofHighlights?] at h
  obtain ⟨mss, hmss, h⟩ := Option.bind_eq_some_iff.1 h
  cases h
  refine countP_flatten_of_mapM hmss fun q hq ms' hms' => ?_
  have hlt := Highlight.start_lt_stop_of_mem_flatten hq
  simpa using countP_length_ofHighlight? (Nat.le_of_lt hlt) hms'

/-- A mark does not reach further than the text is large. -/
theorem length_le_size {t : Text} {hs : List Highlight} {ms : List Mark}
    (h : ofHighlights? t hs = some ms) {m : Mark} (hm : m ∈ ms) : m.length ≤ t.size := by
  obtain ⟨l, hl, hwithin | ⟨-, q, -, -, hstop⟩⟩ := within_content_or_splitsBreak h hm
  · have hwidth := Text.lineWidth_le_size (List.mem_of_getElem? hl)
    omega
  · have hcolumn := (t.position_le_size q.span.stop).2
    rw [hstop, Mark.stop] at hcolumn
    dsimp only at hcolumn
    omega

end Mark

/-! ## Tokens -/

/-- Highlights on boundaries have no pieces whose ends stand for the same boundary. -/
theorem Highlight.snap_ne_snap_of_mem_flatten {t : Text} {hs : List Highlight}
    (hbounds : ∀ h ∈ hs, t.IsBoundary h.span.start ∧ t.IsBoundary h.span.stop) {q : Highlight}
    (hq : q ∈ Highlight.flatten hs) : t.snap q.span.start ≠ t.snap q.span.stop := by
  obtain ⟨⟨g, hg, hstart⟩, g', hg', hstop⟩ := Highlight.exists_bounds_of_mem_flatten hq
  have hqstart : t.IsBoundary q.span.start := by
    rcases hstart with h | h <;> rw [← h]
    · exact (hbounds g hg).1
    · exact (hbounds g hg).2
  have hqstop : t.IsBoundary q.span.stop := by
    rcases hstop with h | h <;> rw [← h]
    · exact (hbounds g' hg').1
    · exact (hbounds g' hg').2
  rw [hqstart.snap_eq, hqstop.snap_eq]
  exact Nat.ne_of_lt (Highlight.start_lt_stop_of_mem_flatten hq)

namespace Token

theorem map_length_decode (line column : Nat) (ks : List Token) :
    (decode line column ks).map PlacedToken.length = ks.map Token.length := by
  induction ks generalizing line column with
  | nil => rfl
  | cons k ks ih => rw [decode, List.map_cons, List.map_cons, ih]

/-- Every offset stands for the largest boundary that is neither past it nor past the end of the
text. Highlights have tokens, the lengths of which are below 2 ^ 32 in a text of less than 2 ^ 32
bytes, and as many of them are empty as there are pieces of the flattened highlights whose ends
stand for the same boundary. If all highlights are on boundaries, none is empty. -/
theorem empty_tokens_are_collapsed_pieces {t : Text} (ht : t.size < UInt32.size)
    (hs : List Highlight) :
    (∀ b, IsGreatest {c | t.IsBoundary c ∧ c ≤ min b t.size} (t.snap b)) ∧
      ∃ ks, ofHighlights? t hs = some ks ∧ (∀ k ∈ ks, k.length < UInt32.size) ∧
        ((ks.countP fun k => k.length = 0) =
          (Highlight.flatten hs).countP fun q => t.snap q.span.start = t.snap q.span.stop) ∧
        ((∀ h ∈ hs, t.IsBoundary h.span.start ∧ t.IsBoundary h.span.stop) →
          ∀ k ∈ ks, 0 < k.length) := by
  obtain ⟨ks, -, hks, -⟩ := exists_ofHighlights? t hs
  obtain ⟨ms, hms, hdecode⟩ := decode_ofHighlights? hks
  have hlengths : ks.map Token.length = ms.map Mark.length := by
    rw [← map_length_decode 0 0, hdecode, List.map_map]
    rfl
  have hcount : (ks.countP fun k => k.length = 0) =
      (Highlight.flatten hs).countP fun q => t.snap q.span.start = t.snap q.span.stop := by
    have h := congrArg (List.countP (· = 0)) hlengths
    rw [List.countP_map, List.countP_map] at h
    exact h.trans (Mark.countP_length_ofHighlights? hms)
  refine ⟨t.isGreatest_snap, ks, hks, fun k hk => ?_, hcount, fun hbounds k hk => ?_⟩
  · have hmem : k.length ∈ ms.map Mark.length := hlengths ▸ List.mem_map_of_mem hk
    obtain ⟨m, hm, hlength⟩ := List.mem_map.1 hmem
    rw [← hlength]
    exact Nat.lt_of_le_of_lt (Mark.length_le_size hms hm) ht
  · have hnone : (Highlight.flatten hs).countP
        (fun q => t.snap q.span.start = t.snap q.span.stop) = 0 := by
      rw [List.countP_eq_zero]
      intro q hq
      simpa using Highlight.snap_ne_snap_of_mem_flatten hbounds hq
    rw [hnone, List.countP_eq_zero] at hcount
    exact Nat.pos_of_ne_zero (by simpa using hcount k hk)

/-- Of three highlights the first stops inside the last character, the second starts and stops
inside it and the third reaches from there past the end. Two more cross where one starts between
the two characters of a line break. -/
theorem token_inside_character_is_empty :
    Text.size ['a', '\r', '\n', '😀'] < UInt32.size ∧
      (∃ ks, ofHighlights? ['a', '\r', '\n', '😀']
          [⟨⟨0, 4⟩, .number⟩, ⟨⟨4, 6⟩, .string⟩, ⟨⟨6, 9⟩, .number⟩] = some ks ∧
        (ks.countP fun k => k.length = 0) = 1) ∧
      ∃ ks, ofHighlights? ['a', '\r', '\n', '😀'] [⟨⟨2, 7⟩, .number⟩, ⟨⟨0, 3⟩, .string⟩] = some ks ∧
        ∀ k ∈ ks, 0 < k.length := by
  have hsize : Text.size ['a', '\r', '\n', '😀'] < UInt32.size := by decide
  have hflat : Highlight.flatten [⟨⟨0, 4⟩, .number⟩, ⟨⟨4, 6⟩, .string⟩, ⟨⟨6, 9⟩, .number⟩] =
      [⟨⟨0, 4⟩, .number⟩, ⟨⟨4, 6⟩, .string⟩, ⟨⟨6, 9⟩, .number⟩] :=
    Highlight.flatten_eq_self_iff.2 ⟨by decide, by simp⟩
  have hb : ∀ s, s <+: ['a', '\r', '\n', '😀'] →
      Text.IsBoundary ['a', '\r', '\n', '😀'] (Text.size s) := fun s hs => ⟨s, hs, rfl⟩
  obtain ⟨-, ks, hks, -, hcount, -⟩ := empty_tokens_are_collapsed_pieces hsize
    [⟨⟨0, 4⟩, .number⟩, ⟨⟨4, 6⟩, .string⟩, ⟨⟨6, 9⟩, .number⟩]
  obtain ⟨-, ks', hks', -, -, hpos⟩ := empty_tokens_are_collapsed_pieces hsize
    [⟨⟨2, 7⟩, .number⟩, ⟨⟨0, 3⟩, .string⟩]
  refine ⟨hsize, ⟨ks, hks, ?_⟩, ks', hks', hpos fun h hh => ?_⟩
  · rw [hcount, hflat]
    decide
  · simp only [List.mem_cons, List.not_mem_nil, or_false] at hh
    obtain rfl | rfl := hh
    · exact ⟨hb ['a', '\r'] (by decide), hb ['a', '\r', '\n', '😀'] (by decide)⟩
    · exact ⟨hb [] (by decide), hb ['a', '\r', '\n'] (by decide)⟩

end Token

end PromqlEditor
