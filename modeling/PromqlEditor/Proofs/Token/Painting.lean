import PromqlEditor.Proofs.Token.Order

/-!
# What tokens paint

Tokens colour a text character by character. A character other than a line break is coloured if
the piece of a flattened highlight contains its last byte: then one token lies over all of its
UTF-16 units and no other token over any of them, and the token has the type of the piece. All
other characters are left plain (`exists_tokens_paint`). So an offset inside a character counts
for the whole of it, and a token never lies over half of a surrogate pair.
-/

namespace PromqlEditor

namespace PlacedToken

/-- Whether one token of a given type lies over all of the `n` units from a position on, and no
other token over any of them. -/
def Colours (ks : List PlacedToken) (p : Position) (n type : Nat) : Prop :=
  ∃ (i : Nat) (k : PlacedToken), ks[i]? = some k ∧ k.type = type ∧
    (∀ u < n, k.covers p.line (p.column + u) = true) ∧
    ∀ (j : Nat) (k' : PlacedToken), ks[j]? = some k' →
      (∃ u < n, k'.covers p.line (p.column + u) = true) → j = i

/-- Whether no token lies over any of the `n` units from a position on. -/
def LeavesPlain (ks : List PlacedToken) (p : Position) (n : Nat) : Prop :=
  ∀ k ∈ ks, ∀ u < n, ¬ k.covers p.line (p.column + u) = true

end PlacedToken

namespace Mark

theorem covers_placed_iff {m : Mark} {line column : Nat} :
    m.placed.covers line column = true ↔
      m.start ≤ ⟨line, column⟩ ∧ ⟨line, column + 1⟩ ≤ m.stop := by
  rw [Position.le_def, Position.le_def]
  simp only [PlacedToken.covers, Bool.and_eq_true, beq_iff_eq, decide_eq_true_eq]
  dsimp only [placed, start, stop]
  omega

/-- Marks that follow one another do not lie over the same unit. -/
theorem eq_of_covers {ms : List Mark} (hord : ms.Pairwise fun m m' => m.stop ≤ m'.start)
    {i j line column : Nat} {m m' : Mark} (hi : ms[i]? = some m) (hj : ms[j]? = some m')
    (hm : m.placed.covers line column = true) (hm' : m'.placed.covers line column = true) :
    i = j := by
  rw [covers_placed_iff] at hm hm'
  have hlt : ¬ (⟨line, column + 1⟩ : Position) ≤ ⟨line, column⟩ := by simp
  obtain ⟨hil, rfl⟩ := List.getElem?_eq_some_iff.1 hi
  obtain ⟨hjl, rfl⟩ := List.getElem?_eq_some_iff.1 hj
  rw [List.pairwise_iff_getElem] at hord
  rcases Nat.lt_trichotomy i j with h | h | h
  · exact absurd (le_trans hm.2 (le_trans (hord i j hil hjl h) hm'.1)) hlt
  · exact h
  · exact absurd (le_trans hm'.2 (le_trans (hord j i hjl hil h) hm.1)) hlt

section

variable {t : Text} {hs : List Highlight} {ms : List Mark} {c : Char} {b : Nat} {p : Position}

/-- A character whose last byte lies in a piece is coloured in the category of the piece. -/
theorem Shows.colours (hms : Shows t.lineWidths (Highlight.strokes t hs) ms)
    (hc : t.StandsAt c b p) (hbreak : ¬ Text.isBreak c = true) {q : Highlight}
    (hq : q ∈ Highlight.flatten hs) (hcover : q.Covers (b + c.utf8Size - 1)) :
    PlacedToken.Colours (ms.map placed) p (Text.units c) q.category.index := by
  have hsize := c.utf8Size_pos
  have hunits := Text.units_pos c
  obtain ⟨hstart, hstop⟩ := hcover
  obtain ⟨w, hw, hwidth⟩ := hc.le_width hbreak
  have hx : t.position q.span.start ≤ p := (hc.position_le_iff hbreak hunits).2 (by omega)
  have hy : ⟨p.line, p.column + Text.units c⟩ ≤ t.position q.span.stop :=
    (hc.le_position_iff hbreak hunits (Nat.le_refl _)).2 (by omega)
  obtain ⟨m, hm, hcat, hmx, hmy⟩ := hms.complete _ (Highlight.mem_strokes.2 ⟨q, hq, rfl⟩)
    (Nat.lt_add_of_pos_right hunits) hx hy hw hwidth
  obtain ⟨i, hi⟩ := List.getElem?_of_mem hm
  have hcovers : ∀ u < Text.units c, m.placed.covers p.line (p.column + u) = true := fun u hu =>
    covers_placed_iff.2 ⟨le_trans hmx (Position.mk_le_mk_iff.2 (Nat.le_add_right _ _)),
      le_trans (Position.mk_le_mk_iff.2 (Nat.add_lt_add_left hu _)) hmy⟩
  refine ⟨i, m.placed, by simp [hi], congrArg Category.index hcat, hcovers, ?_⟩
  rintro j k' hj ⟨u, hu, hk'⟩
  rw [List.getElem?_map, Option.map_eq_some_iff] at hj
  obtain ⟨m', hj, rfl⟩ := hj
  exact eq_of_covers hms.ordered hj hi hk' (hcovers u hu)

/-- A character whose last byte lies in no piece is left plain. -/
theorem Shows.leavesPlain (hms : Shows t.lineWidths (Highlight.strokes t hs) ms)
    (hc : t.StandsAt c b p) (hbreak : ¬ Text.isBreak c = true)
    (hnone : ∀ q ∈ Highlight.flatten hs, ¬ q.Covers (b + c.utf8Size - 1)) :
    PlacedToken.LeavesPlain (ms.map placed) p (Text.units c) := by
  intro k hk u hu hcovers
  obtain ⟨m, hm, rfl⟩ := List.mem_map.1 hk
  obtain ⟨hmx, hmy⟩ := covers_placed_iff.1 hcovers
  obtain ⟨stroke, hstroke, -, hstart, hstop⟩ := hms.sound m hm
  obtain ⟨q, hq, rfl⟩ := Highlight.mem_strokes.1 hstroke
  have hbefore := (hc.position_le_iff hbreak hu).1 (le_trans hstart hmx)
  have hbehind := (hc.le_position_iff hbreak (Nat.succ_pos u) hu).1 (le_trans hmy hstop)
  have hsize := c.utf8Size_pos
  exact hnone q hq ⟨by omega, by omega⟩

end

end Mark

namespace Token

/-- Highlights have tokens, and these colour the characters of a text other than line breaks, each
at the place where it stands: one whose last byte lies in a piece of the flattened highlights in
the category of that piece, and all others not at all. -/
theorem exists_tokens_paint (t : Text) (hs : List Highlight) :
    ∃ ks, ofHighlights? t hs = some ks ∧
      ∀ (s : Text) (c : Char) (r : Text), t = s ++ c :: r → ¬ Text.isBreak c = true →
        ∃ p, t.StandsAt c s.size p ∧
          (∀ q ∈ Highlight.flatten hs, q.Covers (s.size + c.utf8Size - 1) →
            PlacedToken.Colours (decode 0 0 ks) p (Text.units c) q.category.index) ∧
          ((∀ q ∈ Highlight.flatten hs, ¬ q.Covers (s.size + c.utf8Size - 1)) →
            PlacedToken.LeavesPlain (decode 0 0 ks) p (Text.units c)) := by
  obtain ⟨ks, ms, hks, hms, hshows⟩ := exists_ofHighlights? t hs
  refine ⟨ks, hks, ?_⟩
  rintro s c r rfl hbreak
  obtain ⟨p, hp⟩ := Text.exists_standsAt s c r
  rw [hms]
  exact ⟨p, hp, fun q hq hcover => hshows.colours hp hbreak hq hcover,
    fun hnone => hshows.leavesPlain hp hbreak hnone⟩

/-- A highlight that starts inside a character colours all of it. -/
theorem tokens_paint_surrogates :
    ∃ ks p, ofHighlights? ['a', '😀'] [⟨⟨3, 8⟩, .number⟩] = some ks ∧
      Text.StandsAt ['a', '😀'] '😀' 1 p ∧
      PlacedToken.Colours (decode 0 0 ks) p 2 Category.number.index := by
  obtain ⟨ks, hks, hpaint⟩ := exists_tokens_paint ['a', '😀'] [⟨⟨3, 8⟩, .number⟩]
  obtain ⟨p, hp, hcolours, -⟩ := hpaint ['a'] '😀' [] rfl (by decide)
  have hflat : (⟨⟨3, 8⟩, .number⟩ : Highlight) ∈ Highlight.flatten [⟨⟨3, 8⟩, .number⟩] := by
    simp [Highlight.flatten, Highlight.nonempty, Highlight.sweep, Highlight.piece]
  exact ⟨ks, p, hks, hp, hcolours _ hflat (by decide)⟩

end Token

end PromqlEditor
