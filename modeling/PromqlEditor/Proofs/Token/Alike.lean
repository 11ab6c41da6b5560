import PromqlEditor.Proofs.Highlight.Apart
import PromqlEditor.Proofs.Highlight.Rearranged
import PromqlEditor.Proofs.Token.Order

/-!
# Highlights with the same tokens

Tokens are made of the pieces that highlights are flattened to, and of nothing else
(`Token.exists_same_tokens`). So a caller may flatten highlights beforehand
(`Token.flattened_highlights_have_same_tokens`), and need not care in which order spans are given
that differ, or whether some of them cover nothing
(`Token.rearranged_highlights_have_same_tokens`).
-/

namespace PromqlEditor

/-- Highlights that are flattened to the same pieces have the same marks. -/
theorem Mark.ofHighlights?_congr {hs gs : List Highlight}
    (h : Highlight.flatten hs = Highlight.flatten gs) (t : Text) :
    ofHighlights? t hs = ofHighlights? t gs := by
  rw [ofHighlights?, ofHighlights?, h]

namespace Token

/-- Highlights that are flattened to the same pieces have the same tokens. -/
theorem exists_same_tokens {hs gs : List Highlight}
    (h : Highlight.flatten hs = Highlight.flatten gs) (t : Text) :
    ∃ ks, ofHighlights? t hs = some ks ∧ ofHighlights? t gs = some ks := by
  obtain ⟨ks, -, hks, -⟩ := exists_ofHighlights? t hs
  refine ⟨ks, hks, ?_⟩
  rw [← hks, ofHighlights?, ofHighlights?, Mark.ofHighlights?_congr h]

/-- Flattening makes any highlights flat, and it leaves highlights as they are just if they are
flat. So flattening again changes nothing, and flattened highlights have the tokens of the
highlights that they come from, in every text. -/
theorem flattened_highlights_have_same_tokens (hs : List Highlight) :
    Highlight.IsFlat (Highlight.flatten hs) ∧
      (∀ gs, Highlight.flatten gs = gs ↔ Highlight.IsFlat gs) ∧
      Highlight.flatten (Highlight.flatten hs) = Highlight.flatten hs ∧
      ∀ t : Text, ∃ ks, ofHighlights? t hs = some ks ∧
        ofHighlights? t (Highlight.flatten hs) = some ks := by
  have hflat := Highlight.isFlat_flatten hs
  have hagain := Highlight.flatten_eq_self_iff.2 hflat
  exact ⟨hflat, fun gs => Highlight.flatten_eq_self_iff, hagain, exists_same_tokens hagain.symm⟩

/-- Highlights may be rearranged, as long as those of the same span stay in order, and empty or
reversed ones may be added anywhere on both sides: they are flattened to the same pieces and have
the same tokens in every text. Of two with the same span the order counts, since only the one given
last is seen. -/
theorem rearranged_highlights_have_same_tokens {hs hs' gs gs' : List Highlight}
    (h : Highlight.Rearranges gs gs') (hhs : Highlight.AddsEmpty hs gs)
    (hhs' : Highlight.AddsEmpty hs' gs') :
    Highlight.flatten hs = Highlight.flatten hs' ∧
      (∀ t : Text, ∃ ks, ofHighlights? t hs = some ks ∧ ofHighlights? t hs' = some ks) ∧
      ∀ (s : Span) (c d : Category), s.start < s.stop →
        Highlight.flatten [⟨s, c⟩, ⟨s, d⟩] = [⟨s, d⟩] := by
  have hsame := Highlight.flatten_eq_of_rearranges h hhs hhs'
  exact ⟨hsame, exists_same_tokens hsame, fun _ c d hs => Highlight.flatten_pair hs c d⟩

/-- A highlight that crosses two others, which have the same span, is given last instead of first.
An empty highlight is added to one list and a reversed one to the other. -/
theorem crossing_highlights_have_same_tokens :
    Highlight.Rearranges [⟨⟨0, 4⟩, .operator⟩, ⟨⟨2, 6⟩, .number⟩, ⟨⟨2, 6⟩, .string⟩]
        [⟨⟨2, 6⟩, .number⟩, ⟨⟨2, 6⟩, .string⟩, ⟨⟨0, 4⟩, .operator⟩] ∧
      Highlight.AddsEmpty
        [⟨⟨0, 4⟩, .operator⟩, ⟨⟨3, 3⟩, .comment⟩, ⟨⟨2, 6⟩, .number⟩, ⟨⟨2, 6⟩, .string⟩]
        [⟨⟨0, 4⟩, .operator⟩, ⟨⟨2, 6⟩, .number⟩, ⟨⟨2, 6⟩, .string⟩] ∧
      Highlight.AddsEmpty
        [⟨⟨2, 6⟩, .number⟩, ⟨⟨2, 6⟩, .string⟩, ⟨⟨0, 4⟩, .operator⟩, ⟨⟨5, 1⟩, .comment⟩]
        [⟨⟨2, 6⟩, .number⟩, ⟨⟨2, 6⟩, .string⟩, ⟨⟨0, 4⟩, .operator⟩] ∧
      ∀ t : Text, ∃ ks,
        ofHighlights? t
          [⟨⟨0, 4⟩, .operator⟩, ⟨⟨3, 3⟩, .comment⟩, ⟨⟨2, 6⟩, .number⟩, ⟨⟨2, 6⟩, .string⟩] =
            some ks ∧
        ofHighlights? t
          [⟨⟨2, 6⟩, .number⟩, ⟨⟨2, 6⟩, .string⟩, ⟨⟨0, 4⟩, .operator⟩, ⟨⟨5, 1⟩, .comment⟩] =
            some ks := by
  have h : Highlight.Rearranges [⟨⟨0, 4⟩, .operator⟩, ⟨⟨2, 6⟩, .number⟩, ⟨⟨2, 6⟩, .string⟩]
      [⟨⟨2, 6⟩, .number⟩, ⟨⟨2, 6⟩, .string⟩, ⟨⟨0, 4⟩, .operator⟩] := by
    refine ⟨by decide, fun s => ?_⟩
    by_cases hs : (⟨0, 4⟩ : Span) = s
    · subst hs
      decide
    · simp [List.filter_cons, hs]
  have hempty : Highlight.AddsEmpty
      [⟨⟨0, 4⟩, .operator⟩, ⟨⟨3, 3⟩, .comment⟩, ⟨⟨2, 6⟩, .number⟩, ⟨⟨2, 6⟩, .string⟩]
      [⟨⟨0, 4⟩, .operator⟩, ⟨⟨2, 6⟩, .number⟩, ⟨⟨2, 6⟩, .string⟩] :=
    .keep _ (.add (by decide) (.keep _ (.keep _ .nil)))
  have hreversed : Highlight.AddsEmpty
      [⟨⟨2, 6⟩, .number⟩, ⟨⟨2, 6⟩, .string⟩, ⟨⟨0, 4⟩, .operator⟩, ⟨⟨5, 1⟩, .comment⟩]
      [⟨⟨2, 6⟩, .number⟩, ⟨⟨2, 6⟩, .string⟩, ⟨⟨0, 4⟩, .operator⟩] :=
    .keep _ (.keep _ (.keep _ (.add (by decide) .nil)))
  exact ⟨h, hempty, hreversed, (rearranged_highlights_have_same_tokens h hempty hreversed).2.1⟩

end Token

end PromqlEditor
