import PromqlEditor.Proofs.Highlight.Depth
import PromqlEditor.Proofs.Token.Painting
import PromqlEditor.Table.Promql

/-!
# The tokens of a syntax tree

From the tree that a parser hands over to what an editor shows: a character other than a line
break is coloured in the category of the deepest node that has one and contains the character, and
left plain if there is no such node (`exists_tokens_paint_deepest`). The tree has to be well nested
with its spans on character boundaries. Nodes may cover nothing, share their span with their
parent, and stretch over any number of lines.
-/

namespace PromqlEditor

/-- The span of a character that comes after `s`. -/
def Text.spanAfter (s : Text) (c : Char) : Span := ⟨s.size, s.size + c.utf8Size⟩

/-- A span on boundaries contains a character if it contains the last byte of it. -/
theorem isWithin_iff_contains {s r : Text} {c : Char} {t : Span}
    (hstart : Text.IsBoundary (s ++ c :: r) t.start)
    (hstop : Text.IsBoundary (s ++ c :: r) t.stop) :
    (s.spanAfter c).IsWithin t ↔ t.Contains (s.size + c.utf8Size - 1) := by
  have hc := c.utf8Size_pos
  have h₁ := hstart.le_or_le
  have h₂ := hstop.le_or_le
  rw [Span.IsWithin, Span.Contains, Text.spanAfter]
  dsimp only
  omega

namespace Token

/-- Whether tokens colour the `n` units from a position on as the nodes over a span say: where
nodes with a category contain the span, in the category of the one that is the deepest, and
elsewhere not at all. -/
def PaintDeepest (table : Table) (root : Node) (ks : List PlacedToken) (s : Span) (p : Position)
    (n : Nat) : Prop :=
  (∃ a k, root.IsDeepest table s a k ∧
    (∀ a' k', root.IsDeepest table s a' k' → a' = a ∧ k' = k) ∧
    PlacedToken.Colours ks p n k.index) ∨
  ((∀ a k, ¬ root.HasOver table s a k) ∧ PlacedToken.LeavesPlain ks p n)

/-- The highlights of a well-nested tree have tokens, and these colour the characters of the text
other than line breaks, each at the place where it stands, as the deepest nodes say. -/
theorem exists_tokens_paint_deepest (table : Table) {t : Text} {root : Node}
    (hroot : root.WellNested) (hbounds : root.OnBoundaries t) :
    ∃ ks, ofHighlights? t (Highlight.ofTree table root) = some ks ∧
      ∀ (s : Text) (c : Char) (r : Text), t = s ++ c :: r → ¬ Text.isBreak c = true →
        ∃ p, t.StandsAt c s.size p ∧
          PaintDeepest table root (decode 0 0 ks) (s.spanAfter c) p (Text.units c) := by
  obtain ⟨ks, ms, hks, hms, hshows⟩ := exists_ofHighlights? t (Highlight.ofTree table root)
  refine ⟨ks, hks, ?_⟩
  rintro s c r rfl hbreak
  obtain ⟨p, hp⟩ := Text.exists_standsAt s c r
  refine ⟨p, hp, ?_⟩
  rw [hms]
  have hspan : ∀ n ∈ root.walk,
      (s.spanAfter c).IsWithin n.span ↔ n.span.Contains (s.size + c.utf8Size - 1) := fun n hn =>
    isWithin_iff_contains (hbounds n hn).1 (hbounds n hn).2
  have hlt : (s.spanAfter c).start < (s.spanAfter c).stop :=
    Nat.lt_add_of_pos_right c.utf8Size_pos
  by_cases hover : ∃ a k, root.HasOver table (s.spanAfter c) a k
  · left
    obtain ⟨b, k, hb⟩ := hover
    obtain ⟨q, hq, hqc⟩ := Highlight.exists_piece_of_hasOver hspan hb
    obtain ⟨a, ha⟩ := Highlight.exists_isDeepest_of_piece hroot hspan hq hqc
    exact ⟨a, q.category, ha, fun a' k' ha' => ha.unique hroot hlt ha',
      hshows.colours hp hbreak hq hqc⟩
  · right
    refine ⟨fun a k h => hover ⟨a, k, h⟩, hshows.leavesPlain hp hbreak fun q hq hqc => ?_⟩
    obtain ⟨a, ha⟩ := Highlight.exists_isDeepest_of_piece hroot hspan hq hqc
    exact hover ⟨a, q.category, ha.1⟩

/-- The text `sum😀`. -/
def misreadText : Text := ['s', 'u', 'm', '😀']

/-- The tree of a parser that takes all of `misreadText` for a mistake, knows the word in it and
misses something at its end. -/
def misreadTree : Node :=
  ⟨"PromQL", ⟨0, 7⟩, [⟨"⚠", ⟨0, 7⟩,
    [⟨"Sum", ⟨0, 3⟩, []⟩, ⟨"⚠", ⟨3, 7⟩, []⟩, ⟨"⚠", ⟨7, 7⟩, []⟩]⟩]⟩

theorem misread_tokens_paint_deepest :
    misreadTree.WellNested ∧ misreadTree.OnBoundaries misreadText ∧
      ∃ ks, ofHighlights? misreadText (Highlight.ofTree .promql misreadTree) = some ks ∧
        ∀ (s : Text) (c : Char) (r : Text), misreadText = s ++ c :: r → ¬ Text.isBreak c = true →
          ∃ p, misreadText.StandsAt c s.size p ∧
            PaintDeepest .promql misreadTree (decode 0 0 ks) (s.spanAfter c) p
              (Text.units c) := by
  have hroot : misreadTree.WellNested := by
    simp [misreadTree, Node.WellNested, Node.InOrder, Span.IsWithin]
  have hbounds : misreadTree.OnBoundaries misreadText := by
    have h₀ : misreadText.IsBoundary 0 := ⟨[], by decide, rfl⟩
    have h₃ : misreadText.IsBoundary 3 := ⟨['s', 'u', 'm'], by decide, by decide⟩
    have h₇ : misreadText.IsBoundary 7 := ⟨misreadText, by decide, by decide⟩
    simp [Node.OnBoundaries, misreadTree, Node.walk, Node.walkAll, h₀, h₃, h₇]
  exact ⟨hroot, hbounds, exists_tokens_paint_deepest .promql hroot hbounds⟩

end Token

end PromqlEditor
