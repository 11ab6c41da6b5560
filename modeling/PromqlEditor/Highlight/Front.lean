import PromqlEditor.Highlight.Basic

/-!
# Highlights in front

Which of several highlights is seen at an offset, said without reference to a sweep. A highlight
is told from others of the same span by its place in the list. It is in front at an offset
if it covers the offset and every other one that does is behind it; of two with the same span the
one given later is in front. A run is a stretch of offsets at which one highlight is in front and
that cannot be made longer.
-/

namespace PromqlEditor.Highlight

/-- Whether a highlight covers an offset. -/
def Covers (h : Highlight) (p : Nat) : Prop := h.span.start ≤ p ∧ p < h.span.stop

instance (h : Highlight) (p : Nat) : Decidable (h.Covers p) :=
  inferInstanceAs (Decidable (h.span.start ≤ p ∧ p < h.span.stop))

/-- Whether highlight number `j` lies behind highlight number `i`. -/
def IsBehind (hs : List Highlight) (j i : Nat) : Prop :=
  ∃ g h, hs[j]? = some g ∧ hs[i]? = some h ∧
    (g.span.start < h.span.start ∨
      g.span.start = h.span.start ∧
        (h.span.stop < g.span.stop ∨ h.span.stop = g.span.stop ∧ j < i))

/-- Whether highlight number `i` is in front at offset `p`. -/
def IsFront (hs : List Highlight) (p i : Nat) : Prop :=
  (∃ h, hs[i]? = some h ∧ h.Covers p) ∧
    ∀ j g, hs[j]? = some g → g.Covers p → j ≠ i → IsBehind hs j i

/-- Whether highlight number `i` is in front from `start` to `stop`, and neither before nor
after. -/
def IsRun (hs : List Highlight) (i start stop : Nat) : Prop :=
  start < stop ∧ (∀ p, start ≤ p → p < stop → IsFront hs p i) ∧
    (∀ p, p + 1 = start → ¬ IsFront hs p i) ∧ ¬ IsFront hs stop i

/-- Of two highlights at most one is behind the other. -/
theorem IsBehind.asymm {hs : List Highlight} {i j : Nat} (h : IsBehind hs j i) :
    ¬ IsBehind hs i j := by
  obtain ⟨g, h, hg, hh, h⟩ := h
  rintro ⟨h', g', hh', hg', h'⟩
  rw [hg] at hg'
  rw [hh] at hh'
  cases hg'
  cases hh'
  omega

/-- At most one highlight is in front at an offset. -/
theorem IsFront.unique {hs : List Highlight} {p i j : Nat} (hi : IsFront hs p i)
    (hj : IsFront hs p j) : i = j := by
  obtain ⟨⟨h, hh, hp⟩, hfront⟩ := hi
  obtain ⟨⟨g, hg, hq⟩, hfront'⟩ := hj
  exact Decidable.byContradiction fun hne =>
    (hfront j g hg hq (Ne.symm hne)).asymm (hfront' i h hh hp hne)

end PromqlEditor.Highlight
