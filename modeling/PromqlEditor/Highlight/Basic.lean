import PromqlEditor.Table.Basic
import PromqlEditor.Tree.Basic

/-!
# Highlights

A highlight is a span with the category it is coloured in. `Highlight.ofTree` gives the highlights
of a syntax tree, nested as its nodes are. An editor wants them side by side, so `flatten` cuts
them into pieces of which no two overlap: where several spans lie over one another, the one that
starts last is in front, of those the one that stops first, and of those the one given last.

The pieces come out of one sweep over the spans in that order. The sweep holds the spans that
it has entered, the front one first, and the offset up to which it has painted.
-/

namespace PromqlEditor

/-- A span and the category it is coloured in. -/
structure Highlight where
  span : Span
  category : Category
deriving DecidableEq, Repr

namespace Highlight

/-- The highlights of a tree: one for each node whose kind the table knows, in the order of the
walk. What lies below a node is highlighted whether the node itself is or not. -/
def ofTree (table : Table) (root : Node) : List Highlight :=
  root.walk.filterMap fun n => (table.category? n.kind).map fun c => ⟨n.span, c⟩

/-! ## Flattening -/

/-- Whether a highlight covers anything. -/
def nonempty (h : Highlight) : Bool := h.span.start < h.span.stop

/-- Whether `a` lies behind `b` or may stay behind it: it starts earlier, or it starts where `b`
does and stops no earlier. -/
def behind (a b : Highlight) : Bool :=
  a.span.start < b.span.start || (a.span.start == b.span.start && b.span.stop ≤ a.span.stop)

/-- The piece from `start` to `stop`, or none if nothing lies between them. -/
def piece (start stop : Nat) (c : Category) : List Highlight :=
  if start < stop then [⟨⟨start, stop⟩, c⟩] else []

/-- The pieces from offset `cursor` on, when the spans in `entered` reach over it, the front one
first, and the highlights in `coming` follow, each behind the next.

The front span is painted up to where it stops or the next span starts. A span that stops where
the next one starts, or before, is left; what it had covered of the spans behind it remains
painted, since the cursor never moves back. -/
def sweep (cursor : Nat) : List (Nat × Category) → List Highlight → List Highlight
  | [], [] => []
  | (stop, c) :: entered, [] => piece cursor stop c ++ sweep (max cursor stop) entered []
  | [], h :: coming => sweep (max cursor h.span.start) [(h.span.stop, h.category)] coming
  | (stop, c) :: entered, h :: coming =>
    if stop ≤ h.span.start then
      piece cursor stop c ++ sweep (max cursor stop) entered (h :: coming)
    else
      piece cursor h.span.start c ++
        sweep (max cursor h.span.start) ((h.span.stop, h.category) :: (stop, c) :: entered) coming
termination_by entered coming => entered.length + 2 * coming.length

/-- Disjoint pieces in the order of their starts, each in the category of the front highlight over
it. -/
def flatten (hs : List Highlight) : List Highlight :=
  sweep 0 [] ((hs.filter nonempty).mergeSort behind)

end Highlight

end PromqlEditor
