import PromqlEditor.Text.Basic
import PromqlEditor.Tree.Address

/-!
# Well-nested trees

What the tree of a parser looks like: no span is reversed, the span of a child lies inside that of
its parent, and the spans of siblings follow one another without overlapping. Nodes that cover
nothing are allowed.
-/

namespace PromqlEditor

/-- Whether a byte lies in a span. -/
def Span.Contains (s : Span) (b : Nat) : Prop := s.start ≤ b ∧ b < s.stop

instance (s : Span) (b : Nat) : Decidable (s.Contains b) :=
  inferInstanceAs (Decidable (s.start ≤ b ∧ b < s.stop))

/-- Whether a span lies inside another one. -/
def Span.IsWithin (s t : Span) : Prop := t.start ≤ s.start ∧ s.stop ≤ t.stop

instance (s t : Span) : Decidable (s.IsWithin t) :=
  inferInstanceAs (Decidable (t.start ≤ s.start ∧ s.stop ≤ t.stop))

namespace Node

mutual
/-- Whether a tree is well nested. -/
def WellNested : Node → Prop
  | ⟨_, span, children⟩ => span.start ≤ span.stop ∧ InOrder span children

/-- Whether well-nested trees lie inside a span, one after the other. -/
def InOrder (room : Span) : List Node → Prop
  | [] => True
  | n :: ns => n.span.IsWithin room ∧ WellNested n ∧ InOrder ⟨n.span.stop, room.stop⟩ ns
end

/-- Whether the spans of a tree stop and start between characters of a text. -/
def OnBoundaries (t : Text) (root : Node) : Prop :=
  ∀ n ∈ root.walk, t.IsBoundary n.span.start ∧ t.IsBoundary n.span.stop

end Node

end PromqlEditor
