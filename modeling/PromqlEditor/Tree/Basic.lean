/-!
# Syntax trees

The tree that a parser hands over: each node has a kind, the span of the text that it covers and
its children in order. `walk` lists the nodes of a tree with every parent before its children and
the children from left to right.
-/

namespace PromqlEditor

/-- A stretch of a text between two byte offsets. Nothing is required of the offsets: a span may
be reversed or reach past the end of the text. -/
structure Span where
  start : Nat
  stop : Nat
deriving DecidableEq, Repr

/-- A node of a syntax tree. -/
structure Node where
  kind : String
  span : Span
  children : List Node
deriving Repr

namespace Node

/-- The tree of an empty query. -/
def emptyQuery : Node := ⟨"PromQL", ⟨0, 0⟩, []⟩

mutual
/-- A node and all nodes below it, every node before its children. -/
def walk : Node → List Node
  | ⟨kind, span, children⟩ => ⟨kind, span, children⟩ :: walkAll children

/-- The nodes of several trees, one tree after the other. -/
def walkAll : List Node → List Node
  | [] => []
  | n :: ns => walk n ++ walkAll ns
end

/-- The nodes of a tree with a given property, in the order of `walk`. -/
def findAll (p : Node → Bool) (root : Node) : List Node := root.walk.filter p

theorem walk_eq (n : Node) : n.walk = n :: walkAll n.children := by
  cases n
  rfl

theorem walkAll_eq_flatMap (ns : List Node) : walkAll ns = ns.flatMap walk := by
  induction ns with
  | nil => rfl
  | cons n ns ih => simp [walkAll, ih]

end Node

end PromqlEditor
