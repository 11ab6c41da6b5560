import PromqlEditor.Proofs.Text.Ranges
import PromqlEditor.Proofs.Tree.Ancestry
import PromqlEditor.Service.Strategy

/-!
# Diagnostics of well-nested trees

The ranges of diagnostics lie as the error nodes do. In a well-nested tree a node lies within each
of its ancestors, and of two nodes that are not related the one that comes first in the walk stops
before the other starts. Positions keep the order of offsets, so ranges do the same, be the spans on
boundaries or not, inside the text or past its end (`Diagnostic.diagnostics_lie_as_nodes`).
-/

namespace PromqlEditor

/-- Whether a range lies inside another one. -/
def Range.IsWithin (r s : Range) : Prop := s.start ≤ r.start ∧ r.stop ≤ s.stop

/-! ## Ranges of spans -/

/-- The range of a span that lies within another one lies within the range of that one. -/
theorem Text.range_isWithin (t : Text) {s s' : Span} (h : s.IsWithin s') :
    (t.range s).IsWithin (t.range s') :=
  ⟨t.position_le_position h.1, t.position_le_position h.2⟩

/-- The range of a span is not reversed if the span is not. -/
theorem Text.not_isReversed_range (t : Text) {s : Span} (h : s.start ≤ s.stop) :
    ¬ (t.range s).IsReversed :=
  not_not.2 (t.position_le_position h)

namespace Diagnostic

/-! ## Diagnostics and their nodes -/

/-- The diagnostic of a node, if it stands for something the parser could not make sense of. -/
def ofNode? (severity : Severity) (t : Text) (n : Node) : Option Diagnostic :=
  if n.isError then some ⟨t.range n.span, some severity, some "promql", "unexpected input"⟩
  else none

theorem ofNode?_eq_some_iff {severity : Severity} {t : Text} {n : Node} {d : Diagnostic} :
    ofNode? severity t n = some d ↔
      n.isError = true ∧
        d = ⟨t.range n.span, some severity, some "promql", "unexpected input"⟩ := by
  unfold ofNode?
  split
  · rename_i herror
    simp [herror, eq_comm]
  · rename_i herror
    simp [herror]

/-- The diagnostics of a tree are those of the nodes of the walk. -/
theorem ofTree_eq_filterMap (severity : Severity) (root : Node) (t : Text) :
    ofTree severity root t = root.walk.filterMap (ofNode? severity t) := by
  rw [ofTree, Node.findAll, ← List.filterMap_eq_map, List.filterMap_filter]
  rfl

/-- Whether two diagnostics, each with the address of its node, lie as the nodes do: the first node
comes before the second one, and its diagnostic starts no later and contains the other if the
node is an ancestor, and otherwise stops where the other starts or before. -/
structure LieAsNodes (x y : List Nat × Diagnostic) : Prop where
  comes_first : x.1 < y.1
  starts_first : x.2.range.start ≤ y.2.range.start
  contains : x.1 <+: y.1 → y.2.range.IsWithin x.2.range
  stops_first : ¬ x.1 <+: y.1 → x.2.range.stop ≤ y.2.range.start

/-- The diagnostics of two nodes of a well-nested tree lie as the nodes do. -/
theorem lieAsNodes_of_lt {severity : Severity} {t : Text} {root n n' : Node}
    (hroot : root.WellNested) {a a' : List Nat} {d d' : Diagnostic} (hn : root.at? a = some n)
    (hn' : root.at? a' = some n') (hd : ofNode? severity t n = some d)
    (hd' : ofNode? severity t n' = some d') (hlt : a < a') : LieAsNodes (a, d) (a', d') := by
  obtain ⟨-, rfl⟩ := ofNode?_eq_some_iff.1 hd
  obtain ⟨-, rfl⟩ := ofNode?_eq_some_iff.1 hd'
  have horder : n.span.start ≤ n.span.stop := (Node.wellNested_iff.1 (hroot.of_at? hn)).1
  have hnested := hroot.nested_or_apart hn hn' hlt
  refine ⟨hlt, t.position_le_position ?_, fun hpre => ?_, fun hpre => ?_⟩
  · rcases hnested with ⟨-, hstart, -⟩ | hapart
    · exact hstart
    · exact Nat.le_trans horder hapart
  · exact t.range_isWithin (hroot.isWithin_of_prefix hn hn' hpre)
  · rcases hnested with ⟨hpre', -⟩ | hapart
    · exact absurd hpre' hpre
    · exact t.position_le_position hapart

/-! ## The main result -/

/-- In a text of less than 2 ^ 32 bytes every line and every column is below 2 ^ 32. Whatever the
settings, a well-nested tree has one diagnostic for each error node, at the range of its span. They
come in the order of the addresses of the nodes, none of them is reversed, and any two lie as their
nodes do. -/
theorem diagnostics_lie_as_nodes {t : Text} (ht : t.size < UInt32.size) {root : Node}
    (hroot : root.WellNested) (settings : LintSettings) :
    (∀ b, (t.position b).line < UInt32.size ∧ (t.position b).column < UInt32.size) ∧
      ∃ located : List (List Nat × Diagnostic),
        (LintStrategy.syntaxErrors settings).answer root t = .ok (located.map Prod.snd) ∧
        (∀ a d, (a, d) ∈ located ↔ ∃ n, root.at? a = some n ∧ n.isError = true ∧
          d = ⟨t.range n.span, some settings.severity, some "promql", "unexpected input"⟩) ∧
        (∀ x ∈ located, ¬ x.2.range.IsReversed) ∧ located.Pairwise LieAsNodes := by
  have hmem : ∀ a d, (a, d) ∈ root.located (ofNode? settings.severity t) ↔
      ∃ n, root.at? a = some n ∧ n.isError = true ∧
        d = ⟨t.range n.span, some settings.severity, some "promql", "unexpected input"⟩ := by
    intro a d
    simp only [Node.mem_located, ofNode?_eq_some_iff]
  refine ⟨Text.position_lt ht, root.located (ofNode? settings.severity t), ?_, hmem, ?_, ?_⟩
  · rw [Node.map_snd_located, ← ofTree_eq_filterMap]
    rfl
  · rintro ⟨a, d⟩ hx
    obtain ⟨n, hn, -, rfl⟩ := (hmem a d).1 hx
    exact t.not_isReversed_range (Node.wellNested_iff.1 (hroot.of_at? hn)).1
  · refine Node.pairwise_located.imp_of_mem fun {x y} hx hy hlt => ?_
    obtain ⟨n, hn, hd⟩ := Node.mem_located.1 hx
    obtain ⟨n', hn', hd'⟩ := Node.mem_located.1 hy
    exact lieAsNodes_of_lt hroot hn hn' hd hd' hlt

/-- A tree with a mistake that starts inside the first character of a text of two, something missing
within it, and another mistake past the end of the text. -/
def mistakenTree : Node :=
  ⟨"PromQL", ⟨0, 9⟩, [⟨"⚠", ⟨1, 8⟩, [⟨"⚠", ⟨2, 2⟩, []⟩]⟩, ⟨"⚠", ⟨8, 9⟩, []⟩]⟩

theorem mistaken_diagnostics_lie_as_nodes :
    Text.size ['é', '\n'] < UInt32.size ∧ mistakenTree.WellNested ∧
      ∃ located : List (List Nat × Diagnostic),
        (LintStrategy.syntaxErrors ⟨false, .warning⟩).answer mistakenTree ['é', '\n'] =
          .ok (located.map Prod.snd) ∧
        (∀ a ∈ [[0], [0, 0], [1]], ∃ d, (a, d) ∈ located) ∧ located.Pairwise LieAsNodes := by
  have hsize : Text.size ['é', '\n'] < UInt32.size := by decide
  have hroot : mistakenTree.WellNested := by
    simp [mistakenTree, Node.WellNested, Node.InOrder, Span.IsWithin]
  obtain ⟨-, located, hanswer, hmem, -, hlie⟩ :=
    diagnostics_lie_as_nodes hsize hroot ⟨false, .warning⟩
  refine ⟨hsize, hroot, located, hanswer, fun a ha => ?_, hlie⟩
  simp only [List.mem_cons, List.not_mem_nil, or_false] at ha
  obtain rfl | rfl | rfl := ha
  · exact ⟨_, (hmem _ _).2 ⟨_, rfl, by decide, rfl⟩⟩
  · exact ⟨_, (hmem _ _).2 ⟨_, rfl, by decide, rfl⟩⟩
  · exact ⟨_, (hmem _ _).2 ⟨_, rfl, by decide, rfl⟩⟩

end Diagnostic

end PromqlEditor
