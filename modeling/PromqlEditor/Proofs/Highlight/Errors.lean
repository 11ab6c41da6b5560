import PromqlEditor.Highlight.Basic
import PromqlEditor.Proofs.Table.Rebuilding
import PromqlEditor.Service.Strategy

/-!
# Errors in highlights and in diagnostics

What a parser could not make sense of is shown twice: coloured as invalid, because the table of
node kinds says so, and underlined, because the linter looks for the kind itself. The two never
disagree. The table calls the error kind invalid and no other
(`Table.category?_promql_eq_invalid_iff`), and the walk that highlights are made on is the one on
which diagnostics are found, so there is one of each for every error node, in the same order
(`invalid_highlights_eq_errors`).
-/

namespace PromqlEditor

namespace Table

/-- The table of the PromQL grammar is what its declaration declares. -/
theorem ofDeclarations_promql : ofDeclarations promql.toDeclarations = .ok promql :=
  ofDeclarations_toDeclarations (by decide +kernel)

/-- The PromQL table calls invalid what the parser could not make sense of, and nothing else. -/
theorem category?_promql_eq_invalid_iff {kind : String} :
    promql.category? kind = some .invalid ↔ kind = errorKind := by
  rw [category?_eq_some_iff]
  simp [promql, promqlGroups]

end Table

/-- The highlights of a tree that are coloured as invalid, in order. -/
def Highlight.invalidOnes (table : Table) (root : Node) : List Highlight :=
  (ofTree table root).filter (·.category = .invalid)

/-- Where a table calls a kind invalid just if it is the error kind, the highlights that are
coloured as invalid are those of the error nodes. -/
theorem Highlight.invalidOnes_eq_map {table : Table}
    (htable : ∀ kind, table.category? kind = some .invalid ↔ kind = errorKind) (root : Node) :
    invalidOnes table root = (root.findAll Node.isError).map fun n => ⟨n.span, .invalid⟩ := by
  rw [invalidOnes, ofTree, Node.findAll, List.filter_filterMap, ← List.filterMap_eq_map,
    List.filterMap_filter]
  congr
  funext n
  by_cases herror : n.kind = errorKind
  · simp [Node.isError, herror, (htable errorKind).2 rfl]
  · have hnot : table.category? n.kind ≠ some .invalid := fun h => herror ((htable n.kind).1 h)
    cases hc : table.category? n.kind with
    | none => simp [Node.isError, herror]
    | some c =>
      have hne : c ≠ .invalid := by
        rintro rfl
        exact hnot hc
      simp [Node.isError, herror, hne]

/-! ## The main result -/

/-- Whatever the tree, what is coloured as invalid by the PromQL table are the spans of its error
nodes, one for each and in order, and whatever the text and the settings, the linter reports one
diagnostic for each of them, at the range of the span. -/
theorem invalid_highlights_eq_errors (root : Node) (t : Text) (settings : LintSettings) :
    Table.ofDeclarations Table.promql.toDeclarations = .ok Table.promql ∧
    (Highlight.invalidOnes Table.promql root).map Highlight.span =
      (root.findAll Node.isError).map Node.span ∧
    ∃ ds, (LintStrategy.syntaxErrors settings).answer root t = .ok ds ∧
      ds.map Diagnostic.range =
        (Highlight.invalidOnes Table.promql root).map fun h => t.range h.span := by
  have hinvalid := Highlight.invalidOnes_eq_map
    (fun _ => Table.category?_promql_eq_invalid_iff) root
  refine ⟨Table.ofDeclarations_promql, ?_, _, rfl, ?_⟩
  · rw [hinvalid, List.map_map]
    rfl
  · rw [hinvalid, List.map_map, Diagnostic.ofTree, List.map_map]
    rfl

end PromqlEditor
