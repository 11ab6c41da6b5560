import PromqlEditor.Table.Promql
import PromqlEditor.Tree.Basic
import PromqlEditor.Text.Position

/-!
# Diagnostics

What an editor underlines. The diagnostics of a query are its error nodes, each shown at the range
of its span.
-/

namespace PromqlEditor

/-- How serious a diagnostic is. -/
inductive Severity where
  | error
  | warning
deriving DecidableEq, Repr

/-- The name of a severity in settings. -/
def Severity.name : Severity → String
  | .error => "error"
  | .warning => "warning"

/-- The severity with a given name; the spelling counts. -/
def Severity.ofName? : String → Option Severity
  | "error" => some .error
  | "warning" => some .warning
  | _ => none

/-- A severity is known by its name alone. -/
theorem Severity.ofName?_eq_some_iff {name : String} {s : Severity} :
    ofName? name = some s ↔ name = s.name := by
  fun_cases ofName? name with
  | case1 => cases s <;> simp [Severity.name]
  | case2 => cases s <;> simp [Severity.name]
  | case3 _ herror hwarning =>
    cases s with
    | error => exact iff_of_false nofun herror
    | warning => exact iff_of_false nofun hwarning

/-- The number of a severity in the editor protocol. -/
def Severity.code : Severity → Nat
  | .error => 1
  | .warning => 2

/-- A remark on a stretch of the text. -/
structure Diagnostic where
  range : Range
  severity : Option Severity
  source : Option String
  message : String
deriving DecidableEq, Repr

/-- The range of a span. It is reversed if the span is. -/
def Text.range (t : Text) (s : Span) : Range := ⟨t.position s.start, t.position s.stop⟩

/-- Whether a node stands for something the parser could not make sense of. -/
def Node.isError (n : Node) : Bool := n.kind == errorKind

/-- One diagnostic for each error node, in the order of the walk. -/
def Diagnostic.ofTree (severity : Severity) (root : Node) (t : Text) : List Diagnostic :=
  (root.findAll Node.isError).map fun n =>
    ⟨t.range n.span, some severity, some "promql", "unexpected input"⟩

end PromqlEditor
