import PromqlEditor.Table.Basic

/-!
# The PromQL table

The node kinds of the PromQL grammar with the category of each, and what else an editor is told
about the language.
-/

namespace PromqlEditor

/-! ## Node kinds -/

/-- The kind of the nodes that a parser makes of what it cannot make sense of. -/
def errorKind : String := "⚠"

/-- The groups of the PromQL grammar. -/
def promqlGroups : List Group :=
  [⟨["LineComment"], .comment⟩,
    ⟨["LabelName"], .labelName⟩,
    ⟨["StringLiteral"], .string⟩,
    ⟨["NumberLiteral", "Duration"], .number⟩,
    ⟨["Abs", "Absent", "AbsentOverTime", "AvgOverTime", "Ceil", "Changes", "ClampMax",
      "ClampMin", "CountOverTime", "DaysInMonth", "DayOfMonth", "DayOfWeek", "Delta", "Deriv",
      "Exp", "Floor", "HistogramQuantile", "HoltWinters", "Hour", "Idelta", "Increase", "Irate",
      "LabelReplace", "LabelJoin", "Ln", "Log10", "Log2", "MaxOverTime", "MinOverTime",
      "Minute", "Month", "PredictLinear", "QuantileOverTime", "Rate", "Resets", "Round",
      "Scalar", "Sort", "SortDesc", "Sqrt", "StddevOverTime", "StdvarOverTime", "SumOverTime",
      "Time", "Timestamp", "Vector", "Year"], .functionName⟩,
    ⟨["Avg", "Bottomk", "Count", "Count_values", "Group", "Max", "Min", "Quantile", "Stddev",
      "Stdvar", "Sum", "Topk"], .operatorKeyword⟩,
    ⟨["By", "Without", "Bool", "On", "Ignoring", "GroupLeft", "GroupRight", "Offset"],
      .modifier⟩,
    ⟨["And", "Unless", "Or"], .logicOperator⟩,
    ⟨["Sub", "Add", "Mul", "Mod", "Div", "Eql", "Neq", "Lte", "Lss", "Gte", "Gtr", "EqlRegex",
      "EqlSingle", "NeqRegex", "Pow"], .operator⟩,
    ⟨["UnaryOp"], .arithmeticOperator⟩,
    ⟨["(", ")"], .paren⟩,
    ⟨["[", "]"], .squareBracket⟩,
    ⟨["\x7b", "\x7d"], .brace⟩,
    ⟨[errorKind], .invalid⟩]

/-- The table of the PromQL grammar. -/
def Table.promql : Table where
  groups := promqlGroups
  names_nodup := by decide +kernel
  names_ne_nil := by decide

/-! ## The language -/

/-- What an editor is told about a language. -/
structure Language where
  name : String
  table : Table
  /-- The characters whose partner the editor types itself. -/
  closedBrackets : List Char
  /-- What a comment up to the end of the line starts with. -/
  lineComment : String

/-- The PromQL language. -/
def Language.promql : Language where
  name := "promql"
  table := Table.promql
  closedBrackets := "([\x7b'\"`".toList
  lineComment := "#"

/-- The category of a node kind in a language. -/
def Language.category? (l : Language) (name : String) : Option Category := l.table.category? name

end PromqlEditor
