/-!
# The vocabulary

The words that every PromQL query may use, in the order in which they are suggested.
-/

namespace PromqlEditor.Vocabulary

/-- The built-in functions. -/
def functions : List String :=
  ["abs", "absent", "absent_over_time", "avg_over_time", "ceil", "changes", "clamp_max",
    "clamp_min", "count_over_time", "days_in_month", "day_of_month", "day_of_week", "delta",
    "deriv", "exp", "floor", "histogram_quantile", "holt_winters", "hour", "idelta", "increase",
    "irate", "label_join", "label_replace", "ln", "log10", "log2", "max_over_time",
    "min_over_time", "minute", "month", "predict_linear", "quantile_over_time", "rate", "resets",
    "round", "scalar", "sort", "sort_desc", "sqrt", "stddev_over_time", "stdvar_over_time",
    "sum_over_time", "time", "timestamp", "vector", "year"]

/-- The operators that aggregate several series. -/
def aggregations : List String :=
  ["avg", "bottomk", "count", "count_values", "group", "max", "min", "quantile", "stddev",
    "stdvar", "sum", "topk"]

/-- The words that group series or say how they are matched. -/
def modifiers : List String :=
  ["by", "without", "bool", "on", "ignoring", "group_left", "group_right", "offset"]

/-- The words that stand between two expressions. -/
def binaryKeywords : List String := ["and", "or", "unless"]

end PromqlEditor.Vocabulary
