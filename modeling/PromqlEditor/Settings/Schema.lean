import PromqlEditor.Settings.Basic

/-!
# The schema of options

Which JSON values are options and what settings they stand for, said as relations between the two
and not as a way of reading. A record is an object with any of its fields by name, or a list of its
first few fields; a field that is not given has its default.
-/

namespace PromqlEditor.Schema

open Json (Value)

/-! ## Fields -/

/-- The values that are given for the fields of a record, in the order of the names. -/
def fields? (names : List String) : Value → Option (List (Option Value))
  | .object members => some (names.map (List.lookup · members))
  | .list items =>
    if items.length ≤ names.length then
      some ((List.range names.length).map (items[·]?))
    else none
  | _ => none

/-- A field that may be left out. -/
def OrDefault {α : Type} (denotes : Value → α → Prop) (dflt : α) : Option Value → α → Prop
  | none, a => a = dflt
  | some v, a => denotes v a

/-- A value that may be null, which stands for none. -/
def OrNull {α : Type} (denotes : Value → α → Prop) (v : Value) : Option α → Prop
  | none => v = .null
  | some a => v ≠ .null ∧ denotes v a

/-! ## Values -/

/-- A whole number of at most 64 bits without sign. -/
def Count (v : Value) (n : Nat) : Prop := v = .integer n ∧ n < wordBound

/-- A list of texts. -/
def Texts (v : Value) (ss : List String) : Prop := v = .list (ss.map .text)

/-- A truth value. -/
def Truth (v : Value) (b : Bool) : Prop := v = .boolean b

/-- A severity: its name, or the object with its name as the only key, standing for null. -/
def IsSeverity (v : Value) (s : Severity) : Prop :=
  v = .text s.name ∨ v = .object [(s.name, .null)]

/-! ## Records -/

/-- The completion section. -/
def IsCompletion (v : Value) (s : CompletionSettings) : Prop :=
  ∃ maxItems metricNames, fields? ["maxItems", "metricNames"] v = some [maxItems, metricNames] ∧
    OrDefault (OrNull Count) none maxItems s.maxItems ∧
    OrDefault Texts [] metricNames s.metricNames

/-- The lint section. -/
def IsLint (v : Value) (s : LintSettings) : Prop :=
  ∃ enabled severity, fields? ["enabled", "severity"] v = some [enabled, severity] ∧
    OrDefault Truth true enabled s.enabled ∧ OrDefault IsSeverity .error severity s.severity

/-- All settings. -/
def IsSettings (v : Value) (s : Settings) : Prop :=
  v = .null ∧ s = {} ∨
  ∃ completion lint, fields? ["completion", "lint"] v = some [completion, lint] ∧
    OrDefault (OrNull IsCompletion) none completion s.completion ∧
    OrDefault (OrNull IsLint) none lint s.lint

/-- Options, which need not be given. -/
def IsOptions (options : Option Value) : Settings → Prop := OrDefault IsSettings {} options

end PromqlEditor.Schema
