import PromqlEditor.Settings.Environment

/-!
# The values of variables

Which values make sense for the environment variables and what they stand for, said as relations
between the two and not as a way of reading.
-/

namespace PromqlEditor

namespace Schema

/-- The words for a switch that is on, and those for one that is off. -/
def switchWords : Bool → List String
  | true => ["1", "true", "on", "yes"]
  | false => ["0", "false", "off", "no"]

/-- The value of a switch: one of its words, in any case of the ASCII letters and with any white
space around it. -/
def IsSwitch (value : String) (b : Bool) : Prop :=
  ∃ t, Text.TrimsTo value.toList t ∧ ∃ word ∈ switchWords b, t.map Char.toLower = word.toList

/-- The value of a limit: one decimal digit or more, which write a number other than zero of at most
64 bits. A plus sign may stand in front, and any white space around it. -/
def IsLimit (value : String) (n : Nat) : Prop :=
  ∃ digits, (Text.TrimsTo value.toList digits ∨ Text.TrimsTo value.toList ('+' :: digits)) ∧
    digits ≠ [] ∧ (∀ c ∈ digits, c.isDigit = true) ∧ decimalValue digits = n ∧
    0 < n ∧ n < wordBound

end Schema

/-- Whether a value makes sense for a variable. -/
def Variable.Accepts : Variable → String → Prop
  | .lintEnabled, value => ∃ b, Schema.IsSwitch value b
  | .maxItems, value => ∃ n, Schema.IsLimit value n

/-- Whether a variable is set to a value that makes no sense for it. -/
def Environment.IsFault (env : Environment) (e : EnvironmentError) : Prop :=
  env e.source = some e.value ∧ ¬ e.source.Accepts e.value

/-- Whether a fault of an environment comes first: that of the switch always does, and that of the
limit if there is none of the switch. -/
def Environment.IsFirstFault (env : Environment) : EnvironmentError → Prop
  | ⟨.lintEnabled, value⟩ => env.IsFault ⟨.lintEnabled, value⟩
  | ⟨.maxItems, value⟩ =>
    (∀ other, ¬ env.IsFault ⟨.lintEnabled, other⟩) ∧ env.IsFault ⟨.maxItems, value⟩

end PromqlEditor
