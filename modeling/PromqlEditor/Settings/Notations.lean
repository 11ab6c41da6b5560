import PromqlEditor.Settings.Schema

/-!
# Notations of options

When two values are the same options in different notations. A record is written as an object or as
a list, and the values given for its fields may themselves be records; an object may have any other
keys too. All other values have one notation only.
-/

namespace PromqlEditor.Schema

open Json (Value)

/-- Whether two values are the same, or two notations of a record with two fields: for each field
both give a value, and these are alike, or neither does. A list gives values for the first fields,
and an object for those whose names are among its keys (`fields?`). -/
inductive Alike (first second : String) (first_alike second_alike : Value → Value → Prop)
    (v w : Value) : Prop
  | same (h : v = w)
  | notations {x y x' y' : Option Value} (hv : fields? [first, second] v = some [x, y])
      (hw : fields? [first, second] w = some [x', y']) (hx : Option.Rel first_alike x x')
      (hy : Option.Rel second_alike y y')

/-- Whether two values are alike as completion sections. -/
def AlikeCompletion : Value → Value → Prop := Alike "maxItems" "metricNames" Eq Eq

/-- Whether two values are alike as lint sections. -/
def AlikeLint : Value → Value → Prop := Alike "enabled" "severity" Eq Eq

/-- Whether two values are alike as settings. -/
def AlikeSettings : Value → Value → Prop :=
  Alike "completion" "lint" AlikeCompletion AlikeLint

end PromqlEditor.Schema
