/-!
# Stretches of code points

Sets of characters that are too irregular for a rule are given by the stretches of code points that
make them up.
-/

namespace PromqlEditor

/-- Stretches of code points, the first and the last of each, in order. -/
abbrev Stretches := List (Nat × Nat)

/-- Whether a character lies in one of the stretches. -/
def Stretches.contains (s : Stretches) (c : Char) : Bool :=
  s.any fun r => r.1 ≤ c.toNat && c.toNat ≤ r.2

end PromqlEditor
