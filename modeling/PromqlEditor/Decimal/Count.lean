import PromqlEditor.Decimal.Word
import PromqlEditor.Text.Basic

/-!
# Counts

Counts that users write in settings and arguments: decimal digits, with a plus sign that may stand
in front, and no number beyond 64 bits. The digits are taken one by one, and a number that gets too
large on the way is given up at once. `decimalValue` says what number digits write, however many
there are.
-/

namespace PromqlEditor

/-- The number of a decimal digit. -/
def digitValue (c : Char) : Nat := c.toNat - '0'.toNat

/-- The number that decimal digits write: each counts as often as its place says. -/
def decimalValue : Text → Nat
  | [] => 0
  | c :: digits => digitValue c * Nat.pow 10 digits.length + decimalValue digits

/-- The text after a plus sign that may stand in front. -/
def withoutPlus : Text → Text
  | '+' :: t => t
  | t => t

/-- A number with one more decimal digit behind it, if that fits into 64 bits. -/
def appendDigit? (n : Nat) (c : Char) : Option Nat :=
  let longer := 10 * n + digitValue c
  if c.isDigit && longer < wordBound then some longer else none

/-- The number that a text of decimal digits writes, if there is one digit or more and the number
fits into 64 bits. A plus sign may stand in front. -/
def readCount? (t : Text) : Option Nat :=
  match withoutPlus t with
  | [] => none
  | digits => digits.foldlM appendDigit? 0

end PromqlEditor
