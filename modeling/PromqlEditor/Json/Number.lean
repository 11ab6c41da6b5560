import PromqlEditor.Decimal.Count
import PromqlEditor.Json.Fault
import PromqlEditor.Json.Value

/-!
# JSON numbers

A number is whole if it has neither fraction nor exponent and fits into 64 bits; every other number
is a binary one. It is computed from a significand and a power of ten. The significand takes the
digits of the number as long as it fits into 64 bits; the digits after that only count towards the
power. It is then multiplied or divided by that power in binary arithmetic, so the result may
differ from the nearest binary number in its last place.
-/

namespace PromqlEditor.Json

/-! ## Digits -/

/-- Appends digits to a number as long as it stays below a bound: the number, how many digits were
appended, and the text after them. -/
def appendDigits (bound : Nat) (n count : Nat) : (s : Text) → Nat × Nat × Tail s
  | [] => (n, count, ⟨[], Nat.le_refl _⟩)
  | c :: t =>
    let n' := 10 * n + digitValue c
    if c.isDigit && n' < bound then
      let (m, k, r) := appendDigits bound n' (count + 1) t
      (m, k, ⟨r.1, Nat.le_succ_of_le r.2⟩)
    else (n, count, ⟨c :: t, Nat.le_refl _⟩)

/-- Whether a text starts with a digit. -/
def startsWithDigit : Text → Bool
  | c :: _ => c.isDigit
  | [] => false

/-- The text after the digits at its front. -/
def skipDigits (s : Text) : Tail s :=
  ⟨s.dropWhile Char.isDigit, (List.dropWhile_suffix Char.isDigit).length_le⟩

/-! ## Binary values -/

/-- The significand times a power of ten, computed in binary arithmetic; `none` if that is beyond
the largest number. -/
def scaled? (significand : Nat) (exponent : Int) : Option Float :=
  let f := Float.ofScientific significand false 0
  let power (n : Nat) := Float.ofScientific 1 false n
  if 0 ≤ exponent then
    if exponent ≤ 308 then
      let x := f * power exponent.toNat
      if x.isInf then none else some x
    else if significand = 0 then some f else none
  else
    let n := (-exponent).toNat
    if n ≤ 308 then some (f / power n)
    else if n ≤ 616 then some (f / power 308 / power (n - 308))
    else some 0

/-- The number with the given sign, significand and power of ten. -/
def realNumber (negative : Bool) (significand : Nat) (exponent : Int) (rest : Text) :
    Except Fault Value :=
  match scaled? significand exponent with
  | some x => .ok (.real (if negative then -x else x))
  | none => .error (.before .numberOutOfRange rest)

/-- The whole number with the given sign, or the binary one if it does not fit into 64 bits. Minus
zero is a binary number. -/
def wholeNumber (negative : Bool) (n : Nat) : Value :=
  if !negative then .integer n
  else if n = 0 || wordBound / 2 < n then .real (-(Float.ofScientific n false 0))
  else .integer (-n)

/-! ## Reading -/

/-- Whether a text starts with the mark of an exponent. -/
def startsWithMark : Text → Bool
  | c :: _ => c == 'e' || c == 'E'
  | [] => false

/-- The exponents that are read in full lie below this bound. -/
def exponentBound : Nat := 0x80000000

/-- Reads the digits of an exponent and finishes the number. An exponent beyond the bound makes
the number zero or too large. -/
def readExponentDigits (negative : Bool) (significand : Nat) (exponent : Int) (down : Bool) :
    (s : Text) → Except Fault (Value × Tail s)
  | [] => .error (.before (.endOfText .value) [])
  | c :: t =>
    if !c.isDigit then .error (.within .invalidNumber (c :: t))
    else
      let (n, _, r) := appendDigits exponentBound 0 0 (c :: t)
      if startsWithDigit r.1 then
        if significand ≠ 0 && !down then .error (.within .numberOutOfRange r.1)
        else
          let r' := skipDigits r.1
          .ok (.real (if negative then -0.0 else 0.0), ⟨r'.1, Nat.le_trans r'.2 r.2⟩)
      else do
        let v ← realNumber negative significand (if down then exponent - n else exponent + n) r.1
        return (v, r)

/-- Reads the exponent of a number, from behind its mark. -/
def readExponent (negative : Bool) (significand : Nat) (exponent : Int) :
    (s : Text) → Except Fault (Value × Tail s)
  | '+' :: t => do
    let (v, r) ← readExponentDigits negative significand exponent false t
    return (v, ⟨r.1, Nat.le_succ_of_le r.2⟩)
  | '-' :: t => do
    let (v, r) ← readExponentDigits negative significand exponent true t
    return (v, ⟨r.1, Nat.le_succ_of_le r.2⟩)
  | s => readExponentDigits negative significand exponent false s

/-- Finishes a number behind its fraction, or behind its whole part if it has more digits than fit:
what may follow is an exponent. -/
def readScale (negative : Bool) (significand : Nat) (exponent : Int) (s : Text) :
    Except Fault (Value × Tail s) :=
  match s with
  | c :: t =>
    if startsWithMark (c :: t) then do
      let (v, r) ← readExponent negative significand exponent t
      return (v, ⟨r.1, Nat.le_succ_of_le r.2⟩)
    else return (← realNumber negative significand exponent (c :: t), ⟨c :: t, Nat.le_refl _⟩)
  | [] => return (← realNumber negative significand exponent [], ⟨[], Nat.le_refl _⟩)

/-- Reads the fraction of a number, from behind the point. -/
def readFraction (negative : Bool) (significand : Nat) (exponent : Int) (s : Text) :
    Except Fault (Value × Tail s) :=
  let (n, count, r) := appendDigits wordBound significand 0 s
  if count = 0 && !startsWithDigit r.1 then
    .error (.within (if r.1.isEmpty then .endOfText .value else .invalidNumber) r.1)
  else do
    let r' := skipDigits r.1
    let (v, e) ← readScale negative n (exponent - count) r'.1
    return (v, ⟨e.1, Nat.le_trans e.2 (Nat.le_trans r'.2 r.2)⟩)

/-- Reads what may follow the digits of a whole number, of which the last `dropped` did not fit. -/
def readNumberEnd (negative : Bool) (n dropped : Nat) (s : Text) : Except Fault (Value × Tail s) :=
  match s with
  | '.' :: t => do
    let (v, r) ← readFraction negative n dropped t
    return (v, ⟨r.1, Nat.le_succ_of_le r.2⟩)
  | s =>
    if startsWithMark s || dropped ≠ 0 then readScale negative n dropped s
    else .ok (wholeNumber negative n, ⟨s, Nat.le_refl _⟩)

/-- Reads a number from behind its first digit. -/
def readNumber (negative : Bool) (first : Char) (t : Text) : Except Fault (Value × Tail t) :=
  if first == '0' then
    if startsWithDigit t then .error (.within .invalidNumber t) else readNumberEnd negative 0 0 t
  else do
    let (n, _, r) := appendDigits wordBound (digitValue first) 1 t
    let r' := skipDigits r.1
    let (v, e) ← readNumberEnd negative n (r.1.length - r'.1.length) r'.1
    return (v, ⟨e.1, Nat.le_trans e.2 (Nat.le_trans r'.2 r.2)⟩)

/-- Reads a negative number from behind its sign. -/
def readNegative : (s : Text) → Except Fault (Value × Tail s)
  | [] => .error (.before (.endOfText .value) [])
  | c :: t =>
    if c.isDigit then do
      let (v, r) ← readNumber true c t
      return (v, ⟨r.1, Nat.le_succ_of_le r.2⟩)
    else .error (.within .invalidNumber (c :: t))

end PromqlEditor.Json
