/-!
# Shortest decimals

The fewest decimal digits that read back as a given 64-bit binary number. The numbers that round
to a binary number form an interval around it; of the decimals in that interval the one with the
fewest digits is chosen, and of several the nearest. All comparisons are made in whole numbers, so
nothing is lost on the way.
-/

namespace PromqlEditor

/-- The number `digits · 10 ^ exponent`. -/
structure Decimal where
  digits : Nat
  exponent : Int
deriving DecidableEq, Repr

namespace Decimal

/-- The same number without zeros at the end of its digits. -/
def stripZeros (d : Decimal) : Decimal :=
  if h : 0 < d.digits ∧ d.digits % 10 = 0 then
    stripZeros ⟨d.digits / 10, d.exponent + 1⟩
  else d
termination_by d.digits
decreasing_by omega

end Decimal

/-- A finite binary number that is not negative: `mantissa · 2 ^ exponent`. Just above a power of
two the gap to the number below is half the gap to the number above; `narrow` says so. -/
structure Binary where
  mantissa : Nat
  exponent : Int
  narrow : Bool
deriving DecidableEq, Repr

namespace Binary

/-- The fractions of binary numbers, which have 52 bits, lie below this bound. -/
def fractionBound : Nat := 0x10000000000000

/-- The finite number with the given bits, without its sign. -/
def ofBits (bits : UInt64) : Binary :=
  let fraction := bits.toNat % fractionBound
  match bits.toNat / fractionBound % 0x800 with
  | 0 => ⟨fraction, -1074, false⟩
  | e + 1 => ⟨fractionBound + fraction, e - 1074, fraction == 0 && 0 < e⟩

/-- The decimal exponent of the first digit of a number other than zero. The smallest such number
is far above `10 ^ -400`. -/
def leading (x : Binary) : Int :=
  let scaled := x.mantissa * Nat.pow 10 400 * Nat.pow 2 x.exponent.toNat /
    Nat.pow 2 (-x.exponent).toNat
  (Nat.toDigits 10 scaled).length - 401

/-- The multiple of `10 ^ k` nearest to the number, if a multiple reads back as it; the even one of
two that are equally near. The bounds of the interval are measured in quarters of the gap to the
number above, and belong to it if the mantissa is even. -/
def onGrid? (x : Binary) (k : Int) : Option Decimal :=
  let scale := Nat.pow 2 x.exponent.toNat * Nat.pow 10 (-k).toNat
  let unit := 4 * (Nat.pow 2 (-x.exponent).toNat * Nat.pow 10 k.toNat)
  let value := 4 * x.mantissa * scale
  let low := (4 * x.mantissa - if x.narrow then 1 else 2) * scale
  let high := (4 * x.mantissa + 2) * scale
  let readsBack (n : Nat) : Bool :=
    if x.mantissa % 2 = 0 then low ≤ n * unit && n * unit ≤ high
    else low < n * unit && n * unit < high
  let below := value / unit
  let above := below + 1
  match readsBack below, readsBack above with
  | false, false => none
  | true, false => some ⟨below, k⟩
  | false, true => some ⟨above, k⟩
  | true, true =>
    match compare (2 * value) ((below + above) * unit) with
    | .lt => some ⟨below, k⟩
    | .gt => some ⟨above, k⟩
    | .eq => some ⟨if below % 2 = 0 then below else above, k⟩

/-- The number itself as a decimal. -/
def exact (x : Binary) : Decimal :=
  ⟨x.mantissa * Nat.pow 2 x.exponent.toNat * Nat.pow 5 (-x.exponent).toNat, min x.exponent 0⟩

/-- The decimal of a number: the first of the grids of one to seventeen digits on which something
reads back. -/
def shortest (x : Binary) : Decimal :=
  if x.mantissa = 0 then ⟨0, 0⟩
  else
    let top := x.leading
    (((List.range 17).findSome? fun (n : Nat) => x.onGrid? (top - n)).getD x.exact).stripZeros

end Binary

end PromqlEditor
