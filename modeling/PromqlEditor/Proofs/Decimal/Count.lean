import Mathlib.Tactic.Ring
import PromqlEditor.Decimal.Count

/-!
# Counts are read exactly

A count is read digit by digit, and given up as soon as it does not fit into 64 bits. A number never
gets smaller with more digits behind it, so nothing is given up that would fit in the end, however
many zeros stand in front (`foldlM_appendDigit?_eq_some_iff`). So a text is read as the number that
its digits write, just if that number fits (`readCount?_eq_some_iff`).
-/

namespace PromqlEditor

variable {c : Char} {m n : Nat} {t digits : Text}

/-! ## Digits -/

theorem appendDigit?_eq_some_iff :
    appendDigit? m c = some n ↔
      c.isDigit = true ∧ 10 * m + digitValue c = n ∧ n < wordBound := by
  show (if (c.isDigit && decide (10 * m + digitValue c < wordBound)) = true then
    some (10 * m + digitValue c) else none) = some n ↔ _
  rw [Option.ite_none_right_eq_some, Bool.and_eq_true, decide_eq_true_eq, Option.some.injEq]
  constructor
  · rintro ⟨⟨hc, hfits⟩, rfl⟩
    exact ⟨hc, rfl, hfits⟩
  · rintro ⟨hc, rfl, hfits⟩
    exact ⟨⟨hc, hfits⟩, rfl⟩

/-- The number of some digits behind a number that is written already, one digit further. -/
theorem place_cons (m : Nat) (c : Char) (digits : Text) :
    m * Nat.pow 10 (c :: digits).length + decimalValue (c :: digits) =
      (10 * m + digitValue c) * Nat.pow 10 digits.length + decimalValue digits := by
  rw [decimalValue]
  show m * (Nat.pow 10 digits.length * 10) +
      (digitValue c * Nat.pow 10 digits.length + decimalValue digits) = _
  ring

/-- A number does not get smaller with more digits behind it. -/
theorem le_place (m : Nat) (digits : Text) :
    m ≤ m * Nat.pow 10 digits.length + decimalValue digits := by
  have hpos : 0 < Nat.pow 10 digits.length := Nat.pow_pos (by decide)
  have hle : m ≤ m * Nat.pow 10 digits.length := Nat.le_mul_of_pos_right m hpos
  omega

/-- Digits are appended one by one just if the whole number fits into 64 bits. -/
theorem foldlM_appendDigit?_eq_some_iff (hm : m < wordBound) :
    digits.foldlM appendDigit? m = some n ↔
      (∀ c ∈ digits, c.isDigit = true) ∧
        m * Nat.pow 10 digits.length + decimalValue digits = n ∧ n < wordBound := by
  induction digits generalizing m with
  | nil =>
    have hempty : m * Nat.pow 10 ([] : Text).length + decimalValue [] = m := Nat.mul_one m
    rw [hempty, List.foldlM_nil]
    constructor
    · rintro ⟨⟩
      exact ⟨nofun, rfl, hm⟩
    · rintro ⟨-, rfl, -⟩
      rfl
  | cons c digits ih =>
    rw [List.foldlM_cons, place_cons, List.forall_mem_cons]
    show (appendDigit? m c).bind _ = some n ↔ _
    rw [Option.bind_eq_some_iff]
    constructor
    · rintro ⟨k, hk, hrest⟩
      obtain ⟨hc, rfl, hfits⟩ := appendDigit?_eq_some_iff.1 hk
      obtain ⟨hdigits, hvalue⟩ := (ih hfits).1 hrest
      exact ⟨⟨hc, hdigits⟩, hvalue⟩
    · rintro ⟨⟨hc, hdigits⟩, hvalue, hn⟩
      -- the part that is written already fits, since the whole number does
      have hfits : 10 * m + digitValue c < wordBound := by
        have hle := le_place (10 * m + digitValue c) digits
        omega
      exact ⟨_, appendDigit?_eq_some_iff.2 ⟨hc, rfl, hfits⟩, (ih hfits).2 ⟨hdigits, hvalue, hn⟩⟩

/-! ## Counts -/

theorem eq_or_eq_plus_cons (t : Text) : t = withoutPlus t ∨ t = '+' :: withoutPlus t := by
  fun_cases withoutPlus t with
  | case1 t => exact Or.inr rfl
  | case2 t h => exact Or.inl rfl

theorem withoutPlus_of_isDigit (hdigits : ∀ c ∈ digits, c.isDigit = true) :
    withoutPlus digits = digits := by
  fun_cases withoutPlus digits with
  | case1 t => exact absurd (hdigits '+' List.mem_cons_self) (by decide)
  | case2 t h => rfl

theorem readCount?_eq_foldlM (hne : withoutPlus t ≠ []) :
    readCount? t = (withoutPlus t).foldlM appendDigit? 0 := by
  unfold readCount?
  cases hdigits : withoutPlus t with
  | nil => exact absurd hdigits hne
  | cons c digits => rfl

/-- A text is a count if it is one decimal digit or more with a plus sign in front or none, and
their number fits into 64 bits. -/
theorem readCount?_eq_some_iff :
    readCount? t = some n ↔ ∃ digits, (t = digits ∨ t = '+' :: digits) ∧ digits ≠ [] ∧
      (∀ c ∈ digits, c.isDigit = true) ∧ decimalValue digits = n ∧ n < wordBound := by
  have hzero : 0 < wordBound := by decide
  constructor
  · intro h
    have hne : withoutPlus t ≠ [] := by
      intro hnil
      simp only [readCount?, hnil, reduceCtorEq] at h
    rw [readCount?_eq_foldlM hne, foldlM_appendDigit?_eq_some_iff hzero, Nat.zero_mul,
      Nat.zero_add] at h
    exact ⟨withoutPlus t, eq_or_eq_plus_cons t, hne, h⟩
  · rintro ⟨digits, ht, hne, hdigits, hvalue⟩
    have hwithout : withoutPlus t = digits := by
      rcases ht with rfl | rfl
      · exact withoutPlus_of_isDigit hdigits
      · rfl
    rw [← hwithout] at hne hdigits hvalue
    rw [readCount?_eq_foldlM hne, foldlM_appendDigit?_eq_some_iff hzero, Nat.zero_mul,
      Nat.zero_add]
    exact ⟨hdigits, hvalue⟩

end PromqlEditor
