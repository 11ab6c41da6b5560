/-!
# Texts and byte offsets

A text is the list of its characters. Editors and parsers point into it by byte offsets of its
UTF-8 form, so this module gives every character its width in bytes and cuts a text at an offset.

An offset may be any natural number. One past the end means the end, and one inside a character
means the start of that character: `before` keeps the characters that end at or before the offset
and `after` keeps the others, so the two always make up the text again (`before_append_after`).
The offset where they meet is `snap`.
-/

namespace PromqlEditor

/-- A text, character by character. -/
abbrev Text := List Char

namespace Text

/-! ## Sizes -/

/-- The number of bytes of a text in UTF-8. -/
def size : Text → Nat
  | [] => 0
  | c :: t => c.utf8Size + size t

/-- The number of UTF-16 units of a character: two beyond U+FFFF and one otherwise. -/
def units (c : Char) : Nat := if 0x10000 ≤ c.toNat then 2 else 1

/-- The number of UTF-16 units of a text. -/
def width : Text → Nat
  | [] => 0
  | c :: t => units c + width t

@[simp] theorem size_nil : size [] = 0 := rfl

@[simp] theorem size_cons (c : Char) (t : Text) : size (c :: t) = c.utf8Size + size t := rfl

@[simp] theorem size_append (s t : Text) : size (s ++ t) = size s + size t := by
  induction s with
  | nil => simp
  | cons c s ih => simp [ih, Nat.add_assoc]

@[simp] theorem width_nil : width [] = 0 := rfl

@[simp] theorem width_cons (c : Char) (t : Text) : width (c :: t) = units c + width t := rfl

@[simp] theorem width_append (s t : Text) : width (s ++ t) = width s + width t := by
  induction s with
  | nil => simp
  | cons c s ih => simp [ih, Nat.add_assoc]

/-- Every character has at least one unit. -/
theorem units_pos (c : Char) : 0 < units c := by
  unfold units
  split <;> decide

/-! ## Cutting at an offset -/

/-- The longest beginning of the text that does not reach past byte offset `b`. -/
def before : Text → Nat → Text
  | [], _ => []
  | c :: t, b => if c.utf8Size ≤ b then c :: before t (b - c.utf8Size) else []

/-- What `before` leaves: the text from the character at byte offset `b` on. -/
def after : Text → Nat → Text
  | [], _ => []
  | c :: t, b => if c.utf8Size ≤ b then after t (b - c.utf8Size) else c :: t

/-- The character boundary an offset stands for: the largest one that is not past it. -/
def snap (t : Text) (b : Nat) : Nat := size (t.before b)

/-- An offset is a boundary if some beginning of the text has exactly that many bytes. -/
def IsBoundary (t : Text) (b : Nat) : Prop := ∃ s, s <+: t ∧ size s = b

/-- The characters whose bytes lie between the boundaries of two offsets. -/
def slice (t : Text) (start stop : Nat) : Text := (t.before stop).after start

/-- A text is gone through as far as an offset: the text is at its end, or the offset lies inside
the next character, or past it. -/
@[elab_as_elim]
theorem offset_induction {motive : Text → Nat → Prop} (nil : ∀ b, motive [] b)
    (inside : ∀ c t b, b < c.utf8Size → motive (c :: t) b)
    (past : ∀ c t b, motive t b → motive (c :: t) (c.utf8Size + b)) (t : Text) (b : Nat) :
    motive t b := by
  induction t generalizing b with
  | nil => exact nil b
  | cons c t ih =>
    by_cases hb : b < c.utf8Size
    · exact inside c t b hb
    · obtain ⟨b', rfl⟩ := Nat.exists_eq_add_of_le (Nat.not_lt.1 hb)
      exact past c t b' (ih b')

@[simp] theorem before_append_after (t : Text) (b : Nat) : t.before b ++ t.after b = t := by
  fun_induction before t b with
  | case1 => simp [after]
  | case2 b c t h ih => simp [after, h, ih]
  | case3 b c t h => simp [after, h]

theorem size_before_le (t : Text) (b : Nat) : size (t.before b) ≤ b := by
  fun_induction before t b with
  | case1 => simp
  | case2 b c t h ih => simp only [size_cons]; omega
  | case3 b c t h => simp

/-- The boundary of an offset is not past it. -/
theorem snap_le (t : Text) (b : Nat) : t.snap b ≤ b := size_before_le t b

/-- The boundary of an offset is a boundary. -/
theorem isBoundary_snap (t : Text) (b : Nat) : t.IsBoundary (t.snap b) :=
  ⟨t.before b, ⟨t.after b, before_append_after t b⟩, rfl⟩

/-- A text is cut where a beginning of it ends. -/
theorem before_append_size (s r : Text) : before (s ++ r) (size s) = s := by
  induction s with
  | nil =>
    cases r with
    | nil => rfl
    | cons c r => exact if_neg (Nat.not_le.2 c.utf8Size_pos)
  | cons c s ih =>
    rw [List.cons_append, size_cons, before, if_pos (Nat.le_add_right _ _),
      Nat.add_sub_cancel_left, ih]

/-- Nothing stands before the start of a text. -/
@[simp] theorem before_zero (t : Text) : t.before 0 = [] := before_append_size [] t

theorem after_append_size (s r : Text) : after (s ++ r) (size s) = r := by
  have h := before_append_after (s ++ r) (size s)
  rw [before_append_size] at h
  exact List.append_cancel_left h

/-- A text is cut at an offset as at the boundary that the offset stands for. -/
theorem before_snap (t : Text) (b : Nat) : t.before (t.snap b) = t.before b := by
  have h := before_append_size (t.before b) (t.after b)
  rwa [before_append_after] at h

theorem before_before (t : Text) {a b : Nat} (h : a ≤ b) : (t.before b).before a = t.before a := by
  induction t generalizing a b with
  | nil => rfl
  | cons c t ih =>
    by_cases ha : c.utf8Size ≤ a
    · have hb : c.utf8Size ≤ b := Nat.le_trans ha h
      simp [before, ha, hb, ih (Nat.sub_le_sub_right h c.utf8Size)]
    · by_cases hb : c.utf8Size ≤ b <;> simp [before, ha, hb]

/-- What stands before an offset is what stands before an earlier one and what lies between
them. -/
theorem before_append_slice (t : Text) {a b : Nat} (h : a ≤ b) :
    t.before a ++ t.slice a b = t.before b := by
  rw [slice, ← before_before t h, before_append_after]

end Text

end PromqlEditor
