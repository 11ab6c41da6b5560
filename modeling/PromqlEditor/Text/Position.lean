import PromqlEditor.Text.Basic

/-!
# Line and column positions

A position counts the line breaks before a point of a text and the UTF-16 units between the last
of them and the point. A line ends at `\n`, at `\r\n` and at a `\r` that no `\n` follows; between
the two characters of `\r\n` the line has not ended yet and the `\r` is a column like any other.

Positions compose: `p.advance q` is where a reader stands who has moved by `q` after moving by
`p`, and `Text.position` is the sum of the moves of the characters before an offset.
-/

namespace PromqlEditor

/-- A line number and a UTF-16 column in that line, both counted from zero. -/
structure Position where
  line : Nat
  column : Nat
deriving DecidableEq, Repr

namespace Position

/-- The start of every text. -/
def origin : Position := ⟨0, 0⟩

/-- The position reached by moving by `q` from `p`: a move within the line adds columns, a move to
a later line forgets the column of `p`. -/
def advance (p q : Position) : Position :=
  if q.line = 0 then ⟨p.line, p.column + q.column⟩ else ⟨p.line + q.line, q.column⟩

/-- Positions are ordered by line and, within a line, by column. -/
instance : LE Position := ⟨fun p q => p.line < q.line ∨ (p.line = q.line ∧ p.column ≤ q.column)⟩

theorem le_def {p q : Position} :
    p ≤ q ↔ p.line < q.line ∨ (p.line = q.line ∧ p.column ≤ q.column) := Iff.rfl

instance (p q : Position) : Decidable (p ≤ q) :=
  inferInstanceAs (Decidable (p.line < q.line ∨ (p.line = q.line ∧ p.column ≤ q.column)))

/-- On one line positions are ordered by column. -/
@[simp] theorem mk_le_mk_iff {n a b : Nat} : (⟨n, a⟩ : Position) ≤ ⟨n, b⟩ ↔ a ≤ b := by
  simp [le_def]

theorem line_le_line {p q : Position} (h : p ≤ q) : p.line ≤ q.line := by
  rw [le_def] at h
  omega

theorem column_le_column {p q : Position} (h : p ≤ q) (hline : p.line = q.line) :
    p.column ≤ q.column := by
  rw [le_def] at h
  omega

@[simp] theorem origin_advance (p : Position) : origin.advance p = p := by
  unfold advance origin
  split
  · rename_i h
    cases p
    simp_all
  · cases p
    simp

@[simp] theorem advance_origin (p : Position) : p.advance origin = p := by
  cases p
  simp [advance, origin]

theorem advance_assoc (p q r : Position) : (p.advance q).advance r = p.advance (q.advance r) := by
  unfold advance
  split <;> split <;> simp_all <;> omega

end Position

namespace Text

/-! ## The position of an offset -/

/-- Whether a line ends with the character `c` when `rest` follows it. -/
def endsLine (c : Char) (rest : Text) : Bool :=
  c == '\n' || (c == '\r' && rest.head? != some '\n')

theorem endsLine_iff {c : Char} {rest : Text} :
    endsLine c rest = true ↔ c = '\n' ∨ c = '\r' ∧ rest.head? ≠ some '\n' := by
  simp [endsLine]

/-- How far the character `c` moves a reader when `rest` follows it. -/
def move (c : Char) (rest : Text) : Position :=
  if endsLine c rest then ⟨1, 0⟩ else ⟨0, units c⟩

/-- The position of byte offset `b` of a text whose first character stands at position `p`. -/
def positionFrom (p : Position) : Text → Nat → Position
  | [], _ => p
  | c :: t, b =>
    if c.utf8Size ≤ b then positionFrom (p.advance (move c t)) t (b - c.utf8Size) else p

/-- The position of a byte offset, which may lie past the end or inside a character. -/
def position (t : Text) (b : Nat) : Position := positionFrom .origin t b

/-- Where the text starts only shifts its positions. -/
theorem positionFrom_eq_advance (p : Position) (t : Text) (b : Nat) :
    positionFrom p t b = p.advance (t.position b) := by
  induction t generalizing p b with
  | nil => simp [positionFrom, position]
  | cons c t ih =>
    simp only [positionFrom, position]
    split
    · rw [ih, ih (Position.origin.advance _), Position.origin_advance, Position.advance_assoc]
    · simp

end Text

/-! ## Ranges -/

/-- The stretch between two positions. -/
structure Range where
  start : Position
  stop : Position
deriving DecidableEq, Repr

end PromqlEditor
