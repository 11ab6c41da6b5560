import PromqlEditor.Text.Position

/-!
# Lines

A text is cut into its lines, each with the characters that end it, so that the lines joined
together are the text again (`flatten_lines`). The last line is what follows the last line break
and may be empty. The content of a line is what remains when the break characters at its end are
dropped, and `lineWidth` is the width of that content in UTF-16 units.
-/

namespace PromqlEditor.Text

/-- The characters that take part in line breaks. -/
def isBreak (c : Char) : Bool := c == '\n' || c == '\r'

/-- The lines of a text, each with its break. -/
def lines : Text → List Text
  | [] => [[]]
  | c :: t => if endsLine c t then [c] :: lines t else (lines t).modifyHead (c :: ·)

/-- A line without the break characters at its end. -/
def lineContent (l : Text) : Text := (l.reverse.dropWhile isBreak).reverse

/-- The width of a line's content in UTF-16 units. -/
def lineWidth (l : Text) : Nat := width (lineContent l)

/-- A text has at least one line. -/
theorem lines_ne_nil (t : Text) : lines t ≠ [] := by
  induction t with
  | nil => simp [lines]
  | cons c t ih =>
    unfold lines
    split
    · simp
    · cases h : lines t with
      | nil => exact absurd h ih
      | cons l ls => simp

/-- Cutting into lines loses nothing. -/
@[simp] theorem flatten_lines (t : Text) : (lines t).flatten = t := by
  induction t with
  | nil => rfl
  | cons c t ih =>
    unfold lines
    split
    · simp [ih]
    · cases h : lines t with
      | nil => exact absurd h (lines_ne_nil t)
      | cons l ls =>
        rw [h] at ih
        simpa using ih

/-- The byte offset at which line `n` starts. -/
def lineStart (t : Text) (n : Nat) : Nat := size ((lines t).take n).flatten

/-- The longest beginning of a line that is at most `n` UTF-16 units wide. -/
def takeUnits : Text → Nat → Text
  | [], _ => []
  | c :: l, n => if units c ≤ n then c :: takeUnits l (n - units c) else []

/-- The byte offset that a position names: the column is counted from the start of the line, and
there is none if the text has no such line or the column does not fall between two characters of
it. -/
def offset? (t : Text) (p : Position) : Option Nat := do
  let l ← (lines t)[p.line]?
  let s := takeUnits l p.column
  if width s = p.column then some (lineStart t p.line + size s) else none

end PromqlEditor.Text
