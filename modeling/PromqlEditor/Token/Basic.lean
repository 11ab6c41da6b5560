import PromqlEditor.Highlight.Basic
import PromqlEditor.Text.Line

/-!
# Semantic tokens

Editors take highlights as a list of tokens, each on one line and each placed relative to the one
before it: the lines in between, then the UTF-16 columns from the start of the token before it, or
from the start of the line if that token is on another line.

`Mark.ofHighlight?` cuts a highlight into one mark for each line that it touches, and
`Token.encode?` turns marks into relative tokens. Both subtract positions from one another; where
a difference would be negative they give `none`.
-/

namespace PromqlEditor

/-! ## Marks -/

/-- A coloured stretch of one line, placed by line and column. -/
structure Mark where
  line : Nat
  column : Nat
  length : Nat
  category : Category
deriving DecidableEq, Repr

/-- The difference of two numbers, if it is not negative. -/
def difference? (a b : Nat) : Option Nat := if b ≤ a then some (a - b) else none

namespace Mark

/-- The mark that a highlight from `start` to `stop` leaves on one line, given the widths of the
lines. The highlight reaches to the end of the line's content on every line but its last; a line
on which it covers nothing gets no mark. -/
def onLine? (widths : Array Nat) (start stop : Position) (c : Category) (line : Nat) :
    Option (List Mark) := do
  let first := if line = start.line then start.column else 0
  let last ← if line = stop.line then some stop.column else widths[line]?
  if first < last then return [⟨line, first, ← difference? last first, c⟩] else return []

/-- The marks of a highlight. One that starts and stops on the same line always has a mark, even
if no character lies between its ends. -/
def ofHighlight? (t : Text) (widths : Array Nat) (h : Highlight) : Option (List Mark) := do
  let start := t.position h.span.start
  let stop := t.position h.span.stop
  if start.line = stop.line then
    return [⟨start.line, start.column, ← difference? stop.column start.column, h.category⟩]
  else
    let lines := List.range' start.line (stop.line + 1 - start.line)
    return (← lines.mapM (onLine? widths start stop h.category)).flatten

/-- The marks of flattened highlights, line after line. -/
def ofHighlights? (t : Text) (hs : List Highlight) : Option (List Mark) := do
  let widths := (t.lines.map Text.lineWidth).toArray
  return (← (Highlight.flatten hs).mapM (ofHighlight? t widths)).flatten

end Mark

/-! ## Tokens -/

/-- A token: the lines since the token before it, the columns since that token's start or, after a
new line, since the start of the line, its length in UTF-16 units, the index of its type in the
legend, and the set of its modifiers. -/
structure Token where
  deltaLine : Nat
  deltaStart : Nat
  length : Nat
  type : Nat
  modifiers : Nat
deriving DecidableEq, Repr

namespace Token

/-- The token of a mark after one that stands at line `line` and column `column`. -/
def ofMark? (line column : Nat) (m : Mark) : Option Token := do
  let deltaLine ← difference? m.line line
  let deltaStart ← if deltaLine = 0 then difference? m.column column else some m.column
  return ⟨deltaLine, deltaStart, m.length, m.category.index, 0⟩

/-- The tokens of marks that follow one at line `line` and column `column`. -/
def encode? (line column : Nat) : List Mark → Option (List Token)
  | [] => some []
  | m :: ms => do return (← ofMark? line column m) :: (← encode? m.line m.column ms)

/-- The tokens that colour a text as the highlights say. -/
def ofHighlights? (t : Text) (hs : List Highlight) : Option (List Token) := do
  encode? 0 0 (← Mark.ofHighlights? t hs)

end Token

end PromqlEditor
