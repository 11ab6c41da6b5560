import PromqlEditor.Token.Basic

/-!
# Where tokens lie

How an editor reads tokens: it adds up the differences to get the line and the column of each of
them. What was encoded comes out again (`decode_encode?`).
-/

namespace PromqlEditor

/-- A token at its place. -/
structure PlacedToken where
  line : Nat
  column : Nat
  length : Nat
  type : Nat
deriving DecidableEq, Repr

/-- Whether a token lies over the UTF-16 unit at a column of a line. -/
def PlacedToken.covers (t : PlacedToken) (line column : Nat) : Bool :=
  t.line == line && t.column ≤ column && column < t.column + t.length

/-- Whether a token ends where another one starts, or before. -/
def PlacedToken.IsBefore (s t : PlacedToken) : Prop :=
  s.line < t.line ∨ s.line = t.line ∧ s.column + s.length ≤ t.column

/-- The token that a mark stands for. -/
def Mark.placed (m : Mark) : PlacedToken := ⟨m.line, m.column, m.length, m.category.index⟩

namespace Token

/-- The tokens at their places, when the one before them lies at line `line` and column
`column`. -/
def decode (line column : Nat) : List Token → List PlacedToken
  | [] => []
  | t :: ts =>
    let line' := line + t.deltaLine
    let column' := if t.deltaLine = 0 then column + t.deltaStart else t.deltaStart
    ⟨line', column', t.length, t.type⟩ :: decode line' column' ts

/-- Reading a token that was made for a mark leads to the mark. -/
theorem decode_ofMark? {line column : Nat} {m : Mark} {t : Token}
    (h : ofMark? line column m = some t) (ts : List Token) :
    decode line column (t :: ts) = m.placed :: decode m.line m.column ts := by
  by_cases hl : line ≤ m.line
  · by_cases hd : m.line - line = 0
    · by_cases hc : column ≤ m.column
      · have hm : m.line = line := by omega
        simp [ofMark?, difference?, hm, hc] at h
        subst h
        simp [decode, Mark.placed, hm, Nat.add_sub_cancel' hc]
      · simp [ofMark?, difference?, hl, hd, hc] at h
    · simp [ofMark?, difference?, hl, hd] at h
      subst h
      simp [decode, Mark.placed, hd, Nat.add_sub_cancel' hl]
  · simp [ofMark?, difference?, hl] at h

/-- What was encoded comes out again. -/
theorem decode_encode? {line column : Nat} {ms : List Mark} {ts : List Token}
    (h : encode? line column ms = some ts) : decode line column ts = ms.map Mark.placed := by
  induction ms generalizing line column ts with
  | nil =>
    cases h
    rfl
  | cons m ms ih =>
    simp only [encode?, Option.bind_eq_bind, Option.bind_eq_some_iff, Option.pure_def,
      Option.some.injEq] at h
    obtain ⟨t, ht, ts', hts, rfl⟩ := h
    rw [decode_ofMark? ht, ih hts, List.map_cons]

end Token

end PromqlEditor
