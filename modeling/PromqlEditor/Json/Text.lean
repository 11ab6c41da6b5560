import PromqlEditor.Json.Number

/-!
# JSON texts

`Value.ofText` reads a JSON text, with nothing but blanks around the value, or reports its first
fault. Lists and objects may lie in one another up to a fixed depth. A key that an object repeats
has the last value given for it.

Every reader returns what it leaves of its text together with the fact that this is shorter, and
that is why reading ends.
-/

namespace PromqlEditor.Json

/-! ## Blanks and words -/

/-- The blanks of JSON. -/
def isSpace (c : Char) : Bool := c == ' ' || c == '\n' || c == '\t' || c == '\r'

/-- The text after the blanks at its front. -/
def skipSpaces (s : Text) : Tail s :=
  ⟨s.dropWhile isSpace, (List.dropWhile_suffix isSpace).length_le⟩

/-- Reads the characters of a word. -/
def readWord : Text → (s : Text) → Except Fault (Tail s)
  | [], s => .ok ⟨s, Nat.le_refl _⟩
  | _ :: _, [] => .error (.before (.endOfText .value) [])
  | w :: ws, c :: t =>
    if w = c then do
      let r ← readWord ws t
      return ⟨r.1, Nat.le_succ_of_le r.2⟩
    else .error (.within .expectedWord (c :: t))

/-! ## Strings -/

/-- The value of a hexadecimal digit. -/
def hexValue? (c : Char) : Option Nat :=
  if c.isDigit then some (digitValue c)
  else if 'a' ≤ c && c ≤ 'f' then some (c.toNat - 'a'.toNat + 10)
  else if 'A' ≤ c && c ≤ 'F' then some (c.toNat - 'A'.toNat + 10)
  else none

/-- The number that four hexadecimal digits write. -/
def hexQuad? (a b c d : Char) : Option Nat := do
  return 4096 * (← hexValue? a) + 256 * (← hexValue? b) + 16 * (← hexValue? c) + (← hexValue? d)

/-- Reads the four hexadecimal digits of an escape. Four bytes are taken whatever they are. -/
def readHex (s : Text) : Except Fault (Nat × Rest s) :=
  if s.size < 4 then .error (.before (.endOfText .string) [])
  else
    match s with
    | a :: b :: c :: d :: t =>
      match hexQuad? a b c d with
      | some n => .ok (n, ⟨t, by simp only [List.length_cons]; omega⟩)
      | none => .error ⟨.invalidEscape, Text.size (a :: b :: c :: d :: t) - 4⟩
    | s => .error ⟨.invalidEscape, s.size - 4⟩

/-- Reads the rest of a numbered escape, from behind its `u`: one number, or the two numbers of a
surrogate pair. -/
def readNumbered (s : Text) : Except Fault (Char × Rest s) := do
  let (n, r) ← readHex s
  if 0xDC00 ≤ n && n ≤ 0xDFFF then .error (.before .loneSurrogate r.1)
  else if n < 0xD800 || 0xDBFF < n then return (Char.ofNat n, r)
  else
    match h : r.1 with
    | [] => .error (.before (.endOfText .string) [])
    | ['\\'] => .error (.before (.endOfText .string) [])
    | '\\' :: 'u' :: t => do
      let (m, e) ← readHex t
      if m < 0xDC00 || 0xDFFF < m then .error (.before .loneSurrogate e.1)
      else
        return (Char.ofNat (0x10000 + 0x400 * (n - 0xD800) + (m - 0xDC00)),
          ⟨e.1, by have := r.2; have := e.2; simp [h] at *; omega⟩)
    | '\\' :: t => .error (.within .unfinishedPair t)
    | t => .error (.within .unfinishedPair t)

/-- The character of a short escape. -/
def shortEscape? : Char → Option Char
  | '"' => some '"'
  | '\\' => some '\\'
  | '/' => some '/'
  | 'b' => some (Char.ofNat 8)
  | 'f' => some (Char.ofNat 12)
  | 'n' => some '\n'
  | 'r' => some '\r'
  | 't' => some '\t'
  | _ => none

/-- Reads the rest of a string, from behind its opening quote. -/
def readString (s : Text) : Except Fault (Text × Rest s) :=
  match s with
  | [] => .error (.before (.endOfText .string) [])
  | '"' :: t => .ok ([], ⟨t, by simp⟩)
  | '\\' :: [] => .error (.before (.endOfText .string) [])
  | '\\' :: 'u' :: t => do
    let (c, r) ← readNumbered t
    have := r.2
    let (cs, e) ← readString r.1
    return (c :: cs, ⟨e.1, by have := e.2; simp; omega⟩)
  | '\\' :: c :: t =>
    match shortEscape? c with
    | none => .error (.within .invalidEscape (c :: t))
    | some c => do
      let (cs, e) ← readString t
      return (c :: cs, ⟨e.1, by have := e.2; simp; omega⟩)
  | c :: t =>
    if c.toNat < 0x20 then .error (.within .controlCharacter (c :: t))
    else do
      let (cs, e) ← readString t
      return (c :: cs, ⟨e.1, by have := e.2; simp; omega⟩)
termination_by s.length
decreasing_by all_goals simp only [List.length_cons]; omega

/-! ## Values -/

/-- How deep lists and objects may lie in one another. -/
def depthLimit : Nat := 127

mutual
/-- Reads a value in which lists and objects lie at most `depth` deep. -/
def readValue (depth : Nat) (s : Text) : Except Fault (Value × Rest s) :=
  let start := skipSpaces s
  match h : start.1 with
  | [] => .error (.before (.endOfText .value) [])
  | c :: t =>
    have ht : t.length < s.length := by have := start.2; simp [h] at this; omega
    if c = 'n' then do
      let r ← readWord "ull".toList t
      return (.null, r.rest ht)
    else if c = 't' then do
      let r ← readWord "rue".toList t
      return (.boolean true, r.rest ht)
    else if c = 'f' then do
      let r ← readWord "alse".toList t
      return (.boolean false, r.rest ht)
    else if c = '-' then do
      let (v, r) ← readNegative t
      return (v, r.rest ht)
    else if c.isDigit then do
      let (v, r) ← readNumber false c t
      return (v, r.rest ht)
    else if c = '"' then do
      let (cs, r) ← readString t
      return (.text (String.ofList cs), r.weaken (Nat.le_of_lt ht))
    else if c = '[' then
      match depth with
      | 0 => .error (.within .tooDeep (c :: t))
      | d + 1 => do
        let (vs, r) ← readList d t
        return (.list vs, r.weaken (Nat.le_of_lt ht))
    else if c = '{' then
      match depth with
      | 0 => .error (.within .tooDeep (c :: t))
      | d + 1 => do
        let (ms, r) ← readObject d t
        return (.ofMembers ms, r.weaken (Nat.le_of_lt ht))
    else .error (.within .expectedValue (c :: t))
termination_by (s.length, 0)

/-- Reads the rest of a list, from behind its opening bracket. -/
def readList (depth : Nat) (s : Text) : Except Fault (List Value × Rest s) :=
  let start := skipSpaces s
  match h : start.1 with
  | [] => .error (.before (.endOfText .list) [])
  | ']' :: t => .ok ([], ⟨t, by have := start.2; simp [h] at this; omega⟩)
  | _ => readItems depth s
termination_by (s.length, 2)

/-- Reads an item of a list and all that follows up to the closing bracket. -/
def readItems (depth : Nat) (s : Text) : Except Fault (List Value × Rest s) := do
  let (v, r) ← readValue depth s
  let next := skipSpaces r.1
  match h : next.1 with
  | [] => .error (.before (.endOfText .list) [])
  | c :: t =>
    have ht : t.length < s.length := by have := r.2; have := next.2; simp [h] at this; omega
    if c = ']' then return ([v], ⟨t, ht⟩)
    else if c = ',' then
      match (skipSpaces t).1 with
      | [] => .error (.before (.endOfText .value) [])
      | ']' :: e => .error (.within .trailingComma (']' :: e))
      | _ => do
        let (vs, e) ← readItems depth t
        return (v :: vs, e.weaken (Nat.le_of_lt ht))
    else .error (.within .expectedCommaOrBracket (c :: t))
termination_by (s.length, 1)

/-- Reads the rest of an object, from behind its opening brace. -/
def readObject (depth : Nat) (s : Text) : Except Fault (List (String × Value) × Rest s) :=
  let start := skipSpaces s
  match h : start.1 with
  | [] => .error (.before (.endOfText .object) [])
  | c :: t =>
    have ht : t.length < s.length := by have := start.2; simp [h] at this; omega
    if c = '}' then .ok ([], ⟨t, ht⟩)
    else if c = '"' then do
      let (ms, r) ← readMembers depth t
      return (ms, r.weaken (Nat.le_of_lt ht))
    else .error (.within .keyNotString (c :: t))
termination_by (s.length, 0)

/-- Reads a member of an object, from behind the opening quote of its key, and all that follows
up to the closing brace. -/
def readMembers (depth : Nat) (s : Text) : Except Fault (List (String × Value) × Rest s) := do
  let (key, r) ← readString s
  let colon := skipSpaces r.1
  match h : colon.1 with
  | [] => .error (.before (.endOfText .object) [])
  | c :: t =>
    have ht : t.length < s.length := by have := r.2; have := colon.2; simp [h] at this; omega
    if c ≠ ':' then .error (.within .expectedColon (c :: t))
    else do
      let (v, e) ← readValue depth t
      let member := (String.ofList key, v)
      let next := skipSpaces e.1
      match h' : next.1 with
      | [] => .error (.before (.endOfText .object) [])
      | c :: u =>
        have hu : u.length < s.length := by have := e.2; have := next.2; simp [h'] at this; omega
        if c = '}' then return ([member], ⟨u, hu⟩)
        else if c = ',' then
          let quote := skipSpaces u
          match h'' : quote.1 with
          | [] => .error (.before (.endOfText .value) [])
          | c :: w =>
            have hw : w.length < s.length := by have := quote.2; simp [h''] at this; omega
            if c = '"' then do
              let (ms, f) ← readMembers depth w
              return (member :: ms, f.weaken (Nat.le_of_lt hw))
            else if c = '}' then .error (.within .trailingComma (c :: w))
            else .error (.within .keyNotString (c :: w))
        else .error (.within .expectedCommaOrBrace (c :: u))
termination_by (s.length, 0)
end

/-- The value of a JSON text, or the first fault of the text. -/
def Value.ofText (s : Text) : Except Fault Value := do
  let (v, r) ← readValue depthLimit s
  match (skipSpaces r.1).1 with
  | [] => return v
  | t => .error (.within .trailingCharacters t)

end PromqlEditor.Json
