import PromqlEditor.Text.Basic

/-!
# Faults of JSON texts

Why a text is no JSON and where that shows. A reader that finds a fault knows what it has not read
yet, so a `Fault` says how many bytes are left; `Fault.place` turns that into the line and the
byte column that a message shows.
-/

namespace PromqlEditor.Json

/-- What the text broke off in. -/
inductive Unfinished where
  | value
  | list
  | object
  | string
deriving DecidableEq, Repr

/-- Why a text is not JSON. -/
inductive Cause where
  | endOfText (inside : Unfinished)
  | expectedValue
  | expectedWord
  | expectedColon
  | expectedCommaOrBracket
  | expectedCommaOrBrace
  | trailingComma
  | trailingCharacters
  | keyNotString
  | invalidNumber
  | numberOutOfRange
  | invalidEscape
  | controlCharacter
  | loneSurrogate
  | unfinishedPair
  | tooDeep
deriving DecidableEq, Repr

/-- The text of a cause. -/
def Cause.message : Cause → String
  | .endOfText .value => "EOF while parsing a value"
  | .endOfText .list => "EOF while parsing a list"
  | .endOfText .object => "EOF while parsing an object"
  | .endOfText .string => "EOF while parsing a string"
  | .expectedValue => "expected value"
  | .expectedWord => "expected ident"
  | .expectedColon => "expected `:`"
  | .expectedCommaOrBracket => "expected `,` or `]`"
  | .expectedCommaOrBrace => "expected `,` or `\x7d`"
  | .trailingComma => "trailing comma"
  | .trailingCharacters => "trailing characters"
  | .keyNotString => "key must be a string"
  | .invalidNumber => "invalid number"
  | .numberOutOfRange => "number out of range"
  | .invalidEscape => "invalid escape"
  | .controlCharacter => "control character (\\u0000-\\u001F) found while parsing a string"
  | .loneSurrogate => "lone leading surrogate in hex escape"
  | .unfinishedPair => "unexpected end of hex escape"
  | .tooDeep => "recursion limit exceeded"

/-- A cause, and the number of bytes after the place where it shows. -/
structure Fault where
  cause : Cause
  remaining : Nat
deriving DecidableEq, Repr

namespace Fault

/-- The fault of a reader that stands before `rest`. -/
def before (cause : Cause) (rest : Text) : Fault := ⟨cause, rest.size⟩

/-- The fault of a reader that has taken one byte of `rest`, if there was one. -/
def within (cause : Cause) (rest : Text) : Fault := ⟨cause, rest.size - 1⟩

/-- The line of a fault in a text, counted from one, and the number of bytes of that line that are
before it. -/
def place (f : Fault) (t : Text) : Nat × Nat :=
  let offset := t.size - f.remaining
  let read := t.before offset
  let lastLine := (read.reverse.takeWhile (· != '\n')).reverse
  (1 + read.count '\n', offset - Text.size (read.take (read.length - lastLine.length)))

/-- The message of a fault in a text. -/
def message (f : Fault) (t : Text) : String :=
  let (line, column) := f.place t
  f.cause.message ++ " at line " ++ toString line ++ " column " ++ toString column

end Fault

/-- What is left of a text once something has been read off it. -/
abbrev Rest (s : Text) := { r : Text // r.length < s.length }

/-- What is left of a text from which something may have been read. -/
abbrev Tail (s : Text) := { r : Text // r.length ≤ s.length }

/-- What is left of a text is also left of a longer one. -/
def Rest.weaken {s t : Text} (h : s.length ≤ t.length) (r : Rest s) : Rest t :=
  ⟨r.1, Nat.lt_of_lt_of_le r.2 h⟩

/-- What may be left of a text is certainly left of a longer one. -/
def Tail.rest {s t : Text} (h : s.length < t.length) (r : Tail s) : Rest t :=
  ⟨r.1, Nat.lt_of_le_of_lt r.2 h⟩

end PromqlEditor.Json
