import PromqlEditor.Text.Graphic

/-!
# Quoted text

How messages show a string: between double quotes, with a backslash before quotes and backslashes,
short escapes for the common controls, and the number of every other character that is not
graphic.
-/

namespace PromqlEditor.Text

/-- A character inside double quotes. -/
def escape (c : Char) : List Char :=
  if c == Char.ofNat 0 then ['\\', '0']
  else if c == '\t' then ['\\', 't']
  else if c == '\r' then ['\\', 'r']
  else if c == '\n' then ['\\', 'n']
  else if c == '\\' || c == '"' then ['\\', c]
  else if isGraphic c then [c]
  else "\\u\x7b".toList ++ Nat.toDigits 16 c.toNat ++ ['}']

/-- A string between double quotes. -/
def quoted (s : String) : String := String.ofList ('"' :: s.toList.flatMap escape ++ ['"'])

end PromqlEditor.Text
