import PromqlEditor.Json.Text

/-!
# What JSON texts write

Which values texts write, said as relations between the two and not as a way of reading. A text is
put together from its parts: numbers from digits, strings from characters and escapes, lists and
objects from the texts of what is in them. White space may stand around every value and every key.
-/

namespace PromqlEditor.Json

/-! ## Numbers -/

/-- Whether a text consists of decimal digits, of one or more. -/
def IsDigits (t : Text) : Prop := t ≠ [] ∧ ∀ c ∈ t, c.isDigit = true

/-- Whether a text is the whole part of a number: decimal digits, of which the first is not zero if
there are others. -/
def IsWhole (t : Text) : Prop := IsDigits t ∧ (t.head? = some '0' → t = ['0'])

/-- What becomes of a number `n` behind which more digits are written, as many as fit below a
bound: `m`, if those that fit are `taken`, and `dropped` come after them. -/
structure Fills (bound n : Nat) (taken dropped : Text) (m : Nat) : Prop where
  eq : m = n * Nat.pow 10 taken.length + decimalValue taken
  lt : m < bound
  bound_le : ∀ c ∈ dropped.head?, bound ≤ 10 * m + digitValue c

/-- The signs of an exponent that makes a number smaller, or larger. -/
def exponentSigns (down : Bool) : List Text := if down then [['-']] else [[], ['+']]

/-- A binary number with the given sign. -/
def signed (negative : Bool) (x : Float) : Float := if negative then -x else x

/-- What a significand with a power of ten becomes by a further exponent `n`. One that is too large
leaves nothing of the number, or makes it too large itself. -/
inductive IsRaised (negative : Bool) (significand : Nat) (exponent : Int) (down : Bool) (n : Nat) :
    Value → Prop
  | scaled {x : Float} (hn : n < exponentBound)
      (hx : scaled? significand (if down then exponent - n else exponent + n) = some x) :
      IsRaised negative significand exponent down n (.real (signed negative x))
  | vanishing (hn : exponentBound ≤ n) (hzero : significand = 0 ∨ down = true) :
      IsRaised negative significand exponent down n (.real (signed negative 0.0))

/-- Whether a text behind a significand with a power of ten makes it a value: it is the exponent of
the number, or there is none. -/
inductive WritesScale (negative : Bool) (significand : Nat) (exponent : Int) : Text → Value → Prop
  | none {x : Float} (hx : scaled? significand exponent = some x) :
      WritesScale negative significand exponent [] (.real (signed negative x))
  | exponent {mark : Char} {sign digits : Text} {down : Bool} {v : Value}
      (hmark : mark = 'e' ∨ mark = 'E') (hsign : sign ∈ exponentSigns down)
      (hdigits : IsDigits digits)
      (hv : IsRaised negative significand exponent down (decimalValue digits) v) :
      WritesScale negative significand exponent (mark :: sign ++ digits) v

/-- Whether a text behind the whole part of a number makes it a value. Of the whole part `n` is what
fits into 64 bits, and `dropped` is how many digits do not. -/
inductive WritesNumberEnd (negative : Bool) (n dropped : Nat) : Text → Value → Prop
  | whole (hdropped : dropped = 0) :
      WritesNumberEnd negative n dropped [] (wholeNumber negative n)
  | scale {t : Text} {v : Value} (hreal : t ≠ [] ∨ dropped ≠ 0)
      (hscale : WritesScale negative n dropped t v) : WritesNumberEnd negative n dropped t v
  | fraction {taken more t : Text} {m : Nat} {v : Value} (hdigits : IsDigits (taken ++ more))
      (hfills : Fills wordBound n taken more m)
      (hscale : WritesScale negative m (dropped - taken.length) t v) :
      WritesNumberEnd negative n dropped ('.' :: taken ++ more ++ t) v

/-- Whether a text is that of a number, without its sign. -/
inductive WritesNumber (negative : Bool) : Text → Value → Prop
  | mk {taken more t : Text} {n : Nat} {v : Value} (hwhole : IsWhole (taken ++ more))
      (hfills : Fills wordBound 0 taken more n)
      (hend : WritesNumberEnd negative n more.length t v) :
      WritesNumber negative (taken ++ more ++ t) v

/-! ## Strings -/

/-- Whether a text stands for a character in a numbered escape, from behind its `u`: as the number
of the character, or as the two halves of a surrogate pair. -/
inductive WritesNumbered : Text → Char → Prop
  | unit {a b c d x : Char} (hx : hexQuad? a b c d = some x.toNat) : WritesNumbered [a, b, c, d] x
  | pair {a b c d a' b' c' d' x : Char} {n : Nat} (hx : x.toNat = 0x10000 + n)
      (hhigh : hexQuad? a b c d = some (0xD800 + n / 0x400))
      (hlow : hexQuad? a' b' c' d' = some (0xDC00 + n % 0x400)) :
      WritesNumbered [a, b, c, d, '\\', 'u', a', b', c', d'] x

/-- Whether a text between quotes stands for a string. -/
inductive WritesString : Text → Text → Prop
  | nil : WritesString [] []
  | plain {c : Char} {t s : Text} (hcontrol : 0x20 ≤ c.toNat) (hquote : c ≠ '"')
      (hescape : c ≠ '\\') (ht : WritesString t s) : WritesString (c :: t) (c :: s)
  | short {c x : Char} {t s : Text} (hx : shortEscape? c = some x) (ht : WritesString t s) :
      WritesString ('\\' :: c :: t) (x :: s)
  | numbered {u t s : Text} {x : Char} (hx : WritesNumbered u x) (ht : WritesString t s) :
      WritesString ('\\' :: 'u' :: u ++ t) (x :: s)

/-! ## Values -/

/-- Whether a text consists of blanks. -/
def IsGap (t : Text) : Prop := ∀ c ∈ t, isSpace c = true

/-- Whether a text is a key, in quotes and with blanks around it. -/
inductive WritesKey : Text → String → Prop
  | mk {gap body gap' : Text} {key : String} (hgap : IsGap gap) (hgap' : IsGap gap')
      (hbody : WritesString body key.toList) :
      WritesKey (gap ++ '"' :: body ++ '"' :: gap') key

/-- A member of an object as it is written: the texts of its key and its value, and what they are
the texts of. -/
structure Member where
  keyText : Text
  key : String
  valueText : Text
  value : Value

/-- The text of a member. -/
def Member.text (m : Member) : Text := m.keyText ++ ':' :: m.valueText

/-- Whether a text writes a value in which lists and objects lie at most `depth` deep. -/
inductive Writes : Nat → Text → Value → Prop
  | null {depth : Nat} : Writes depth "null".toList .null
  | isTrue {depth : Nat} : Writes depth "true".toList (.boolean true)
  | isFalse {depth : Nat} : Writes depth "false".toList (.boolean false)
  | number {depth : Nat} {t : Text} {v : Value} (ht : WritesNumber false t v) : Writes depth t v
  | negative {depth : Nat} {t : Text} {v : Value} (ht : WritesNumber true t v) :
      Writes depth ('-' :: t) v
  | text {depth : Nat} {body : Text} {s : String} (hbody : WritesString body s.toList) :
      Writes depth ('"' :: body ++ ['"']) (.text s)
  | emptyList {depth : Nat} {gap : Text} (hgap : IsGap gap) :
      Writes (depth + 1) ('[' :: gap ++ [']']) (.list [])
  | list {depth : Nat} {items : List (Text × Value)} (hne : items ≠ [])
      (hitems : ∀ item ∈ items, Writes depth item.1 item.2) :
      Writes (depth + 1) ('[' :: [','].intercalate (items.map Prod.fst) ++ [']'])
        (.list (items.map Prod.snd))
  | emptyObject {depth : Nat} {gap : Text} (hgap : IsGap gap) :
      Writes (depth + 1) ('{' :: gap ++ ['}']) (.ofMembers [])
  | object {depth : Nat} {members : List Member} (hne : members ≠ [])
      (hkeys : ∀ m ∈ members, WritesKey m.keyText m.key)
      (hvalues : ∀ m ∈ members, Writes depth m.valueText m.value) :
      Writes (depth + 1) ('{' :: [','].intercalate (members.map Member.text) ++ ['}'])
        (.ofMembers (members.map fun m => (m.key, m.value)))
  | padded {depth : Nat} {gap t gap' : Text} {v : Value} (hgap : IsGap gap) (hgap' : IsGap gap')
      (ht : Writes depth t v) : Writes depth (gap ++ t ++ gap') v

end PromqlEditor.Json
