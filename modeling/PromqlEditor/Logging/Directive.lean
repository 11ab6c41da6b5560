import PromqlEditor.Decimal.Count
import PromqlEditor.Logging.Record
import PromqlEditor.Text.Alphanumeric
import PromqlEditor.Text.Blank

/-!
# Filter directives

A directive says how important records have to be, for all records or for those of some targets.
Its full form is `target[span{field}]=threshold`, and each part of it may be missing:

* the threshold is a level by its name, in any case, or by its number, where `off` and zero are
  above all levels; without one all levels pass,
* the target is the beginning of the targets of the records, and a lone word that is no threshold
  is a target,
* the span and the field, which may be followed by `=` and a value, are those that a record needs.

A directive is looked at without the white space at its ends, but its parts are taken out of the
text as it is, from the same byte offsets: white space in front of a directive is part of a lone
word, and spoils a threshold. An offset that falls inside a character there is the start of it.
-/

namespace PromqlEditor.Logging

/-! ## Thresholds -/

/-- How important a record has to be. -/
inductive Threshold where
  /-- No record is important enough. -/
  | off
  /-- Records of the given level and of more important ones are. -/
  | upTo (level : Level)
deriving DecidableEq, Repr

namespace Threshold

/-- Whether a level is important enough. -/
def admits : Threshold → Level → Bool
  | .off, _ => false
  | .upTo least, level => level.rank ≤ least.rank

/-- The thresholds by their numbers. -/
def numbered : List Threshold :=
  [.off, .upTo .error, .upTo .warn, .upTo .info, .upTo .debug, .upTo .trace]

/-- The threshold of a name. -/
def named? (name : String) : Option Threshold :=
  match name with
  | "" | "error" => some (.upTo .error)
  | "off" => some .off
  | "warn" => some (.upTo .warn)
  | "info" => some (.upTo .info)
  | "debug" => some (.upTo .debug)
  | "trace" => some (.upTo .trace)
  | _ => none

/-- The threshold that a text stands for, which may be the empty text. -/
def ofText? (t : Text) : Option Threshold :=
  ((readCount? t).bind (numbered[·]?)).orElse fun _ =>
    named? (String.ofList (t.map Char.toLower))

end Threshold

/-! ## Directives -/

/-- A field that a record needs, and whether it needs a certain value too. -/
structure FieldTest where
  name : Text
  withValue : Bool
deriving DecidableEq, Repr

/-- The name of the field that holds the message of a record, the only one that records have. -/
def messageField : Text := "message".toList

/-- The field test that a text stands for: a name, and a value if `=` follows. -/
def FieldTest.ofText (t : Text) : FieldTest := ⟨t.takeWhile (· != '='), t.contains '='⟩

/-- How important records of some kind have to be. -/
structure Directive where
  target : Option Text := none
  span : Option Text := none
  field : Option FieldTest := none
  threshold : Threshold := .upTo .trace
deriving DecidableEq, Repr

/-- Why a text is no directive. -/
inductive Directive.Fault where
  /-- It has not the form of one. -/
  | form
  /-- What stands for the threshold is none. -/
  | threshold
deriving DecidableEq, Repr

/-- The text of a fault. -/
def Directive.Fault.message : Directive.Fault → String
  | .form => "invalid filter directive"
  | .threshold => "error parsing level filter: expected one of \"off\", \"error\", \"warn\", " ++
      "\"info\", \"debug\", \"trace\", or a number 0-5"

namespace Directive

/-! ## Reading -/

/-- Whether a directive that starts with a target or a threshold may start with a character. -/
def startsWord (c : Char) : Bool := ['-', ':', '_'].contains c || Text.isAlphanumeric c

/-- What there is to see of a directive from byte offset `b` on. -/
def seen (s : Text) (b : Nat) : Text := (Text.trim s).after b

/-- The byte offset of the first of some marks from byte offset `b` on, and what there is to see
from the mark on; nothing if there is no mark. -/
def findMark (s : Text) (b : Nat) (marks : List Char) : Nat × Text :=
  let t := seen s b
  (b + Text.size (t.takeWhile (!marks.contains ·)), t.dropWhile (!marks.contains ·))

/-- A directive with the threshold that is written from byte offset `b` on. If nothing is, it stays
as it is. -/
def readThreshold (d : Directive) (s : Text) (b : Nat) : Except Fault Directive :=
  let t := s.after b
  if t.isEmpty then .ok d
  else match Threshold.ofText? t with
    | some threshold => .ok { d with threshold }
    | none => .error .threshold

/-- A directive with what follows its bracket, at byte offset `b`. -/
def readEnd (d : Directive) (s : Text) (b : Nat) : Except Fault Directive :=
  match seen s b with
  | [] => .ok d
  | '=' :: _ => d.readThreshold s (b + 1)
  | _ => .error .form

/-- A directive with the field that is written from byte offset `b` on, and what follows. -/
def readField (d : Directive) (s : Text) (b : Nat) : Except Fault Directive :=
  match findMark s b ['}'] with
  | (e, '}' :: ']' :: _) =>
    if e = b then .error .form
    else { d with field := some (.ofText (s.slice b e)) }.readEnd s (e + 2)
  | _ => .error .form

/-- A directive with the span that is written from byte offset `b` on, behind the opening bracket,
and what follows. -/
def readSpan (d : Directive) (s : Text) (b : Nat) : Except Fault Directive :=
  match findMark s b [']', '{'] with
  | (e, ']' :: _) => { d with span := some (s.slice b e) }.readEnd s (e + 1)
  | (e, '{' :: _) =>
    { d with span := if e = b then none else some (s.slice b e) }.readField s (e + 1)
  | _ => .error .form

/-- The directive that a text stands for. -/
def ofText (s : Text) : Except Fault Directive :=
  match Text.trim s with
  | [] => .error .form
  | '[' :: _ => readSpan {} s 1
  | c :: _ =>
    if !startsWord c then .error .form
    else match findMark s 0 ['=', '['] with
      | (e, '=' :: _) => readThreshold { target := some (s.slice 0 e) } s (e + 1)
      | (e, '[' :: _) => readSpan { target := some (s.slice 0 e) } s (e + 1)
      | _ =>
        match Threshold.ofText? s with
        | some threshold => .ok { threshold }
        | none => .ok { target := some s }

/-! ## Meaning -/

/-- Whether a directive concerns a record: the record has its target and its field. Records lie in
no span, and a value is only looked for in spans. -/
def concerns (d : Directive) (r : Record) : Bool :=
  d.span.isNone && d.field.all (fun f => f.name == messageField && !f.withValue) &&
    d.target.all (·.isPrefixOf r.target.toList)

/-- Whether a directive is less specific than another one: it has a shorter target or none, or,
with targets of one length, it alone has no field. -/
def isLessSpecific (d e : Directive) : Bool :=
  let length (t : Option Text) : Nat := t.elim 0 (1 + Text.size ·)
  length d.target < length e.target ||
    (length d.target == length e.target && d.field.isNone && e.field.isSome)

/-- The most specific of some directives, and of several ones the last. -/
def mostSpecific? : List Directive → Option Directive
  | [] => none
  | d :: ds =>
    match mostSpecific? ds with
    | none => some d
    | some e => if e.isLessSpecific d then some d else some e

end Directive

end PromqlEditor.Logging
