import PromqlEditor.Settings.Basic

/-!
# Reading options

An editor passes settings as a JSON value, its options. Each record of the settings may be written
in two ways: as an object whose members are its fields by name, or as a list of its fields in
order. A field that is missing has its default, a member with an unknown name is ignored, and a
list may not be longer than the record. Options that are null, or not given, are the defaults.

The members of an object are read in their order, which is that of their names, and items of a list
from left to right; the first fault is the one reported.
-/

namespace PromqlEditor

/-! ## Faults -/

/-- What a place in the options has to hold. -/
inductive Expected where
  | settings
  | completionSettings
  | lintSettings
  | count
  | sequence
  | text
  | boolean
  | severity
  | severityName
  | nothing
deriving DecidableEq, Repr

/-- How a message names what was expected. -/
def Expected.description : Expected → String
  | .settings => "struct PluginConfig"
  | .completionSettings => "struct CompleteConfiguration"
  | .lintSettings => "struct LintConfiguration"
  | .count => "usize"
  | .sequence => "a sequence"
  | .text => "a string"
  | .boolean => "a boolean"
  | .severity => "string or map"
  | .severityName => "map with a single key"
  | .nothing => "unit"

/-- Why options are not settings. -/
inductive OptionsError where
  /-- A value of another kind than expected. -/
  | wrongKind (found : Json.Value.Kind) (expected : Expected)
  /-- A value of the right kind that is out of range. -/
  | wrongValue (found : Json.Value.Kind) (expected : Expected)
  /-- A list with more items than the record has fields. -/
  | tooManyFields (count : Nat)
  /-- A severity that does not exist. -/
  | unknownSeverity (name : String)

/-- The text of an error. -/
def OptionsError.message : OptionsError → String
  | .wrongKind found expected =>
    "invalid type: " ++ found.description ++ ", expected " ++ expected.description
  | .wrongValue found expected =>
    "invalid value: " ++ found.description ++ ", expected " ++ expected.description
  | .tooManyFields n =>
    "invalid length " ++ toString n ++ ", expected fewer elements in array"
  | .unknownSeverity name =>
    "unknown variant `" ++ name ++ "`, expected `error` or `warning`"

namespace Options

open Json (Value)

/-! ## Single values -/

/-- Reads a value that may be null. -/
def readOptional {α : Type} (read : Value → Except OptionsError α) :
    Value → Except OptionsError (Option α)
  | .null => .ok none
  | v => some <$> read v

/-- Reads a whole number of at most 64 bits. -/
def readCount : Value → Except OptionsError Nat
  | .integer n =>
    if 0 ≤ n ∧ n < wordBound then .ok n.toNat else .error (.wrongValue (.integer n) .count)
  | v => .error (.wrongKind v.kind .count)

/-- Reads a text. -/
def readText : Value → Except OptionsError String
  | .text s => .ok s
  | v => .error (.wrongKind v.kind .text)

/-- Reads a list of texts. -/
def readTexts : Value → Except OptionsError (List String)
  | .list items => items.mapM readText
  | v => .error (.wrongKind v.kind .sequence)

/-- Reads a truth value. -/
def readBoolean : Value → Except OptionsError Bool
  | .boolean b => .ok b
  | v => .error (.wrongKind v.kind .boolean)

/-- Reads the name of a severity. -/
def readSeverityName (name : String) : Except OptionsError Severity :=
  match Severity.ofName? name with
  | some s => .ok s
  | none => .error (.unknownSeverity name)

/-- Reads a severity: its name, or an object in which its name is the only key and stands for
nothing. -/
def readSeverity : Value → Except OptionsError Severity
  | .text name => readSeverityName name
  | .object [(name, v)] => do
    let s ← readSeverityName name
    match v with
    | .null => return s
    | v => .error (.wrongKind v.kind .nothing)
  | .object _ => .error (.wrongValue .object .severityName)
  | v => .error (.wrongKind v.kind .severity)

/-! ## Records -/

/-- A field of a record: its name and how a value for it is put into the record. -/
structure Field (σ : Type) where
  name : String
  set : Value → σ → Except OptionsError σ

/-- Puts the items of a list into the fields of a record, in order. -/
def setInOrder {σ : Type} : List (Field σ) → List Value → σ → Except OptionsError σ
  | f :: fs, v :: vs, s => do setInOrder fs vs (← f.set v s)
  | _, _, s => .ok s

/-- Puts the members of an object into the fields of a record, by name. -/
def setByName {σ : Type} (fields : List (Field σ)) :
    List (String × Value) → σ → Except OptionsError σ
  | [], s => .ok s
  | (name, v) :: ms, s =>
    match fields.find? (·.name == name) with
    | some f => do setByName fields ms (← f.set v s)
    | none => setByName fields ms s

/-- Reads a record that starts out as `defaults`. -/
def readRecord {σ : Type} (expected : Expected) (fields : List (Field σ)) (defaults : σ) :
    Value → Except OptionsError σ
  | .list items => do
    let s ← setInOrder fields items defaults
    if items.length ≤ fields.length then return s else .error (.tooManyFields items.length)
  | .object members => setByName fields members defaults
  | v => .error (.wrongKind v.kind expected)

/-- The fields of completion settings. -/
def completionFields : List (Field CompletionSettings) :=
  [⟨"maxItems", fun v s => do return { s with maxItems := ← readOptional readCount v }⟩,
    ⟨"metricNames", fun v s => do return { s with metricNames := ← readTexts v }⟩]

/-- The fields of lint settings. -/
def lintFields : List (Field LintSettings) :=
  [⟨"enabled", fun v s => do return { s with enabled := ← readBoolean v }⟩,
    ⟨"severity", fun v s => do return { s with severity := ← readSeverity v }⟩]

/-- Reads the completion section. -/
def readCompletion : Value → Except OptionsError CompletionSettings :=
  readRecord .completionSettings completionFields {}

/-- Reads the lint section. -/
def readLint : Value → Except OptionsError LintSettings :=
  readRecord .lintSettings lintFields {}

/-- The sections of the settings. -/
def sections : List (Field Settings) :=
  [⟨"completion", fun v s => do return { s with completion := ← readOptional readCompletion v }⟩,
    ⟨"lint", fun v s => do return { s with lint := ← readOptional readLint v }⟩]

/-- Reads settings. -/
def readSettings : Value → Except OptionsError Settings :=
  readRecord .settings sections {}

end Options

/-- The settings that options stand for. -/
def Settings.ofOptions : Option Json.Value → Except OptionsError Settings
  | none => .ok {}
  | some .null => .ok {}
  | some v => Options.readSettings v

end PromqlEditor
