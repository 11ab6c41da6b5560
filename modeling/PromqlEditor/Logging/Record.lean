/-!
# Log records

A record is a message with a level and a target, the part of the program that it comes from. It is
written as one line, plain or with colours.
-/

namespace PromqlEditor.Logging

/-! ## Levels -/

/-- How important a record is, the most important level first. -/
inductive Level where
  | error
  | warn
  | info
  | debug
  | trace
deriving DecidableEq, Repr

namespace Level

/-- The place of a level, counted from one for the most important. -/
def rank : Level → Nat
  | .error => 1
  | .warn => 2
  | .info => 3
  | .debug => 4
  | .trace => 5

/-- The name of a level, five columns wide. -/
def label : Level → String
  | .error => "ERROR"
  | .warn => " WARN"
  | .info => " INFO"
  | .debug => "DEBUG"
  | .trace => "TRACE"

/-- The number of a level's colour on a terminal. -/
def colour : Level → String
  | .error => "31"
  | .warn => "33"
  | .info => "32"
  | .debug => "34"
  | .trace => "35"

end Level

/-! ## Records -/

/-- One message. -/
structure Record where
  level : Level
  target : String
  message : String
deriving DecidableEq, Repr

/-- The line of a record, with a time stamp in front and a line break at the end. -/
def Record.line (time : String) (r : Record) : String :=
  "[" ++ time ++ "] " ++ r.level.label ++ " " ++ r.target ++ ": " ++ r.message ++ "\n"

/-- A text between the marks that switch a way of writing on and off on a terminal. -/
def styled (style text : String) : String := "\x1b[" ++ style ++ "m" ++ text ++ "\x1b[0m"

/-- The line of a record in colours: all but level and message are dim. -/
def Record.colouredLine (time : String) (r : Record) : String :=
  styled "2" ("[" ++ time ++ "]") ++ " " ++ styled r.level.colour r.level.label ++ " " ++
    styled "2" r.target ++ styled "2" ":" ++ " " ++ r.message ++ "\n"

end PromqlEditor.Logging
