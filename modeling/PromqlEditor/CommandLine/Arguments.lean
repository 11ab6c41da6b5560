import PromqlEditor.Text.Quoted
import PromqlEditor.Decimal.Count

/-!
# Command-line arguments

What a user can ask of the program on its command line. General options stand before the command
and a command's own ones after it. An argument that starts with a dash is an option, unless it is
a lone dash or comes after `--`; the value of an option is the next argument, or follows `=`, or,
for an option of one letter, follows the letter. No option may be given twice.
-/

namespace PromqlEditor.CommandLine

/-! ## Commands -/

/-- What the program is to do. -/
inductive Command where
  /-- Print the category of each of some kinds of nodes. -/
  | classify (kinds : List String)
  /-- Print the groups of the table. -/
  | groups
  /-- Print the legend. -/
  | legend
  /-- Print the suggestions for a query, at an offset that is its end if not given, with options
  that may come from a file. -/
  | complete (query : String) (offset : Option Nat) (optionsFile : Option String)
deriving DecidableEq, Repr

/-- The file that a command takes options from, if it names one. -/
def Command.optionsFile? : Command → Option String
  | .complete _ _ file => file
  | _ => none

/-- How a log shows an optional part of a command. -/
def shownOption : Option String → String
  | none => "None"
  | some s => "Some(" ++ s ++ ")"

/-- How a log shows a command. -/
def Command.shown : Command → String
  | .classify kinds =>
    "Classify \x7b node_types: [" ++ ", ".intercalate (kinds.map Text.quoted) ++ "] \x7d"
  | .groups => "Groups"
  | .legend => "Legend"
  | .complete query offset file =>
    "Complete \x7b query: " ++ Text.quoted query ++ ", offset: " ++
      shownOption (offset.map toString) ++ ", config_file: " ++
      shownOption (file.map Text.quoted) ++ " \x7d"

/-- The options that stand before the command. -/
structure General where
  noColour : Bool := false
  logLevel : Option String := none
  logFile : Bool := false
deriving DecidableEq, Repr

/-- What the arguments ask for. -/
inductive Demand where
  | run (general : General) (command : Command)
  | help
  | version
  /-- The arguments make no sense. -/
  | misuse
deriving DecidableEq, Repr

/-! ## Words -/

/-- The form of a single argument. -/
inductive Word where
  /-- `--`, after which nothing is an option. -/
  | escape
  /-- A named option, with the value that follows `=` if there is one. -/
  | long (name : String) (value : Option String)
  /-- An option of one letter, and what follows the letter. -/
  | short (letter : Char) (more : List Char)
  | plain
deriving DecidableEq, Repr

/-- The form of an argument. -/
def Word.ofArgument (s : String) : Word :=
  match s.toList with
  | ['-', '-'] => .escape
  | '-' :: '-' :: cs =>
    let name := String.ofList (cs.takeWhile (· != '='))
    match cs.dropWhile (· != '=') with
    | _ :: value => .long name (some (String.ofList value))
    | [] => .long name none
  | '-' :: c :: cs => .short c cs
  | _ => .plain

/-- The value that an argument of its own gives to the option before it; it may not look like an
option itself. -/
def separateValue? (a : String) : Option String :=
  if Word.ofArgument a = .plain then some a else none

/-- The value that follows the letter of an option, without an equals sign in front. -/
def joinedValue (more : List Char) : String :=
  match more with
  | '=' :: cs => String.ofList cs
  | cs => String.ofList cs

/-! ## Commands and their options -/

/-- Reads the arguments of a command that takes none. -/
def readNothing (general : General) (command : Command) : List String → Demand
  | [] => .run general command
  | a :: rest =>
    match Word.ofArgument a with
    | .escape => if rest.isEmpty then .run general command else .misuse
    | .long "help" none => .help
    | .short 'h' _ => .help
    | _ => .misuse

/-- Reads the kinds to classify, after those already read; there has to be one. -/
def readKinds (general : General) (kinds : List String) : List String → Demand
  | [] => if kinds.isEmpty then .misuse else .run general (.classify kinds)
  | a :: rest =>
    match Word.ofArgument a with
    | .plain => readKinds general (kinds ++ [a]) rest
    | .escape =>
      let kinds := kinds ++ rest
      if kinds.isEmpty then .misuse else .run general (.classify kinds)
    | .long "help" none => .help
    | .short 'h' _ => .help
    | _ => .misuse

/-- What has been read of the arguments of a completion. -/
structure Completion where
  query : Option String := none
  offset : Option Nat := none
  file : Option String := none
deriving DecidableEq, Repr

/-- With the offset that a text writes, if there is none yet. -/
def Completion.withOffset? (c : Completion) (value : String) : Option Completion :=
  if c.offset.isSome then none
  else (readCount? value.toList).map fun n => { c with offset := some n }

/-- With the options file of a name, if there is none yet. A name is not empty. -/
def Completion.withFile? (c : Completion) (value : String) : Option Completion :=
  if c.file.isSome || value.isEmpty then none else some { c with file := some value }

/-- With the query, if there is none yet. -/
def Completion.withQuery? (c : Completion) (value : String) : Option Completion :=
  if c.query.isSome then none else some { c with query := some value }

/-- The demand of a completion that has been read to its end. -/
def Completion.demand (general : General) (c : Completion) : Demand :=
  match c.query with
  | some query => .run general (.complete query c.offset c.file)
  | none => .misuse

/-- Reads the arguments of a completion, after those already read. -/
def readCompletion (general : General) (c : Completion) : List String → Demand
  | [] => c.demand general
  | a :: rest =>
    match Word.ofArgument a with
    | .plain =>
      match c.withQuery? a with
      | some c => readCompletion general c rest
      | none => .misuse
    | .escape =>
      match rest with
      | [] => c.demand general
      | [query] => (c.withQuery? query).elim .misuse (·.demand general)
      | _ => .misuse
    | .long "help" none => .help
    | .short 'h' _ => .help
    | .long "offset" (some value) =>
      match c.withOffset? value with
      | some c => readCompletion general c rest
      | none => .misuse
    | .long "offset" none =>
      match rest with
      | [] => .misuse
      | value :: rest =>
        match (separateValue? value).bind c.withOffset? with
        | some c => readCompletion general c rest
        | none => .misuse
    | .long "config" (some value) =>
      match c.withFile? value with
      | some c => readCompletion general c rest
      | none => .misuse
    | .short 'c' (m :: more) =>
      match c.withFile? (joinedValue (m :: more)) with
      | some c => readCompletion general c rest
      | none => .misuse
    | .long "config" none | .short 'c' [] =>
      match rest with
      | [] => .misuse
      | value :: rest =>
        match (separateValue? value).bind c.withFile? with
        | some c => readCompletion general c rest
        | none => .misuse
    | _ => .misuse

/-- The names of the commands. -/
def commandNames : List String := ["classify", "groups", "legend", "complete", "help"]

/-- Reads what follows the name of a command. -/
def readCommand (general : General) (name : String) (rest : List String) : Demand :=
  match name with
  | "classify" => readKinds general [] rest
  | "groups" => readNothing general .groups rest
  | "legend" => readNothing general .legend rest
  | "complete" => readCompletion general {} rest
  | "help" =>
    match rest with
    | [] => .help
    | [topic] => if commandNames.contains topic then .help else .misuse
    | _ => .misuse
  | _ => .misuse

/-- With a level for the log, if there is none yet. -/
def General.withLevel? (g : General) (value : String) : Option General :=
  if g.logLevel.isSome then none else some { g with logLevel := some value }

/-- Reads all arguments, after the general options already read. -/
def readGeneral (general : General) : List String → Demand
  | [] => .misuse
  | a :: rest =>
    match Word.ofArgument a with
    | .plain => readCommand general a rest
    | .long "help" none => .help
    | .short 'h' _ => .help
    | .long "version" none => .version
    | .short 'V' _ => .version
    | .long "no-color" none =>
      if general.noColour then .misuse else readGeneral { general with noColour := true } rest
    | .long "log-file" none =>
      if general.logFile then .misuse else readGeneral { general with logFile := true } rest
    | .long "log-level" (some value) =>
      match general.withLevel? value with
      | some general => readGeneral general rest
      | none => .misuse
    | .long "log-level" none =>
      match rest with
      | [] => .misuse
      | value :: rest =>
        match (separateValue? value).bind general.withLevel? with
        | some general => readGeneral general rest
        | none => .misuse
    | _ => .misuse

/-- What a list of arguments asks for. -/
def Demand.ofArguments (arguments : List String) : Demand := readGeneral {} arguments

end PromqlEditor.CommandLine
