import PromqlEditor.Logging.Directive

/-!
# Filters

A filter selects the records that are written. It is a list of directives, of which the most
specific that concerns a record decides on it; a record that none concerns is not written. A user
writes the directives of a filter with commas between them.
-/

namespace PromqlEditor.Logging

/-- Which records are written. -/
structure Filter where
  directives : List Directive
deriving DecidableEq, Repr

namespace Filter

/-- The filter that lets nothing pass. -/
def nothing : Filter := ⟨[]⟩

/-- The filter for the records of a level and of more important ones. -/
def upTo (level : Level) : Filter := ⟨[{ threshold := .upTo level }]⟩

/-- Whether a filter lets a record pass. -/
def passes (f : Filter) (r : Record) : Bool :=
  (Directive.mostSpecific? (f.directives.filter (·.concerns r))).any (·.threshold.admits r.level)

@[simp] theorem passes_nothing (r : Record) : nothing.passes r = false := rfl

@[simp] theorem passes_upTo (level : Level) (r : Record) :
    (upTo level).passes r = decide (r.level.rank ≤ level.rank) := rfl

/-! ## Reading -/

/-- The texts between commas. -/
def splitAtCommas : Text → List Text
  | [] => [[]]
  | c :: t => if c == ',' then [] :: splitAtCommas t else (splitAtCommas t).modifyHead (c :: ·)

/-- The texts of the directives in a text. Empty texts between commas do not count. -/
def directiveTexts (s : String) : List Text :=
  (splitAtCommas s.toList).filter (!·.isEmpty)

/-- The filter of some directives; without any, errors pass. -/
def ofDirectives (ds : List Directive) : Filter := if ds.isEmpty then upTo .error else ⟨ds⟩

/-- The filter of the directives in a text, without those that are none. -/
def ofText (s : String) : Filter :=
  ofDirectives ((directiveTexts s).filterMap fun t => (Directive.ofText t).toOption)

/-- What `ofText` leaves out, and why. -/
def ignored (s : String) : List (Text × Directive.Fault) :=
  (directiveTexts s).filterMap fun t =>
    match Directive.ofText t with
    | .ok _ => none
    | .error e => some (t, e)

/-- The filter of the directives in a text, if all of them are directives. -/
def ofWellFormed? (s : String) : Option Filter :=
  ofDirectives <$> (directiveTexts s).mapM fun t => (Directive.ofText t).toOption

/-! ## Filters in use -/

/-- The filter for the terminal: what the user asks for, else what the environment says, if that
makes sense, else information and all that is more important. -/
def forTerminal (asked fromEnvironment : Option String) : Filter :=
  match asked with
  | some s => ofText s
  | none => (fromEnvironment.bind ofWellFormed?).getD (upTo .info)

/-- The filter for session logs. -/
def forSessionLog : Filter := upTo .debug

end Filter

end PromqlEditor.Logging
