import PromqlEditor.Completion.Basic
import PromqlEditor.Diagnostic
import PromqlEditor.Json.Value

/-!
# Settings

What a user can set: one section for completion and one for linting. A section that is not there
leaves its service at the defaults. `Settings.toJson` writes settings as the JSON value that stands
for them.
-/

namespace PromqlEditor

/-- The settings of linting: whether it is on, and how serious its diagnostics are. -/
structure LintSettings where
  enabled : Bool := true
  severity : Severity := .error
deriving DecidableEq, Repr

/-- The settings of both services. -/
structure Settings where
  completion : Option CompletionSettings := none
  lint : Option LintSettings := none
deriving DecidableEq, Repr

/-- The JSON value of completion settings. -/
def CompletionSettings.toJson (s : CompletionSettings) : Json.Value :=
  .object
    [("maxItems", s.maxItems.elim .null fun n => .integer n),
      ("metricNames", .list (s.metricNames.map .text))]

/-- The JSON value of lint settings. -/
def LintSettings.toJson (s : LintSettings) : Json.Value :=
  .object [("enabled", .boolean s.enabled), ("severity", .text s.severity.name)]

/-- The JSON value of settings; a section that is not there is null. -/
def Settings.toJson (s : Settings) : Json.Value :=
  .object
    [("completion", s.completion.elim .null CompletionSettings.toJson),
      ("lint", s.lint.elim .null LintSettings.toJson)]

end PromqlEditor
