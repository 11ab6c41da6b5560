import PromqlEditor.Service.Basic

/-!
# Sessions

A session is the life of services and of all who use them. Nobody has a service itself. A handle
refers to one, and a clone of the handle refers to the same one; an extension keeps references that
were taken from a handle when it was composed, and bundles them with the language. The strategies
lie behind the references, so a change that is made through one of them is seen through all.

A request for suggestions may have to wait. It is then pending, together with the strategy that was
installed when it began, and can be polled until that strategy answers it.
-/

namespace PromqlEditor

/-! ## States -/

/-- A reference to a service. -/
structure Handle where
  service : Nat
deriving DecidableEq, Repr

/-- What the host of an editor is given: the language, and the references through which it asks for
suggestions and for diagnostics. -/
structure Extension where
  language : Language
  completion : Handle
  linter : Handle

/-- The extension that is composed from a handle. -/
def Handle.extension (h : Handle) : Extension := ⟨Language.promql, h, h⟩

/-- A request that waits for the answer of the strategy it began with. -/
structure Pending where
  ticket : Nat
  strategy : CompletionStrategy
  request : Request

/-- The state of a session. Services that nobody has used are new. Requests that began are
numbered, and a pending one is known by its number. -/
structure Session where
  services : Handle → Service := fun _ => Service.initial
  extensions : List Extension := []
  pending : List Pending := []
  begun : Nat := 0
  openGates : List String := []

/-! ## Steps -/

/-- What can be done in a session. Requests name the extension that they go through by its number;
the direct ones ask the strategy that a handle finds installed. -/
inductive Operation where
  | installCompletion (settings : Option CompletionSettings)
  | installLint (settings : Option LintSettings)
  | setCompletion (strategy : CompletionStrategy)
  | setLint (strategy : LintStrategy)
  | apply (settings : Settings)
  | clone
  | compose
  | complete (extension : Nat) (request : Request)
  | completeDirect (request : Request)
  | lint (extension : Nat) (root : Node) (text : Text)
  | lintDirect (root : Node) (text : Text)
  | activeLint (extension : Nat)
  | classify (extension : Nat) (kind : String)
  | begin (extension : Nat) (request : Request)
  | poll (ticket : Nat)
  | release (gate : String)

/-- An operation and the handle it is made through. -/
structure Step where
  handle : Handle
  operation : Operation

/-- What comes of a step. -/
inductive Reply where
  | done
  | refused (e : InstallError)
  | handle (h : Handle)
  /-- The number of a new extension. -/
  | composed (extension : Nat)
  | suggestions (answer : Except String (Option Suggestions))
  | diagnostics (answer : Except String (List Diagnostic))
  /-- The strategy for linting that an extension finds installed, by name, settings and revision. -/
  | activeLint (name : String) (settings : LintSettings) (revision : Nat)
  | category (c : Option Category)
  /-- The request would have to wait at a gate. -/
  | waiting
  /-- The request waits at a gate, and can be polled under its number. -/
  | pending (ticket : Nat)
  /-- There is no extension or no pending request of that number. -/
  | unknown

namespace Session

/-- The session with another state of the service that a handle refers to. -/
def put (s : Session) (h : Handle) (service : Service) : Session :=
  { s with services := fun g => if g = h then service else s.services g }

/-- The reply of a strategy to a request that is not kept waiting. -/
def reply (s : Session) (strategy : CompletionStrategy) (r : Request) : Reply :=
  if strategy.isOpen r s.openGates then .suggestions (strategy.answer r) else .waiting

/-- The session after a change of the service that a handle refers to. -/
def change (s : Session) (h : Handle) : Service × Option InstallError → Session × Reply
  | (service, none) => (s.put h service, .done)
  | (service, some e) => (s.put h service, .refused e)

/-- Begins a request. It is pending if its strategy cannot answer it yet. -/
def start (s : Session) (h : Handle) (r : Request) : Session × Reply :=
  let strategy := (s.services h).completion.strategy
  let ticket := s.begun
  let s := { s with begun := ticket + 1 }
  if strategy.isOpen r s.openGates then (s, .suggestions (strategy.answer r))
  else ({ s with pending := ⟨ticket, strategy, r⟩ :: s.pending }, .pending ticket)

/-- Asks a pending request again. It is no longer pending once it is answered. -/
def resume (s : Session) (ticket : Nat) : Session × Reply :=
  match s.pending.find? (·.ticket == ticket) with
  | none => (s, .unknown)
  | some p =>
    if p.strategy.isOpen p.request s.openGates then
      ({ s with pending := s.pending.filter (·.ticket != ticket) },
        .suggestions (p.strategy.answer p.request))
    else (s, .pending ticket)

/-- Does something through an extension, if there is one of that number. -/
def through (s : Session) (extension : Nat) (f : Extension → Session × Reply) : Session × Reply :=
  match s.extensions[extension]? with
  | some e => f e
  | none => (s, .unknown)

/-- Makes an operation through a handle. -/
def perform (s : Session) (h : Handle) : Operation → Session × Reply
  | .installCompletion settings => s.change h ((s.services h).installCompletion settings)
  | .installLint settings => s.change h ((s.services h).installLint settings)
  | .setCompletion strategy => s.change h ((s.services h).setCompletion strategy, none)
  | .setLint strategy => s.change h ((s.services h).setLint strategy, none)
  | .apply settings => s.change h ((s.services h).apply settings)
  | .clone => (s, .handle h)
  | .compose =>
    ({ s with extensions := s.extensions ++ [h.extension] }, .composed s.extensions.length)
  | .complete extension r =>
    s.through extension fun e => (s, s.reply (s.services e.completion).completion.strategy r)
  | .completeDirect r => (s, s.reply (s.services h).completion.strategy r)
  | .lint extension root t =>
    s.through extension fun e => (s, .diagnostics ((s.services e.linter).diagnose root t))
  | .lintDirect root t => (s, .diagnostics ((s.services h).lint.strategy.answer root t))
  | .activeLint extension =>
    s.through extension fun e =>
      let slot := (s.services e.linter).lint
      (s, .activeLint slot.strategy.name slot.strategy.settings slot.revision)
  | .classify extension kind =>
    s.through extension fun e => (s, .category (e.language.category? kind))
  | .begin extension r => s.through extension fun e => s.start e.completion r
  | .poll ticket => s.resume ticket
  | .release gate => ({ s with openGates := gate :: s.openGates }, .done)

/-- Makes a step. -/
def step (s : Session) (x : Step) : Session × Reply := s.perform x.handle x.operation

/-- Makes steps one after the other: the session at the end and the reply to each of them. -/
def run (s : Session) : List Step → Session × List Reply
  | [] => (s, [])
  | x :: xs =>
    let (s', reply) := s.step x
    let (s'', replies) := run s' xs
    (s'', reply :: replies)

end Session

end PromqlEditor
