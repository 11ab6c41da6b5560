import PromqlEditor.Proofs.Service.AllOrNothing
import PromqlEditor.Proofs.Service.InFlight

/-!
# Completion and linting do not interfere

A run in which everything that is about linting is left out goes on as before for completion, and
the other way round (`services_do_not_interfere`): all steps that are left are replied to as they
were, requests in flight included, and at every moment the slots hold the same strategies, put in
place equally often. Settings are applied in both runs. They change both slots, but whether they are
refused depends on neither.

The two runs are compared step by step. Sessions that agree on what one service needs still agree
after a step that both make, and after a step about the other service that only the first one makes
(`Unwinds`); a whole run is taken from there by induction (`Unwinds.run`).
-/

namespace PromqlEditor

namespace Service

/-- Whether settings are refused does not depend on what is installed. -/
theorem snd_installCompletion (s s' : Service) (settings : Option CompletionSettings) :
    (s.installCompletion settings).2 = (s'.installCompletion settings).2 := by
  rw [installCompletion, installCompletion]
  split <;> rfl

theorem snd_apply (s s' : Service) (settings : Settings) :
    (s.apply settings).2 = (s'.apply settings).2 := by
  rw [apply_eq, apply_eq]
  split <;> rfl

end Service

namespace Session

/-! ## Two runs -/

/-- Whether a relation between sessions is kept by the steps that both make, which then get the same
reply, and by the others, which only the first session makes. -/
structure Unwinds (kept : Step → Bool) (R : Session → Session → Prop) : Prop where
  both : ∀ {s s' : Session} {x : Step}, R s s' → kept x = true →
    R (s.step x).1 (s'.step x).1 ∧ (s.step x).2 = (s'.step x).2
  first : ∀ {s s' : Session} {x : Step}, R s s' → kept x = false → R (s.step x).1 s'

/-- Whether steps of a kind are all that matters to them and to something that is seen of the
session: without the others they get the same replies, and at every moment the same is seen. -/
structure Unaffected {α : Type} (kept : Step → Bool) (seen : Session → α) (xs : List Step) :
    Prop where
  replies_eq : ({} : Session).repliesTo kept xs = (({} : Session).run (xs.filter kept)).2
  seen_eq : ∀ k, seen (after (xs.take k)) = seen (after ((xs.take k).filter kept))

section

variable {kept : Step → Bool} {R : Session → Session → Prop}

theorem Unwinds.run (hR : Unwinds kept R) {s s' : Session} (hs : R s s') (xs : List Step) :
    s.repliesTo kept xs = (s'.run (xs.filter kept)).2 ∧
      R (s.run xs).1 (s'.run (xs.filter kept)).1 := by
  induction xs generalizing s s' with
  | nil => exact ⟨rfl, hs⟩
  | cons x xs ih =>
    rw [repliesTo_cons]
    cases hx : kept x with
    | true =>
      obtain ⟨hstep, hreply⟩ := hR.both hs hx
      obtain ⟨hreplies, hrun⟩ := ih hstep
      rw [List.filter_cons_of_pos hx, if_pos rfl, hreplies, hreply]
      exact ⟨rfl, hrun⟩
    | false =>
      -- only the first session moves, and the second one has to be related to it still
      rw [List.filter_cons_of_neg (by simp [hx]), if_neg Bool.false_ne_true]
      exact ih (hR.first hs hx)

/-- What related sessions have in common is unaffected by the steps that are left out. -/
theorem Unwinds.unaffected (hR : Unwinds kept R) (hnew : R {} {}) {α : Type} {seen : Session → α}
    (hseen : ∀ {s s' : Session}, R s s' → seen s = seen s') (xs : List Step) :
    Unaffected kept seen xs where
  replies_eq := (hR.run hnew xs).1
  seen_eq k := hseen (hR.run hnew (xs.take k)).2

end

section

variable {s s' : Session}

/-- What is true of two outcomes without an extension, and through every extension, is true through
the extension of a number if both sessions have the same extensions. -/
theorem through_congr {P : Session × Reply → Session × Reply → Prop}
    (hs : s.extensions = s'.extensions) {f g : Extension → Session × Reply}
    (hnone : P (s, .unknown) (s', .unknown)) (hsome : ∀ e, P (f e) (g e)) (extension : Nat) :
    P (s.through extension f) (s'.through extension g) := by
  rw [through, through, hs]
  split
  · exact hsome _
  · exact hnone

theorem snd_change (s : Session) (h : Handle) (c : Service × Option InstallError) :
    (s.change h c).2 = c.2.elim .done .refused := by
  obtain ⟨_, _ | _⟩ := c <;> rfl

/-! ## Completion without linting -/

/-- Whether two sessions are the same to all who ask for suggestions. -/
structure AgreeOnCompletion (s s' : Session) : Prop where
  completion : ∀ h, (s.services h).completion = (s'.services h).completion
  extensions : s.extensions = s'.extensions
  openGates : s.openGates = s'.openGates
  pending : s.pending = s'.pending
  begun : s.begun = s'.begun

/-- Whether two outcomes are the same to all whose requests are pending, and to the one who gets the
reply. -/
structure SameToRequests (a b : Session × Reply) : Prop where
  pending : a.1.pending = b.1.pending
  begun : a.1.begun = b.1.begun
  reply : a.2 = b.2

namespace AgreeOnCompletion

theorem change (hs : AgreeOnCompletion s s') (h : Handle) {c c' : Service × Option InstallError}
    (hc : c.2 = c'.2) : SameToRequests (s.change h c) (s'.change h c') where
  pending := by
    rw [fst_change, fst_change]
    exact hs.pending
  begun := by
    rw [fst_change, fst_change]
    exact hs.begun
  reply := by rw [snd_change, snd_change, hc]

theorem start (hs : AgreeOnCompletion s s') (h : Handle) (r : Request) :
    SameToRequests (s.start h r) (s'.start h r) := by
  simp only [Session.start, hs.completion, hs.openGates, hs.begun]
  split
  · exact ⟨hs.pending, rfl, rfl⟩
  · exact ⟨congrArg (List.cons _) hs.pending, rfl, rfl⟩

theorem resume (hs : AgreeOnCompletion s s') (ticket : Nat) :
    SameToRequests (s.resume ticket) (s'.resume ticket) := by
  simp only [Session.resume, hs.pending, hs.openGates]
  split
  · exact ⟨hs.pending, hs.begun, rfl⟩
  · split
    · exact ⟨rfl, hs.begun, rfl⟩
    · exact ⟨hs.pending, hs.begun, rfl⟩

/-- Sessions that agree treat requests alike in every operation that is not about linting. -/
theorem perform (hs : AgreeOnCompletion s s') (h : Handle) {op : Operation}
    (hop : op.isLint = false) : SameToRequests (s.perform h op) (s'.perform h op) := by
  have same {a b : Reply} (hab : a = b) : SameToRequests (s, a) (s', b) :=
    ⟨hs.pending, hs.begun, hab⟩
  cases op with
  | installCompletion settings => exact hs.change h (Service.snd_installCompletion _ _ settings)
  | setCompletion strategy =>
    rw [Session.perform, Session.perform]
    exact hs.change h rfl
  | apply settings => exact hs.change h (Service.snd_apply _ _ settings)
  | clone => exact same rfl
  | compose =>
    refine ⟨hs.pending, hs.begun, ?_⟩
    rw [Session.perform, Session.perform, hs.extensions]
  | complete extension r =>
    refine through_congr hs.extensions (same rfl) (fun e => same ?_) extension
    rw [reply, reply, hs.completion, hs.openGates]
  | completeDirect r =>
    refine same ?_
    rw [reply, reply, hs.completion, hs.openGates]
  | classify extension kind =>
    exact through_congr hs.extensions (same rfl) (fun e => same rfl) extension
  | begin extension r =>
    exact through_congr hs.extensions (same rfl) (fun e => hs.start e.completion r) extension
  | poll ticket => exact hs.resume ticket
  | release gate => exact ⟨hs.pending, hs.begun, rfl⟩
  | installLint | setLint | lint | lintDirect | activeLint => cases hop

/-- An operation about linting leaves pending requests alone. -/
theorem pending_perform (s : Session) (h : Handle) {op : Operation} (hop : op.isLint = true) :
    (s.perform h op).1.pending = s.pending ∧ (s.perform h op).1.begun = s.begun := by
  cases op with
  | installLint | setLint =>
    rw [Session.perform, fst_change]
    exact ⟨rfl, rfl⟩
  | lint | activeLint =>
    exact through_of (p := fun s' => s'.pending = s.pending ∧ s'.begun = s.begun) ⟨rfl, rfl⟩
      fun _ => ⟨rfl, rfl⟩
  | lintDirect => exact ⟨rfl, rfl⟩
  | _ => cases hop

/-- Nothing is put in place, composed or released by an operation about linting. -/
theorem puts_nothing_of_isLint {x : Step} (hx : x.operation.isLint = true) (h : Handle) :
    x.completion? h = none ∧ x.composed = [] ∧ x.released = [] := by
  obtain ⟨g, op⟩ := x
  cases op with
  | installLint | setLint | lint | lintDirect | activeLint => exact ⟨ite_self _, rfl, rfl⟩
  | _ => cases hx

theorem unwinds : Unwinds (fun x => !x.operation.isLint) AgreeOnCompletion where
  both {s s' x} hs hx := by
    have hop : x.operation.isLint = false := by simpa using hx
    have hsame := hs.perform x.handle hop
    refine ⟨⟨fun h => ?_, ?_, ?_, hsame.pending, hsame.begun⟩, hsame.reply⟩
    · rw [completion_step, completion_step, hs.completion]
    · rw [(extensions_and_openGates_step s x).1, (extensions_and_openGates_step s' x).1,
        hs.extensions]
    · rw [(extensions_and_openGates_step s x).2, (extensions_and_openGates_step s' x).2,
        hs.openGates]
  first {s s' x} hs hx := by
    have hop : x.operation.isLint = true := by simpa using hx
    obtain ⟨hpending, hbegun⟩ := pending_perform s x.handle hop
    refine ⟨fun h => ?_, ?_, ?_, hpending.trans hs.pending, hbegun.trans hs.begun⟩
    · rw [completion_step, (puts_nothing_of_isLint hop h).1, hs.completion]
      rfl
    · rw [(extensions_and_openGates_step s x).1, (puts_nothing_of_isLint hop x.handle).2.1,
        List.append_nil, hs.extensions]
    · rw [(extensions_and_openGates_step s x).2, (puts_nothing_of_isLint hop x.handle).2.2,
        List.nil_append, hs.openGates]

end AgreeOnCompletion

/-! ## Linting without completion -/

/-- Whether two sessions are the same to all who ask for diagnostics. -/
structure AgreeOnLint (s s' : Session) : Prop where
  lint : ∀ h, (s.services h).lint = (s'.services h).lint
  extensions : s.extensions = s'.extensions

namespace AgreeOnLint

/-- Sessions that agree give the same replies to every operation that is not about completion. -/
theorem snd_perform (hs : AgreeOnLint s s') (h : Handle) {op : Operation}
    (hop : op.isCompletion = false) : (s.perform h op).2 = (s'.perform h op).2 := by
  cases op with
  | installLint | setLint => rfl
  | apply settings =>
    rw [perform, perform, snd_change, snd_change, Service.snd_apply]
  | compose => rw [perform, perform, hs.extensions]
  | lint extension root t =>
    refine through_congr (P := fun a b => a.2 = b.2) hs.extensions rfl (fun e => ?_) extension
    simp only [Service.diagnose, hs.lint]
  | lintDirect root t => rw [perform, perform, hs.lint]
  | activeLint extension =>
    refine through_congr (P := fun a b => a.2 = b.2) hs.extensions rfl (fun e => ?_) extension
    simp only [hs.lint]
  | classify extension kind =>
    refine through_congr (P := fun a b => a.2 = b.2) hs.extensions rfl (fun e => ?_) extension
    rfl
  | clone | release => rfl
  | installCompletion | setCompletion | complete | completeDirect | begin | poll => cases hop

theorem puts_nothing_of_isCompletion {x : Step} (hx : x.operation.isCompletion = true) (h : Handle) :
    x.lint? h = none ∧ x.composed = [] := by
  obtain ⟨g, op⟩ := x
  cases op with
  | installCompletion | setCompletion | complete | completeDirect | begin | poll =>
    exact ⟨ite_self _, rfl⟩
  | _ => cases hx

theorem unwinds : Unwinds (fun x => !x.operation.isCompletion) AgreeOnLint where
  both {s s' x} hs hx := by
    refine ⟨⟨fun h => ?_, ?_⟩, hs.snd_perform x.handle (by simpa using hx)⟩
    · rw [lint_step, lint_step, hs.lint]
    · rw [(extensions_and_openGates_step s x).1, (extensions_and_openGates_step s' x).1,
        hs.extensions]
  first {s s' x} hs hx := by
    have hop : x.operation.isCompletion = true := by simpa using hx
    refine ⟨fun h => ?_, ?_⟩
    · rw [lint_step, (puts_nothing_of_isCompletion hop h).1, hs.lint]
      rfl
    · rw [(extensions_and_openGates_step s x).1, (puts_nothing_of_isCompletion hop x.handle).2,
        List.append_nil, hs.extensions]

end AgreeOnLint

end

/-! ## The main result -/

/-- Whatever is done in a session, what is about linting makes no difference to the replies to
anything else, nor to what is installed for completion at any moment; and what is about completion
makes no difference to the replies to anything else, nor to what is installed for linting. -/
theorem services_do_not_interfere (xs : List Step) :
    Unaffected (fun x => !x.operation.isLint) (fun s h => (s.services h).completion) xs ∧
      Unaffected (fun x => !x.operation.isCompletion) (fun s h => (s.services h).lint) xs :=
  ⟨AgreeOnCompletion.unwinds.unaffected ⟨fun _ => rfl, rfl, rfl, rfl, rfl⟩
      (fun hs => funext hs.completion) xs,
    AgreeOnLint.unwinds.unaffected ⟨fun _ => rfl, rfl⟩ (fun hs => funext hs.lint) xs⟩

end Session

end PromqlEditor
