import PromqlEditor.Proofs.Service.Runs

/-!
# Requests in flight

A request that waits keeps the strategy it began with. What it hears is read off two things: the
gates that were open when it began, and the gates that are open whenever it is polled
(`CompletionStrategy.lifetime`). Everything else that happens in the meantime, be it changes of the
service or other requests, makes no difference to it, and neither beginning nor answering a request
changes a service (`request_served_as_begun`).

A step changes what is pending in one of three ways (`Passes`). So it keeps that the numbers of
pending requests have been given out (`Numbered`), and that a request which is not polled stays
pending as it is (`find?_pending_step`); a run is taken step by step from there.
-/

namespace PromqlEditor

namespace Operation

/-- Whether an operation polls the request of a number. -/
def polls (ticket : Nat) : Operation → Bool
  | .poll k => k == ticket
  | _ => false

/-- Whether an operation asks for something and changes nothing that others can see. -/
def isRequest : Operation → Bool
  | .complete .. | .completeDirect _ | .lint .. | .lintDirect .. | .activeLint _ | .classify .. |
    .begin .. | .poll _ => true
  | _ => false

/-- A request puts no strategy in place. -/
theorem puts_nothing_of_isRequest {op : Operation} (h : op.isRequest = true) :
    op.completion? = none ∧ op.lint? = none := by
  cases op with
  | installCompletion | installLint | setCompletion | setLint | apply =>
    exact absurd h Bool.false_ne_true
  | _ => exact ⟨rfl, rfl⟩

end Operation

/-- The gates that are open each time that a request is polled, if `gates` are open before. -/
def turns (ticket : Nat) (gates : List String) : List Step → List (List String)
  | [] => []
  | x :: xs =>
    let later := turns ticket (x.released ++ gates) xs
    if x.operation.polls ticket then gates :: later else later

/-- What a request hears that is asked about each time that some gates are open: it is kept
waiting until its strategy can answer it, gets the answer, and is not known any more. -/
def CompletionStrategy.lifetime (strategy : CompletionStrategy) (r : Request) (ticket : Nat) :
    List (List String) → List Reply
  | [] => []
  | gates :: later =>
    if strategy.isOpen r gates then
      .suggestions (strategy.answer r) :: later.map fun _ => .unknown
    else .pending ticket :: strategy.lifetime r ticket later

/-- A request is answered if its strategy can answer it at one of the times, and with nothing but
the answer of its strategy. -/
theorem CompletionStrategy.suggestions_mem_lifetime_iff {strategy : CompletionStrategy} {r : Request}
    {ticket : Nat} {times : List (List String)} {a : Except String (Option Suggestions)} :
    .suggestions a ∈ strategy.lifetime r ticket times ↔
      a = strategy.answer r ∧ ∃ gates ∈ times, strategy.isOpen r gates := by
  induction times with
  | nil => simp [lifetime]
  | cons gates later ih =>
    by_cases hopen : strategy.isOpen r gates = true
    · simp [lifetime, hopen]
    · simp [lifetime, hopen, ih]

namespace Session

/-- The replies of a run to the steps of a kind. -/
def repliesTo (p : Step → Bool) (s : Session) (xs : List Step) : List Reply :=
  ((xs.zip (s.run xs).2).filter fun xr => p xr.1).map Prod.snd

theorem repliesTo_cons (p : Step → Bool) (s : Session) (x : Step) (xs : List Step) :
    s.repliesTo p (x :: xs) =
      if p x then (s.step x).2 :: (s.step x).1.repliesTo p xs else (s.step x).1.repliesTo p xs := by
  rw [repliesTo, run, List.zip_cons_cons, List.filter_cons]
  split <;> rfl

/-- What a request hears that begins with a step after others: at once, and each time that it is
polled in the steps to come. -/
def heard (xs : List Step) (x : Step) (ys : List Step) : List Reply :=
  replyAfter xs x ::
    (after (xs ++ [x])).repliesTo (fun y => y.operation.polls (after xs).begun) ys

/-! ## One step -/

/-- How an operation changes what is pending: not at all, by a request of a new number that comes
in, or by the one that is polled and goes. -/
inductive Passes (op : Operation) (s s' : Session) : Prop where
  | stay (hpending : s'.pending = s.pending) (hbegun : s.begun ≤ s'.begun)
  | enter (p : Pending) (hticket : p.ticket = s.begun) (hpending : s'.pending = p :: s.pending)
      (hbegun : s'.begun = s.begun + 1)
  | leave (ticket : Nat) (hpolls : op.polls ticket = true)
      (hpending : s'.pending = s.pending.filter (·.ticket != ticket)) (hbegun : s'.begun = s.begun)

theorem passes_start (op : Operation) (s : Session) (h : Handle) (r : Request) :
    Passes op s (s.start h r).1 := by
  simp only [start]
  split
  · exact .stay rfl (Nat.le_succ _)
  · exact .enter _ rfl rfl rfl

theorem passes_resume (s : Session) (ticket : Nat) :
    Passes (.poll ticket) s (s.resume ticket).1 := by
  unfold resume
  split
  · exact .stay rfl (Nat.le_refl _)
  · split
    · exact .leave ticket (beq_self_eq_true ticket) rfl rfl
    · exact .stay rfl (Nat.le_refl _)

theorem passes_step (s : Session) (x : Step) : Passes x.operation s (s.step x).1 := by
  have same : Passes x.operation s s := .stay rfl (Nat.le_refl _)
  obtain ⟨h, op⟩ := x
  cases op with
  | installCompletion | installLint | setCompletion | setLint | apply =>
    rw [step, perform, fst_change]
    exact .stay rfl (Nat.le_refl _)
  | complete | lint | activeLint | classify => exact through_of same fun _ => same
  | begin extension r => exact through_of same fun e => passes_start _ s e.completion r
  | poll ticket => exact passes_resume s ticket
  | _ => exact .stay rfl (Nat.le_refl _)

/-- Whether all numbers of pending requests have been given out. -/
def Numbered (s : Session) : Prop := ∀ p ∈ s.pending, p.ticket < s.begun

section

variable {s s' : Session} {op : Operation} {ticket : Nat}

theorem Passes.numbered (hpass : Passes op s s') (hs : s.Numbered) : s'.Numbered := by
  intro p hp
  cases hpass with
  | stay hpending hbegun =>
    rw [hpending] at hp
    exact Nat.lt_of_lt_of_le (hs p hp) hbegun
  | enter q hticket hpending hbegun =>
    rw [hpending, List.mem_cons] at hp
    rw [hbegun]
    rcases hp with rfl | hp
    · exact Nat.lt_succ_of_le (Nat.le_of_eq hticket)
    · exact Nat.lt_succ_of_lt (hs p hp)
  | leave k hpolls hpending hbegun =>
    rw [hpending] at hp
    rw [hbegun]
    exact hs p (List.mem_filter.1 hp).1

theorem Passes.begun_le (hpass : Passes op s s') : s.begun ≤ s'.begun := by
  cases hpass with
  | stay _ hbegun => exact hbegun
  | enter _ _ _ hbegun => exact Nat.le_of_lt (Nat.lt_of_lt_of_eq (Nat.lt_succ_self _) hbegun.symm)
  | leave _ _ _ hbegun => exact Nat.le_of_eq hbegun.symm

theorem Passes.find?_pending (hpass : Passes op s s') (hlt : ticket < s.begun)
    (hpolls : ¬ op.polls ticket = true) :
    s'.pending.find? (·.ticket == ticket) = s.pending.find? (·.ticket == ticket) := by
  cases hpass with
  | stay hpending => rw [hpending]
  | enter p hticket hpending =>
    have hne : (p.ticket == ticket) = false := beq_eq_false_iff_ne.2 (by omega)
    rw [hpending, List.find?_cons, hne]
  | leave k hk hpending =>
    have hne : k ≠ ticket := by
      rintro rfl
      exact hpolls hk
    rw [hpending, List.find?_filter]
    congr 1
    funext p
    by_cases hp : p.ticket = ticket
    · simp [hp, hne.symm]
    · simp [hp]

/-- A request that is not polled stays pending as it is, or stays answered. -/
theorem find?_pending_step {x : Step} (hlt : ticket < s.begun)
    (hx : ¬ x.operation.polls ticket = true) :
    (s.step x).1.pending.find? (·.ticket == ticket) = s.pending.find? (·.ticket == ticket) :=
  (s.passes_step x).find?_pending hlt hx

/-- A number that has not been given out is that of no pending request. -/
theorem Numbered.find?_pending (hs : s.Numbered) :
    s.pending.find? (·.ticket == s.begun) = none := by
  refine List.find?_eq_none.2 fun p hp heq => ?_
  exact Nat.ne_of_lt (hs p hp) (eq_of_beq heq)

theorem numbered_after (xs : List Step) : (after xs).Numbered := by
  have hrun : ∀ s : Session, s.Numbered → (s.run xs).1.Numbered := by
    induction xs with
    | nil => exact fun s hs => hs
    | cons x xs ih => exact fun s hs => ih _ ((s.passes_step x).numbered hs)
  exact hrun {} fun p hp => absurd hp List.not_mem_nil

end

section

variable {s : Session} {ticket : Nat} {strategy : CompletionStrategy} {r : Request}

theorem step_of_polls {x : Step} (hx : x.operation.polls ticket = true) :
    s.step x = s.resume ticket ∧ x.released = [] := by
  obtain ⟨h, op⟩ := x
  cases op with
  | poll k =>
    obtain rfl : k = ticket := eq_of_beq hx
    exact ⟨rfl, rfl⟩
  | _ => exact absurd hx Bool.false_ne_true

theorem resume_of_none (hs : s.pending.find? (·.ticket == ticket) = none) :
    s.resume ticket = (s, .unknown) := by
  rw [resume, hs]

theorem resume_of_open (hs : s.pending.find? (·.ticket == ticket) = some ⟨ticket, strategy, r⟩)
    (hopen : strategy.isOpen r s.openGates = true) :
    s.resume ticket = ({ s with pending := s.pending.filter (·.ticket != ticket) },
      .suggestions (strategy.answer r)) := by
  rw [resume, hs]
  exact if_pos hopen

theorem resume_of_not_open
    (hs : s.pending.find? (·.ticket == ticket) = some ⟨ticket, strategy, r⟩)
    (hopen : ¬ strategy.isOpen r s.openGates = true) : s.resume ticket = (s, .pending ticket) := by
  rw [resume, hs]
  exact if_neg hopen

/-! ## Many steps -/

theorem repliesTo_cons_of_not_polls {x : Step} (hx : ¬ x.operation.polls ticket = true)
    (xs : List Step) :
    s.repliesTo (fun y => y.operation.polls ticket) (x :: xs) =
      (s.step x).1.repliesTo (fun y => y.operation.polls ticket) xs := by
  rw [repliesTo_cons, if_neg hx]

/-- A request that is not polled has no turn, but gates may open for its next one. -/
theorem turns_cons_of_not_polls {x : Step} (hx : ¬ x.operation.polls ticket = true)
    (xs : List Step) :
    turns ticket s.openGates (x :: xs) = turns ticket (s.step x).1.openGates xs := by
  rw [turns, if_neg hx, (s.extensions_and_openGates_step x).2]

/-- A request that is over is not known when it is polled. -/
theorem repliesTo_polls_of_none (xs : List Step) (hlt : ticket < s.begun)
    (hs : s.pending.find? (·.ticket == ticket) = none) :
    s.repliesTo (fun x => x.operation.polls ticket) xs =
      (turns ticket s.openGates xs).map fun _ => .unknown := by
  induction xs generalizing s with
  | nil => rfl
  | cons x xs ih =>
    by_cases hx : x.operation.polls ticket = true
    · obtain ⟨hstep, hreleased⟩ := step_of_polls (s := s) hx
      rw [repliesTo_cons, turns, if_pos hx, if_pos hx, hstep, resume_of_none hs, hreleased,
        List.nil_append, List.map_cons, ih hlt hs]
    · have hlt' := Nat.lt_of_lt_of_le hlt (s.passes_step x).begun_le
      have hs' := (find?_pending_step hlt hx).trans hs
      rw [repliesTo_cons_of_not_polls hx, turns_cons_of_not_polls hx, ih hlt' hs']

/-- A pending request hears the rest of its life. -/
theorem repliesTo_polls_of_some (xs : List Step) (hlt : ticket < s.begun)
    (hs : s.pending.find? (·.ticket == ticket) = some ⟨ticket, strategy, r⟩) :
    s.repliesTo (fun x => x.operation.polls ticket) xs =
      strategy.lifetime r ticket (turns ticket s.openGates xs) := by
  induction xs generalizing s with
  | nil => rfl
  | cons x xs ih =>
    by_cases hx : x.operation.polls ticket = true
    · obtain ⟨hstep, hreleased⟩ := step_of_polls (s := s) hx
      rw [repliesTo_cons, turns, if_pos hx, if_pos hx, hstep, hreleased, List.nil_append,
        CompletionStrategy.lifetime]
      by_cases hopen : strategy.isOpen r s.openGates = true
      · have hnone : (s.pending.filter (·.ticket != ticket)).find? (·.ticket == ticket) = none := by
          rw [List.find?_filter]
          exact List.find?_eq_none.2 fun p _ => by simp
        rw [if_pos hopen, resume_of_open hs hopen]
        exact congrArg _ (repliesTo_polls_of_none xs hlt hnone)
      · rw [if_neg hopen, resume_of_not_open hs hopen, ih hlt hs]
    · have hlt' := Nat.lt_of_lt_of_le hlt (s.passes_step x).begun_le
      have hs' := (find?_pending_step hlt hx).trans hs
      rw [repliesTo_cons_of_not_polls hx, turns_cons_of_not_polls hx, ih hlt' hs']

end

/-- A request that begins hears what its strategy says, from the start. -/
theorem start_and_repliesTo_polls {s : Session} (hs : s.Numbered) (h : Handle) (r : Request)
    (xs : List Step) :
    (s.start h r).2 :: (s.start h r).1.repliesTo (fun x => x.operation.polls s.begun) xs =
      (s.services h).completion.strategy.lifetime r s.begun
        (s.openGates :: turns s.begun s.openGates xs) := by
  rw [CompletionStrategy.lifetime]
  by_cases hopen : (s.services h).completion.strategy.isOpen r s.openGates = true
  · have hstart : s.start h r = ({ s with begun := s.begun + 1 },
        .suggestions ((s.services h).completion.strategy.answer r)) := if_pos hopen
    rw [if_pos hopen, hstart]
    exact congrArg _ (repliesTo_polls_of_none xs (Nat.lt_succ_self _) hs.find?_pending)
  · have hstart : s.start h r = ({ s with
        pending := ⟨s.begun, (s.services h).completion.strategy, r⟩ :: s.pending
        begun := s.begun + 1 }, .pending s.begun) := if_neg hopen
    rw [if_neg hopen, hstart]
    exact congrArg _ (repliesTo_polls_of_some xs (Nat.lt_succ_self _)
      (List.find?_cons_of_pos (beq_self_eq_true s.begun)))

theorem heard_begin {us : List Step} {extension : Nat} {e : Extension}
    (he : (after us).extensions[extension]? = some e) (g : Handle) (r : Request)
    (zs : List Step) :
    heard us ⟨g, .begin extension r⟩ zs =
      (lastCompletion e.completion us).lifetime r (after us).begun
        (gatesAfter [] us :: turns (after us).begun (gatesAfter [] us) zs) := by
  have hstep : (after us).step ⟨g, .begin extension r⟩ = (after us).start e.completion r :=
    through_of_getElem? he _
  rw [heard, replyAfter, after_concat, hstep,
    start_and_repliesTo_polls (numbered_after us), completion_after, openGates_after]

/-- Of the steps that follow only polls of the request and released gates matter to it. -/
theorem turns_filter (ticket : Nat) (gates : List String) (xs : List Step) :
    turns ticket gates (xs.filter fun x => x.operation.polls ticket || !x.released.isEmpty) =
      turns ticket gates xs := by
  induction xs generalizing gates with
  | nil => rfl
  | cons x xs ih =>
    by_cases hx : x.operation.polls ticket = true
    · rw [List.filter_cons_of_pos (by rw [hx]; rfl), turns, turns, ih]
    · cases hr : x.released with
      | nil =>
        rw [List.filter_cons_of_neg (by simp [hx, hr]), ih, turns, if_neg hx, hr, List.nil_append]
      | cons gate more =>
        rw [List.filter_cons_of_pos (by simp [hr]), turns, turns, ih]

/-- Leaving out the requests leaves the services as they are. -/
theorem services_after_filter (xs : List Step) :
    (after (xs.filter fun x => !x.operation.isRequest)).services = (after xs).services := by
  have hcompletion : ∀ h, completionHistory h (xs.filter fun x => !x.operation.isRequest) =
      completionHistory h xs := fun h =>
    filterMap_filter_of_none (fun x hx => by
      rw [Step.completion?, (Operation.puts_nothing_of_isRequest (by simpa using hx)).1, ite_self]) xs
  have hlint : ∀ h, lintHistory h (xs.filter fun x => !x.operation.isRequest) =
      lintHistory h xs := fun h =>
    filterMap_filter_of_none (fun x hx => by
      rw [Step.lint?, (Operation.puts_nothing_of_isRequest (by simpa using hx)).2, ite_self]) xs
  funext h
  rw [Service.ext_iff, after, after, completion_run, completion_run, lint_run, lint_run,
    hcompletion, hlint]
  exact ⟨rfl, rfl⟩

/-! ## The main result -/

/-- Whether a request that a step begins after others is served by a strategy. -/
structure IsServedBy (us : List Step) (x : Step) (r : Request) (σ : CompletionStrategy) : Prop where
  /-- It hears what the strategy says whenever it is asked about. -/
  heard_eq : ∀ zs, heard us x zs =
    σ.lifetime r (after us).begun (gatesAfter [] us :: turns (after us).begun (gatesAfter [] us) zs)
  /-- It is answered if it is asked about while the gates on its way are open. -/
  answered_iff : ∀ zs a, .suggestions a ∈ heard us x zs ↔ a = σ.answer r ∧
    ∃ gates ∈ gatesAfter [] us :: turns (after us).begun (gatesAfter [] us) zs, σ.isOpen r gates
  /-- Nothing but polls of it and released gates makes a difference to it. -/
  heard_filter : ∀ zs, heard us x (zs.filter fun y =>
    y.operation.polls (after us).begun || !y.released.isEmpty) = heard us x zs

theorem isServedBy_begin {us : List Step} {extension : Nat} {e : Extension}
    (he : (after us).extensions[extension]? = some e) (g : Handle) (r : Request) :
    IsServedBy us ⟨g, .begin extension r⟩ r (lastCompletion e.completion us) where
  heard_eq zs := heard_begin he g r zs
  answered_iff zs a := by
    rw [heard_begin he, CompletionStrategy.suggestions_mem_lifetime_iff]
  heard_filter zs := by
    rw [heard_begin he, heard_begin he, turns_filter]

/-- Whenever an extension was composed and a request begins through it, the request is served by
the strategy that was put in place last before it began, whatever is done meanwhile. No request
leaves a trace in a service. -/
theorem request_served_as_begun (xs ys : List Step) (h g : Handle) (r : Request) :
    (∃ extension, replyAfter xs ⟨h, .compose⟩ = .composed extension ∧
      IsServedBy (xs ++ ⟨h, .compose⟩ :: ys) ⟨g, .begin extension r⟩ r
        (lastCompletion h (xs ++ ⟨h, .compose⟩ :: ys))) ∧
      (after (xs.filter fun x => !x.operation.isRequest)).services = (after xs).services :=
  ⟨⟨_, rfl, isServedBy_begin (extensions_after_compose xs ys h) g r⟩, services_after_filter xs⟩

example (r : Request) (σ : CompletionStrategy) (a : Except String (Option Suggestions)) :
    heard [⟨⟨0⟩, .compose⟩, ⟨⟨0⟩, .setCompletion (.custom "slow" (fun _ => ["gate"]) fun _ => a)⟩]
        ⟨⟨0⟩, .begin 0 r⟩
        [⟨⟨0⟩, .setCompletion σ⟩, ⟨⟨0⟩, .poll 0⟩, ⟨⟨0⟩, .release "gate"⟩, ⟨⟨0⟩, .poll 0⟩,
          ⟨⟨0⟩, .poll 0⟩] =
      [.pending 0, .pending 0, .suggestions a, .unknown] := rfl

end Session

end PromqlEditor
