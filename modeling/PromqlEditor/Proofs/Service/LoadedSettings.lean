import PromqlEditor.Proofs.Completion.Matching
import PromqlEditor.Proofs.Service.AllOrNothing
import PromqlEditor.Proofs.Service.LateBinding
import PromqlEditor.Proofs.Settings.Overrides

/-!
# Loaded settings reach every extension

A setting goes a long way from the options to the answer of a request: it is read, the environment
may override it, a strategy is made of it, and the strategy is found in a slot when a request comes
in. At each stop something else stands in for a setting that is missing. Here the two ends are
joined (`Session.loaded_settings_reach_extensions`): what the options and the environment say
decides how requests are answered, through extensions composed before and after, until something
else is put in place.

The way is cut in two where the settings are loaded. What they say is known from there
(`Settings.Heeds`), and how requests are answered follows from what was put in place last
(`Session.answeredBy_last`).
-/

namespace PromqlEditor

/-- Whether an answer keeps to a limit. There are suggestions if the request asks for some and there
are any at all; there are not more of them than the limit allows, and it is all of them if there is
no limit. -/
structure Request.AnsweredWithin (r : Request) (limit? : Option Nat) (all : List Item)
    (a : Option Suggestions) : Prop where
  isSome_iff : a.isSome = true ↔ (r.word ≠ [] ∨ r.explicit = true) ∧ all ≠ []
  items_ne_nil : ∀ found ∈ a, found.items ≠ []
  length_le : ∀ found ∈ a, ∀ n ∈ limit?, found.items.length ≤ n
  items_eq : limit? = none → ∀ found ∈ a, found.items = all

namespace CompletionSettings

variable {s : CompletionSettings}

theorem answeredWithin_suggest (hzero : s.maxItems ≠ some 0) (r : Request) :
    r.AnsweredWithin s.maxItems (s.startingWith r.word) (s.suggest r) where
  isSome_iff := by
    simp only [Option.isSome_iff_exists, suggest_eq_some_iff, exists_and_left, exists_eq,
      and_true, ne_eq, shown_eq_nil_iff hzero, matching_eq_startingWith]
  items_ne_nil found hfound := by
    obtain ⟨-, hne, rfl⟩ := suggest_eq_some_iff.1 hfound
    exact hne
  length_le found hfound n hn := by
    obtain ⟨-, -, rfl⟩ := suggest_eq_some_iff.1 hfound
    rw [shown, Option.mem_def.1 hn]
    exact List.length_take_le n _
  items_eq hnone found hfound := by
    obtain ⟨-, -, rfl⟩ := suggest_eq_some_iff.1 hfound
    rw [shown, hnone, matching_eq_startingWith]

end CompletionSettings

namespace Session

/-- Whether an extension of a number was composed from a handle in the course of some steps. -/
def ComposedFrom (zs : List Step) (h : Handle) (extension : Nat) : Prop :=
  ∃ us vs, zs = us ++ ⟨h, .compose⟩ :: vs ∧ replyAfter us ⟨h, .compose⟩ = .composed extension

/-- Whether requests for diagnostics through an extension are answered as given settings and the
environment ask for: not at all, or with one diagnostic for each error node. -/
structure LintsAs (zs : List Step) (extension : Nat) (env : Environment) (given : Settings) :
    Prop where
  off : given.LintIsOff env → ∀ g root t,
    replyAfter zs ⟨g, .lint extension root t⟩ = .diagnostics (.ok [])
  on : ¬ given.LintIsOff env → ∀ g root t, ∃ ds,
    replyAfter zs ⟨g, .lint extension root t⟩ = .diagnostics (.ok ds) ∧
      ds.map (fun d => (d.range, d.severity)) =
        (root.findAll Node.isError).map fun n => (t.range n.span, some given.severity)

/-- Whether requests for suggestions through an extension are answered at once, from the names that
are given and within a limit. -/
structure CompletesAs (zs : List Step) (extension : Nat) (limit? : Option Nat)
    (given : Settings) : Prop where
  complete : ∀ g r, ∃ a, replyAfter zs ⟨g, .complete extension r⟩ = .suggestions (.ok a) ∧
    r.AnsweredWithin limit? ((given.completion.getD {}).startingWith r.word) a
  begin : ∀ g r, ∃ a, replyAfter zs ⟨g, .begin extension r⟩ = .suggestions (.ok a) ∧
    r.AnsweredWithin limit? ((given.completion.getD {}).startingWith r.word) a

variable {xs ys zs : List Step} {h : Handle} {extension : Nat} {env : Environment}
  {s given : Settings}

theorem ComposedFrom.getElem?_extensions (hcomposed : ComposedFrom zs h extension) :
    (after zs).extensions[extension]? = some h.extension := by
  obtain ⟨us, vs, rfl, hreply⟩ := hcomposed
  cases hreply
  exact extensions_after_compose us vs h

/-! ## What is in place -/

/-- Settings that are applied are in place for completion until something else is. -/
theorem lastCompletion_of_apply (hzero : ¬ s.completion.bind (·.maxItems) = some 0)
    (hys : completionHistory h ys = []) (xs : List Step) :
    lastCompletion h (xs ++ ⟨h, .apply s⟩ :: ys) = .vocabulary (s.completion.getD {}) := by
  refine lastCompletion_of_put ?_ hys xs
  rw [Step.completion?, if_pos rfl, Operation.completion?, CompletionStrategy.ofSettings_eq,
    if_neg hzero]
  rfl

/-- Settings that are applied are in place for linting until something else is. -/
theorem lastLint_of_apply (hzero : ¬ s.completion.bind (·.maxItems) = some 0)
    (hys : lintHistory h ys = []) (xs : List Step) :
    lastLint h (xs ++ ⟨h, .apply s⟩ :: ys) = .syntaxErrors (s.lint.getD {}) := by
  refine lastLint_of_put ?_ hys xs
  rw [Step.lint?, if_pos rfl, Operation.lint?, CompletionStrategy.ofSettings_eq, if_neg hzero]
  rfl

/-! ## What is answered -/

theorem lintsAs_of_heeds (hs : s.Heeds env given) (hcomposed : ComposedFrom zs h extension)
    (hlast : lastLint h zs = .syntaxErrors (s.lint.getD {})) :
    LintsAs zs extension env given := by
  have hreply (g : Handle) (root : Node) (t : Text) :
      replyAfter zs ⟨g, .lint extension root t⟩ = .diagnostics
        (if (s.lint.getD {}).enabled then .ok (Diagnostic.ofTree given.severity root t)
          else .ok []) := by
    rw [(answeredBy_last hcomposed.getElem?_extensions).lint, hlast, ← hs.severity_eq]
    rfl
  refine ⟨fun hoff g root t => ?_, fun hon g root t => ?_⟩
  · have hdisabled : ¬ (s.lint.getD {}).enabled = true := fun henabled =>
      hs.enabled_iff.1 henabled hoff
    rw [hreply, if_neg hdisabled]
  · rw [hreply, if_pos (hs.enabled_iff.2 hon)]
    refine ⟨_, rfl, ?_⟩
    rw [Diagnostic.ofTree, List.map_map]
    rfl

theorem completesAs_of_heeds (hs : s.Heeds env given)
    (hzero : ¬ s.completion.bind (·.maxItems) = some 0) (hcomposed : ComposedFrom zs h extension)
    (hlast : lastCompletion h zs = .vocabulary (s.completion.getD {})) :
    CompletesAs zs extension (s.completion.bind (·.maxItems)) given := by
  have hanswered := answeredBy_last hcomposed.getElem?_extensions
  rw [hlast] at hanswered
  have hwithin (r : Request) : r.AnsweredWithin (s.completion.bind (·.maxItems))
      ((given.completion.getD {}).startingWith r.word) ((s.completion.getD {}).suggest r) := by
    rw [← CompletionSettings.maxItems_getD] at hzero ⊢
    rw [← CompletionSettings.startingWith_congr hs.metricNames_eq]
    exact CompletionSettings.answeredWithin_suggest hzero r
  exact ⟨fun g r => ⟨_, hanswered.complete g r, hwithin r⟩,
    fun g r => ⟨_, hanswered.begin g r, hwithin r⟩⟩

/-! ## The main result -/

/-- Whatever was done in a session, settings that are loaded and then applied are refused just if
the options set the limit of completion to zero and the environment does not set it. Otherwise they
decide how requests are answered through every extension of the handle, until something else is put
in place: linting is off if the environment says so, or if it says nothing and the options do, and
suggestions keep to the limit of the environment, or of the options if it has none. -/
theorem loaded_settings_reach_extensions {options : Option Json.Value}
    (hordered : ∀ v ∈ options, v.Ordered) (hload : Settings.load options env = .ok s)
    (xs : List Step) (h : Handle) :
    ∃ given limit?, Schema.IsOptions options given ∧ given.HasLimit env limit? ∧
      ((∃ e, replyAfter xs ⟨h, .apply s⟩ = .refused e) ↔
        env .maxItems = none ∧ given.completion.bind (·.maxItems) = some 0) ∧
      ((∃ e, replyAfter xs ⟨h, .apply s⟩ = .refused e) ∨
        replyAfter xs ⟨h, .apply s⟩ = .done ∧
          ∀ ys extension, ComposedFrom (xs ++ ⟨h, .apply s⟩ :: ys) h extension →
            (lintHistory h ys = [] →
              LintsAs (xs ++ ⟨h, .apply s⟩ :: ys) extension env given) ∧
            (completionHistory h ys = [] →
              CompletesAs (xs ++ ⟨h, .apply s⟩ :: ys) extension limit? given)) := by
  obtain ⟨given, hgiven, hs⟩ := Settings.exists_heeds_of_load hload
  refine ⟨given, _, (Options.ofOptions_eq_ok_iff_isOptions hordered).1 hgiven, hs.hasLimit, ?_⟩
  rw [← hs.hasLimit.eq_zero_iff]
  by_cases hzero : s.completion.bind (·.maxItems) = some 0
  · have hrefused : ∃ e, replyAfter xs ⟨h, .apply s⟩ = .refused e :=
      ⟨_, (isRefused_apply hzero xs h).reply_eq⟩
    exact ⟨iff_of_true hrefused hzero, Or.inl hrefused⟩
  · have hdone : replyAfter xs ⟨h, .apply s⟩ = .done := (installs_apply hzero xs h).reply_eq
    refine ⟨iff_of_false ?_ hzero, Or.inr ⟨hdone, fun ys extension hcomposed => ⟨?_, ?_⟩⟩⟩
    · rintro ⟨e, he⟩
      cases hdone.symm.trans he
    · intro hys
      exact lintsAs_of_heeds hs hcomposed (lastLint_of_apply hzero hys xs)
    · intro hys
      exact completesAs_of_heeds hs hzero hcomposed (lastCompletion_of_apply hzero hys xs)

/-- The environment sets the limit, which the options would set to zero, and switches linting off.
The extension was there before. -/
theorem overridden_settings_reach_extension :
    (∀ v ∈ some (Json.Value.object [("completion", .object [("maxItems", .integer 0)])]),
        v.Ordered) ∧
      Settings.load (some (.object [("completion", .object [("maxItems", .integer 0)])]))
          (fun x => if x = .maxItems then some " 1 " else some "Off") =
        .ok ⟨some ⟨some 1, []⟩, some ⟨false, .error⟩⟩ ∧
      ∀ root t r,
        replyAfter [⟨⟨0⟩, .compose⟩, ⟨⟨0⟩, .apply ⟨some ⟨some 1, []⟩, some ⟨false, .error⟩⟩⟩]
            ⟨⟨0⟩, .lint 0 root t⟩ = .diagnostics (.ok []) ∧
          ∃ a, replyAfter
              [⟨⟨0⟩, .compose⟩, ⟨⟨0⟩, .apply ⟨some ⟨some 1, []⟩, some ⟨false, .error⟩⟩⟩]
              ⟨⟨0⟩, .complete 0 r⟩ = .suggestions (.ok a) ∧
            ∀ found ∈ a, found.items.length ≤ 1 := by
  have hordered : ∀ v ∈ some (Json.Value.object
      [("completion", .object [("maxItems", .integer 0)])]), v.Ordered := by
    rintro v ⟨⟩
    simp [Json.Value.Ordered, Json.Value.MembersOrdered]
  have hload : Settings.load (some (.object [("completion", .object [("maxItems", .integer 0)])]))
      (fun x => if x = .maxItems then some " 1 " else some "Off") =
        .ok ⟨some ⟨some 1, []⟩, some ⟨false, .error⟩⟩ := rfl
  refine ⟨hordered, hload, fun root t r => ?_⟩
  obtain ⟨given, limit?, -, hlimit, hrefused, hreach⟩ :=
    loaded_settings_reach_extensions hordered hload [⟨⟨0⟩, .compose⟩] ⟨0⟩
  rcases hreach with he | ⟨-, hreach⟩
  · cases (hrefused.1 he).1
  · obtain ⟨hlint, hcomplete⟩ := hreach [] 0 ⟨[], _, rfl, rfl⟩
    have hoff : given.LintIsOff fun x => if x = .maxItems then some " 1 " else some "Off" :=
      .set rfl (readSwitch?_eq_some_iff.1 rfl)
    obtain ⟨a, ha, hwithin⟩ := (hcomplete rfl).complete ⟨0⟩ r
    refine ⟨(hlint rfl).off hoff ⟨0⟩ root t, a, ha, fun found hfound => ?_⟩
    cases hlimit with
    | set hset hn =>
      cases hset
      cases (readLimit?_eq_some_iff.2 hn).symm.trans rfl
      exact hwithin.length_le found hfound 1 rfl
    | unset hunset => cases hunset

end Session

end PromqlEditor
