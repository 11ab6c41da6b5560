import PromqlEditor.Proofs.Settings.Conformance
import PromqlEditor.Settings.Notations

/-!
# Both notations are read alike

What a record is read as depends only on the values given for its fields, since both notations come
to the same order: the fields are declared in the order of their names, in which the members of an
object come up. So two notations of a record have the same outcome, and if it is a fault, the same
fault (`Options.readRecord_congr`). That is shown once for a record whose fields may have notations
of their own, and holds for the sections first and then for the settings
(`Settings.notations_loaded_alike`).
-/

namespace PromqlEditor

open Json (Value)

/-! ## Records -/

namespace Options

section Records

variable {σ : Type} {f g : Field σ} {fs : List (Field σ)}

/-- Whether two values do the same to a record if they are put into a field. -/
def SetAlike (f : Field σ) (v w : Value) : Prop := f.set v = f.set w

theorem rel_setAlike {alike : Value → Value → Prop}
    (hf : ∀ v w : Value, v.Ordered → w.Ordered → alike v w → SetAlike f v w) {x x' : Option Value}
    (hx : ∀ v ∈ x, v.Ordered) (hx' : ∀ v ∈ x', v.Ordered) (h : Option.Rel alike x x') :
    Option.Rel (SetAlike f) x x' := by
  cases h with
  | none => exact .none
  | some h => exact .some (hf _ _ (hx _ rfl) (hx' _ rfl) h)

/-- A field in which values are put that do the same, before fields of which that is known. -/
theorem setGiven_cons_congr {x x' : Option Value} {given given' : List (Option Value)}
    (hx : Option.Rel (SetAlike f) x x')
    (hrest : ∀ s, setGiven fs given s = setGiven fs given' s) (s : σ) :
    setGiven (f :: fs) (x :: given) s = setGiven (f :: fs) (x' :: given') s := by
  cases hx with
  | none => exact hrest s
  | @some v w hset =>
    calc setGiven (f :: fs) (some v :: given) s
        = f.set v s >>= setGiven fs given := rfl
      _ = f.set w s >>= setGiven fs given' := by
        rw [show f.set v = f.set w from hset, funext hrest]

/-- Notations of a record are read alike if alike values do the same to its fields. -/
theorem readRecord_congr {first_alike second_alike : Value → Value → Prop}
    (hlt : f.name < g.name)
    (hf : ∀ v w : Value, v.Ordered → w.Ordered → first_alike v w → SetAlike f v w)
    (hg : ∀ v w : Value, v.Ordered → w.Ordered → second_alike v w → SetAlike g v w)
    {expected : Expected} {defaults : σ} {v w : Value} (hv : v.Ordered) (hw : w.Ordered)
    (halike : Schema.Alike f.name g.name first_alike second_alike v w) :
    readRecord expected [f, g] defaults v = readRecord expected [f, g] defaults w := by
  cases halike with
  | same h => rw [h]
  | @notations x y x' y' hgiven hgiven' hx hy =>
    have hnames : ([f, g].map Field.name).Pairwise (· < ·) := by simpa using hlt
    have hordered := ordered_of_fields? hv hgiven
    have hordered' := ordered_of_fields? hw hgiven'
    have hfirst := rel_setAlike hf (hordered x (by simp)) (hordered' x' (by simp)) hx
    have hsecond := rel_setAlike hg (hordered y (by simp)) (hordered' y' (by simp)) hy
    rw [readRecord_eq_setGiven hnames hv hgiven, readRecord_eq_setGiven hnames hw hgiven']
    exact setGiven_cons_congr hfirst (setGiven_cons_congr hsecond fun _ => rfl) defaults

end Records

/-! ## Sections -/

section Sections

variable {v w : Value}

theorem setAlike_of_eq {σ : Type} {f : Field σ} : ∀ v w : Value, v.Ordered → w.Ordered → v = w →
    SetAlike f v w := by
  rintro v w - - rfl
  rfl

/-- Values that are read alike do the same to a record, where `put` puts what is read into it. -/
theorem setAlike_of_read {σ α : Type} {f : Field σ} {read : Value → Except OptionsError α}
    (put : σ → α → σ) (hset : ∀ v s, f.set v s = put s <$> read v) (h : read v = read w) :
    SetAlike f v w := by
  funext s
  rw [hset, hset, h]

theorem readCompletion_congr (hv : v.Ordered) (hw : w.Ordered) (h : Schema.AlikeCompletion v w) :
    readCompletion v = readCompletion w :=
  readRecord_congr (by decide) setAlike_of_eq setAlike_of_eq hv hw h

theorem readLint_congr (hv : v.Ordered) (hw : w.Ordered) (h : Schema.AlikeLint v w) :
    readLint v = readLint w :=
  readRecord_congr (by decide) setAlike_of_eq setAlike_of_eq hv hw h

/-- Null has no other notation. -/
theorem eq_or_ne_null {first second : String} {first_alike second_alike : Value → Value → Prop}
    (h : Schema.Alike first second first_alike second_alike v w) :
    v = w ∨ v ≠ .null ∧ w ≠ .null := by
  cases h with
  | same h => exact Or.inl h
  | notations hv hw =>
    refine Or.inr ⟨?_, ?_⟩
    · rintro rfl
      cases hv
    · rintro rfl
      cases hw

/-- A section that may be null is read alike in notations in which it is read alike if it is not. -/
theorem readOptional_congr {α : Type} {read : Value → Except OptionsError α}
    {first second : String} {first_alike second_alike : Value → Value → Prop}
    (halike : Schema.Alike first second first_alike second_alike v w) (h : read v = read w) :
    readOptional read v = readOptional read w := by
  rcases eq_or_ne_null halike with heq | ⟨hv, hw⟩
  · rw [heq]
  · rw [readOptional_of_ne_null hv, readOptional_of_ne_null hw, h]

end Sections

end Options

/-! ## The main result -/

theorem Settings.ofOptions_congr {v w : Value} (hv : v.Ordered) (hw : w.Ordered)
    (h : Schema.AlikeSettings v w) : ofOptions (some v) = ofOptions (some w) := by
  rcases Options.eq_or_ne_null h with heq | ⟨hvnull, hwnull⟩
  · rw [heq]
  · rw [Options.ofOptions_of_ne_null hvnull, Options.ofOptions_of_ne_null hwnull]
    refine Options.readRecord_congr (by decide) ?_ ?_ hv hw h
    · intro x y hx hy hsection
      have hread := Options.readCompletion_congr hx hy hsection
      exact Options.setAlike_of_read (fun s c => { s with completion := c }) (fun _ _ => rfl)
        (Options.readOptional_congr hsection hread)
    · intro x y hx hy hsection
      have hread := Options.readLint_congr hx hy hsection
      exact Options.setAlike_of_read (fun s l => { s with lint := l }) (fun _ _ => rfl)
        (Options.readOptional_congr hsection hread)

/-- Options that differ in their notation only are loaded alike in every environment: as the same
settings, or not at all and for the same fault. -/
theorem Settings.notations_loaded_alike {v w : Value} (hv : v.Ordered) (hw : w.Ordered)
    (h : Schema.AlikeSettings v w) (env : Environment) :
    load (some v) env = load (some w) env := by
  rw [load, load, ofOptions_congr hv hw h]

/-- An object and a list within a list, and a list and an object within an object, where another key
stands between the two. Both fields of linting are wrong, and the fault of the first is reported. -/
theorem Settings.mixed_notations_refused_alike :
    (Value.list [.object [], .list [.text "yes", .integer 1]]).Ordered ∧
      (Value.object [("completion", .list []), ("extra", .null),
        ("lint", .object [("enabled", .text "yes"), ("severity", .integer 1)])]).Ordered ∧
      Schema.AlikeSettings (.list [.object [], .list [.text "yes", .integer 1]])
        (.object [("completion", .list []), ("extra", .null),
          ("lint", .object [("enabled", .text "yes"), ("severity", .integer 1)])]) ∧
      load (some (.list [.object [], .list [.text "yes", .integer 1]])) (fun _ => none) =
        .error (.options (.wrongKind (.text "yes") .boolean)) ∧
      load (some (.object [("completion", .list []), ("extra", .null),
          ("lint", .object [("enabled", .text "yes"), ("severity", .integer 1)])]))
          (fun _ => none) =
        .error (.options (.wrongKind (.text "yes") .boolean)) := by
  have hv : (Value.list [.object [], .list [.text "yes", .integer 1]]).Ordered := by
    simp [Value.Ordered, Value.AllOrdered, Value.MembersOrdered]
  have hw : (Value.object [("completion", .list []), ("extra", .null),
      ("lint", .object [("enabled", .text "yes"), ("severity", .integer 1)])]).Ordered := by
    simp only [Value.Ordered, Value.AllOrdered, Value.MembersOrdered, and_true]
    decide
  have halike : Schema.AlikeSettings (.list [.object [], .list [.text "yes", .integer 1]])
      (.object [("completion", .list []), ("extra", .null),
        ("lint", .object [("enabled", .text "yes"), ("severity", .integer 1)])]) :=
    .notations rfl rfl (.some (.notations rfl rfl .none .none))
      (.some (.notations rfl rfl (.some rfl) (.some rfl)))
  have hsame := notations_loaded_alike hv hw halike fun _ => none
  exact ⟨hv, hw, halike, hsame.trans rfl, rfl⟩

end PromqlEditor
