import Mathlib.Data.String.Basic
import PromqlEditor.Settings.Options
import PromqlEditor.Settings.Schema

/-!
# Records in two notations

A record is read member by member if it is an object, and item by item if it is a list. Both come
to the same: the fields are gone through in order, and those for which a value is given are set
(`setGiven`). For an object this needs the keys to be in order, and the names of the fields too
(`setByName_eq_setGiven`): then the members come up in the order of the fields, whatever lies
between them. So a record in either notation is read as the values given for its fields say, faults
included (`readRecord_eq_setGiven`).
-/

namespace PromqlEditor.Options

open Json (Value)

variable {σ : Type}

/-- Puts values into the fields of a record, in order; a field without a value stays as it is. -/
def setGiven : List (Field σ) → List (Option Value) → σ → Except OptionsError σ
  | f :: fs, some v :: vs, s => do setGiven fs vs (← f.set v s)
  | _ :: fs, none :: vs, s => setGiven fs vs s
  | _, _, s => .ok s

/-- Fields without a value can be left out. -/
theorem setGiven_append_map_none (pre post : List (Field σ)) (given : List (Option Value)) (s : σ) :
    setGiven (pre ++ post) (pre.map (fun _ => none) ++ given) s = setGiven post given s := by
  induction pre with
  | nil => rfl
  | cons f fs ih => exact ih

/-! ## What is given -/

/-- There is a value, or none, for each field. -/
theorem length_of_fields? {names : List String} {v : Value} {given : List (Option Value)}
    (h : Schema.fields? names v = some given) : given.length = names.length := by
  unfold Schema.fields? at h
  split at h
  · cases h
    simp
  · obtain ⟨-, h⟩ := Option.ite_none_right_eq_some.1 h
    cases h
    simp
  · cases h

/-- What is given by an ordered value is ordered. -/
theorem ordered_of_fields? {names : List String} {v : Value} {given : List (Option Value)}
    (hv : v.Ordered) (h : Schema.fields? names v = some given) :
    ∀ x ∈ given, ∀ u ∈ x, u.Ordered := by
  rintro x hx u rfl
  unfold Schema.fields? at h
  split at h
  next members =>
    cases h
    obtain ⟨name, -, hname⟩ := List.mem_map.1 hx
    obtain ⟨before, after, rfl, -⟩ := List.lookup_eq_some_iff.1 hname
    exact Value.membersOrdered_iff.1 hv.2 (name, u) (by simp)
  next items =>
    obtain ⟨-, h⟩ := Option.ite_none_right_eq_some.1 h
    cases h
    obtain ⟨i, -, hi⟩ := List.mem_map.1 hx
    exact Value.allOrdered_iff.1 hv u (List.mem_of_getElem? hi)
  next => cases h

/-! ## Lists -/

/-- The items of a list are the values of the first fields. -/
theorem setInOrder_eq_setGiven (fields : List (Field σ)) (items : List Value) (s : σ) :
    setInOrder fields items s =
      setGiven fields ((List.range fields.length).map (items[·]?)) s := by
  induction fields generalizing items s with
  | nil => rfl
  | cons f fs ih =>
    rw [List.length_cons, List.range_succ_eq_map, List.map_cons, List.map_map]
    cases items with
    | nil =>
      calc setInOrder (f :: fs) [] s = setInOrder fs [] s := by cases fs <;> rfl
        _ = _ := ih [] s
    | cons v vs => exact congrArg (f.set v s >>= ·) (funext (ih vs))

/-! ## Objects -/

section Objects

variable {pre post fields : List (Field σ)} {f : Field σ} {members : List (String × Value)}

theorem lookup_eq_none {name : String} (h : ∀ m ∈ members, name < m.1) :
    members.lookup name = none := by
  rw [List.lookup_eq_none_iff]
  exact fun m hm => bne_iff_ne.2 (h m hm).ne

/-- Fields with a name before all keys are not given. -/
theorem setGiven_lookup_append (hpre : ∀ g ∈ pre, g.name < f.name)
    (hmembers : ∀ m ∈ members, f.name ≤ m.1) (s : σ) :
    setGiven (pre ++ f :: post) ((pre ++ f :: post).map fun g => members.lookup g.name) s =
      setGiven (f :: post) ((f :: post).map fun g => members.lookup g.name) s := by
  have hnone : (pre.map fun g => members.lookup g.name) = pre.map fun _ => none :=
    List.map_congr_left fun g hg =>
      lookup_eq_none fun m hm => (hpre g hg).trans_le (hmembers m hm)
  rw [List.map_append, hnone, setGiven_append_map_none]

/-- A member that is not about one of the fields does not matter for them. -/
theorem map_lookup_cons {key : String} {v : Value} (h : ∀ f ∈ fields, f.name ≠ key) :
    (fields.map fun f => List.lookup f.name ((key, v) :: members)) =
      fields.map fun f => members.lookup f.name :=
  List.map_congr_left fun f hf => by rw [List.lookup_cons, beq_false_of_ne (h f hf)]

/-- A first member that is about one of the fields is set before all others. -/
theorem setGiven_lookup_cons (hpre : ∀ g ∈ pre, g.name < f.name)
    (hpost : ∀ g ∈ post, f.name < g.name) (hmembers : ∀ m ∈ members, f.name < m.1) (v : Value)
    (s : σ) :
    setGiven (pre ++ f :: post)
        ((pre ++ f :: post).map fun g => List.lookup g.name ((f.name, v) :: members)) s =
      f.set v s >>=
        setGiven (pre ++ f :: post) ((pre ++ f :: post).map fun g => members.lookup g.name) := by
  have hle : ∀ m ∈ members, f.name ≤ m.1 := fun m hm => (hmembers m hm).le
  calc setGiven (pre ++ f :: post)
        ((pre ++ f :: post).map fun g => List.lookup g.name ((f.name, v) :: members)) s
    _ = setGiven (f :: post)
          ((f :: post).map fun g => List.lookup g.name ((f.name, v) :: members)) s :=
      setGiven_lookup_append hpre (List.forall_mem_cons.2 ⟨le_rfl, hle⟩) s
    _ = f.set v s >>= setGiven post (post.map fun g => members.lookup g.name) := by
      rw [List.map_cons, List.lookup_cons_self, map_lookup_cons fun g hg => (hpost g hg).ne']
      rfl
    _ = _ := by
      -- nothing is left for this field and those before it
      refine congrArg (f.set v s >>= ·) (funext fun s' => ?_)
      rw [setGiven_lookup_append hpre hle, List.map_cons, lookup_eq_none hmembers]
      rfl

/-- The members of an object come up in the order of the fields. -/
theorem setByName_eq_setGiven (hfields : (fields.map Field.name).Pairwise (· < ·))
    (hmembers : (members.map Prod.fst).Pairwise (· < ·)) (s : σ) :
    setByName fields members s =
      setGiven fields (fields.map fun f => members.lookup f.name) s := by
  induction members generalizing s with
  | nil => simpa [setByName, setGiven] using (setGiven_append_map_none fields [] [] s).symm
  | cons m ms ih =>
    obtain ⟨key, v⟩ := m
    rw [List.map_cons, List.pairwise_cons, List.forall_mem_map] at hmembers
    obtain ⟨hkey, hms⟩ := hmembers
    rw [setByName]
    cases hfind : fields.find? (·.name == key) with
    | none =>
      have hne : ∀ f ∈ fields, f.name ≠ key := by simpa using hfind
      rw [map_lookup_cons hne]
      exact ih hms s
    | some f =>
      obtain ⟨hname, pre, post, rfl, -⟩ := List.find?_eq_some_iff_append.1 hfind
      obtain rfl : f.name = key := by simpa using hname
      rw [List.map_append, List.map_cons, List.pairwise_append, List.pairwise_cons,
        List.forall_mem_map] at hfields
      obtain ⟨-, ⟨hpost, -⟩, hpre⟩ := hfields
      rw [setGiven_lookup_cons (fun g hg => hpre _ (List.mem_map_of_mem hg) _ List.mem_cons_self)
        hpost hkey]
      exact congrArg (f.set v s >>= ·) (funext (ih hms))

end Objects

/-! ## Both -/

section Both

variable {fields : List (Field σ)} {expected : Expected} {defaults : σ} {v : Value}

/-- A record is read from the values that are given for its fields. -/
theorem readRecord_eq_setGiven (hfields : (fields.map Field.name).Pairwise (· < ·))
    (hv : v.Ordered) {given : List (Option Value)}
    (hgiven : Schema.fields? (fields.map Field.name) v = some given) :
    readRecord expected fields defaults v = setGiven fields given defaults := by
  cases v with
  | object members =>
    rw [Schema.fields?, List.map_map, Option.some.injEq] at hgiven
    rw [readRecord, setByName_eq_setGiven hfields hv.1, ← hgiven]
    rfl
  | list items =>
    rw [Schema.fields?, List.length_map, Option.ite_none_right_eq_some, Option.some.injEq] at hgiven
    obtain ⟨hlength, rfl⟩ := hgiven
    rw [readRecord, setInOrder_eq_setGiven]
    simp only [if_pos hlength, bind_pure]
  | _ => cases hgiven

/-- What gives no values for the fields is no record. -/
theorem readRecord_ne_ok (hgiven : Schema.fields? (fields.map Field.name) v = none) (s : σ) :
    readRecord expected fields defaults v ≠ .ok s := by
  cases v with
  | object members => cases hgiven
  | list items =>
    have hlength : ¬ items.length ≤ fields.length := by simpa [Schema.fields?] using hgiven
    rw [readRecord]
    cases setInOrder fields items defaults <;> simp [bind, Except.bind, hlength]
  | _ => exact nofun

end Both

end PromqlEditor.Options
