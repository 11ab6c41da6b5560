import PromqlEditor.Json.Grammar
import PromqlEditor.Proofs.Decimal.Count

/-!
# Digits are read as far as they fit

A reader gives something and leaves the rest of its text (`Reads`). What readers of numbers have in
common is a run of digits, which can be taken out of a text in one way only (`exists_run`). As many
of its digits are appended to a number as fit below a bound (`Fills.appendDigits_eq`).
-/

namespace PromqlEditor.Json

/-! ## Readers -/

section Readers

variable {α β : Type} {p q : Text → Prop}

/-- Whether a reader gives `a` and leaves `r` of its text. -/
def Reads (x : Except Fault (α × Subtype p)) (a : α) (r : Text) : Prop :=
  ∃ h, x = .ok (a, ⟨r, h⟩)

variable {a : α} {b : β} {r : Text}

@[simp] theorem not_reads_error {e : Fault} :
    ¬ Reads (.error e : Except Fault (α × Subtype p)) a r := by
  rintro ⟨_, h⟩
  cases h

@[simp] theorem reads_ok_iff {y : α × Subtype p} : Reads (.ok y) a r ↔ y.1 = a ∧ y.2.1 = r := by
  constructor
  · rintro ⟨_, h⟩
    cases h
    exact ⟨rfl, rfl⟩
  · rintro ⟨rfl, rfl⟩
    exact ⟨y.2.2, rfl⟩

@[simp] theorem reads_pure_iff {y : α × Subtype p} :
    Reads (pure y) a r ↔ y.1 = a ∧ y.2.1 = r := reads_ok_iff

/-- A reader that goes on with what another one gives. -/
theorem reads_bind_iff {γ : Type} {x : Except Fault γ} {f : γ → Except Fault (α × Subtype p)} :
    Reads (x >>= f) a r ↔ ∃ y, x = .ok y ∧ Reads (f y) a r := by
  cases x <;> simp [bind, Except.bind]

section Map

variable {x : Except Fault (α × Subtype p)} {f : α × Subtype p → Except Fault (β × Subtype q)}
  {g : α → β}

/-- A reader may make something of what another one gives and leave the same. -/
theorem Reads.map (h : Reads x a r) (hf : ∀ a r h, Reads (f (a, ⟨r, h⟩)) (g a) r) :
    Reads (x >>= f) (g a) r := by
  obtain ⟨hr, rfl⟩ := h
  exact hf a r hr

theorem Reads.of_map (h : Reads (x >>= f) b r) (hf : ∀ a r h, Reads (f (a, ⟨r, h⟩)) (g a) r) :
    ∃ a, Reads x a r ∧ g a = b := by
  obtain ⟨⟨a, left, hleft⟩, rfl, hb⟩ := reads_bind_iff.1 h
  obtain ⟨hr, hfa⟩ := hf a left hleft
  rw [hfa, reads_ok_iff] at hb
  obtain ⟨rfl, rfl⟩ := hb
  exact ⟨a, reads_ok_iff.2 ⟨rfl, rfl⟩, rfl⟩

end Map

section Keep

variable {x : Except Fault (α × Subtype p)} {f : α × Subtype p → Except Fault (α × Subtype q)}

theorem Reads.keep (h : Reads x a r) (hf : ∀ a r h, Reads (f (a, ⟨r, h⟩)) a r) :
    Reads (x >>= f) a r := h.map (g := id) hf

theorem Reads.of_keep (h : Reads (x >>= f) a r) (hf : ∀ a r h, Reads (f (a, ⟨r, h⟩)) a r) :
    Reads x a r := by
  obtain ⟨_, hx, rfl⟩ := h.of_map (g := id) hf
  exact hx

theorem reads_keep_iff (hf : ∀ a r h, Reads (f (a, ⟨r, h⟩)) a r) :
    Reads (x >>= f) a r ↔ Reads x a r :=
  ⟨fun h => h.of_keep hf, fun h => h.keep hf⟩

end Keep

end Readers

/-! ## Digits -/

section Digits

variable {bound n m : Nat} {taken more r s : Text}

/-- Whether a text does not start with a digit. -/
def NoDigit (r : Text) : Prop := ∀ c ∈ r.head?, c.isDigit = false

theorem startsWithDigit_eq_false_iff : startsWithDigit r = false ↔ NoDigit r := by
  cases r with
  | nil => simp [startsWithDigit, NoDigit]
  | cons c r => simp [startsWithDigit, NoDigit]

/-- Digits are appended as long as they fit. -/
theorem appendDigits_append (count : Nat) (hdigits : ∀ c ∈ taken, c.isDigit = true)
    (hlt : n * Nat.pow 10 taken.length + decimalValue taken < bound)
    (hr : ∀ c ∈ r.head?, c.isDigit = true →
      bound ≤ 10 * (n * Nat.pow 10 taken.length + decimalValue taken) + digitValue c) :
    ∃ h, appendDigits bound n count (taken ++ r) =
      (n * Nat.pow 10 taken.length + decimalValue taken, count + taken.length, ⟨r, h⟩) := by
  induction taken generalizing n count with
  | nil =>
    have hempty : n * Nat.pow 10 ([] : Text).length + decimalValue [] = n := Nat.mul_one n
    rw [hempty] at hr ⊢
    cases r with
    | nil => exact ⟨Nat.le_refl _, rfl⟩
    | cons c r =>
      refine ⟨Nat.le_refl _, ?_⟩
      show appendDigits bound n count (c :: r) = _
      rw [appendDigits, if_neg]
      · rfl
      · simp only [Bool.and_eq_true, decide_eq_true_eq, not_and, Nat.not_lt]
        exact hr c rfl
  | cons c taken ih =>
    obtain ⟨hc, hdigits⟩ := List.forall_mem_cons.1 hdigits
    rw [place_cons] at hlt hr ⊢
    -- the part that is written already fits, since the whole number does
    have hfits : 10 * n + digitValue c < bound :=
      Nat.lt_of_le_of_lt (le_place _ taken) hlt
    obtain ⟨h, happend⟩ := ih (count + 1) hdigits hlt hr
    refine ⟨Nat.le_succ_of_le h, ?_⟩
    show appendDigits bound n count (c :: (taken ++ r)) = _
    rw [appendDigits, if_pos (by simp [hc, hfits]), happend, Nat.add_assoc,
      Nat.add_comm 1 taken.length]
    rfl

/-- A text is a run of digits and what follows it. -/
theorem exists_run (s : Text) :
    ∃ digits r, s = digits ++ r ∧ (∀ c ∈ digits, c.isDigit = true) ∧ NoDigit r := by
  induction s with
  | nil => exact ⟨[], [], rfl, nofun, nofun⟩
  | cons c s ih =>
    by_cases hc : c.isDigit = true
    · obtain ⟨digits, r, rfl, hdigits, hr⟩ := ih
      exact ⟨c :: digits, r, rfl, List.forall_mem_cons.2 ⟨hc, hdigits⟩, hr⟩
    · refine ⟨[], c :: s, rfl, nofun, ?_⟩
      rintro _ ⟨⟩
      exact Bool.eq_false_iff.2 hc

/-- Of a run of digits as many fit as are taken. -/
theorem exists_fills (hn : n < bound) (digits : Text) :
    ∃ taken more m, digits = taken ++ more ∧ Fills bound n taken more m := by
  induction digits generalizing n with
  | nil => exact ⟨[], [], n, rfl, (Nat.mul_one n).symm, hn, nofun⟩
  | cons c digits ih =>
    by_cases hfits : 10 * n + digitValue c < bound
    · obtain ⟨taken, more, m, rfl, rfl, hlt, hnext⟩ := ih hfits
      exact ⟨c :: taken, more, _, rfl, (place_cons n c taken).symm, hlt, hnext⟩
    · refine ⟨[], c :: digits, n, rfl, (Nat.mul_one n).symm, hn, ?_⟩
      rintro _ ⟨⟩
      exact Nat.not_lt.1 hfits

/-- A digit that is taken is the last one of the number before the others. -/
theorem fills_cons_iff {c : Char} :
    Fills bound n (c :: taken) more m ↔ Fills bound (10 * n + digitValue c) taken more m := by
  constructor
  · rintro ⟨heq, hlt, hnext⟩
    exact ⟨heq.trans (place_cons n c taken), hlt, hnext⟩
  · rintro ⟨heq, hlt, hnext⟩
    exact ⟨heq.trans (place_cons n c taken).symm, hlt, hnext⟩

/-- Of a run of digits as many are appended as fit. -/
theorem Fills.appendDigits_eq (h : Fills bound n taken more m) (count : Nat)
    (hdigits : ∀ c ∈ taken ++ more, c.isDigit = true) (hr : NoDigit r)
    (hs : s = taken ++ more ++ r) :
    ∃ rest hle, appendDigits bound n count s = (m, count + taken.length, ⟨rest, hle⟩) ∧
      rest = more ++ r := by
  rw [List.append_assoc] at hs
  subst hs
  obtain ⟨rfl, hlt, hnext⟩ := h
  have hdropped : ∀ c ∈ (more ++ r).head?, c.isDigit = true →
      bound ≤ 10 * (n * Nat.pow 10 taken.length + decimalValue taken) + digitValue c := by
    intro c hc hdigit
    cases more with
    | nil => exact absurd hdigit (Bool.eq_false_iff.1 (hr c hc))
    | cons d more => exact hnext c hc
  obtain ⟨hle, happend⟩ :=
    appendDigits_append count (List.forall_mem_append.1 hdigits).1 hlt hdropped
  exact ⟨more ++ r, hle, happend, rfl⟩

/-- What is left of a run of digits is left out. -/
theorem skipDigits_append (hdigits : ∀ c ∈ more, c.isDigit = true) (hr : NoDigit r) :
    (skipDigits (more ++ r)).1 = r := by
  show (more ++ r).dropWhile Char.isDigit = r
  rw [List.dropWhile_append_of_pos hdigits]
  cases r with
  | nil => rfl
  | cons c r => rw [List.dropWhile_cons_of_neg (by simp [hr c rfl])]

/-- Digits behind others behind a number. -/
theorem place_append (n : Nat) (taken more : Text) :
    n * Nat.pow 10 (taken ++ more).length + decimalValue (taken ++ more) =
      (n * Nat.pow 10 taken.length + decimalValue taken) * Nat.pow 10 more.length +
        decimalValue more := by
  induction taken generalizing n with
  | nil =>
    have hempty : n * Nat.pow 10 ([] : Text).length + decimalValue [] = n := Nat.mul_one n
    rw [hempty]
    rfl
  | cons c taken ih => rw [List.cons_append, place_cons, place_cons, ih]

/-- All digits fit just if the whole number lies below the bound. -/
theorem Fills.eq_nil_iff (h : Fills bound n taken more m) : more = [] ↔
    n * Nat.pow 10 (taken ++ more).length + decimalValue (taken ++ more) < bound := by
  obtain ⟨rfl, hlt, hnext⟩ := h
  rw [place_append]
  cases more with
  | nil =>
    refine iff_of_true rfl ?_
    show _ * 1 + 0 < bound
    rwa [Nat.mul_one]
  | cons c more =>
    refine iff_of_false nofun (Nat.not_lt.2 ?_)
    rw [place_cons]
    exact (hnext c rfl).trans (le_place _ more)

end Digits

end PromqlEditor.Json
