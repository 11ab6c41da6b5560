import PromqlEditor.Proofs.Json.Digits

/-!
# Numbers are read as they are written

A number is read from left to right, and what is read of it ends where the next character cannot
belong to it any more (`EndsNumber`). What has been read by then is the text of the number that is
given (`exists_of_reads_readNumber`), and where the text of a number is followed by something that
cannot belong to it, this number is given (`WritesNumber.reads`). Both go down through the parts of
a number to its digits.
-/

namespace PromqlEditor.Json

/-! ## Exponents -/

section Exponents

variable {negative down : Bool} {significand : Nat} {exponent : Int} {v : Value}
  {digits r s t : Text}

theorem reads_realNumber_iff {left : Tail s} :
    Reads (realNumber negative significand exponent t >>= fun v => pure (v, left)) v r ↔
      (∃ x, scaled? significand exponent = some x ∧ .real (signed negative x) = v) ∧
        left.1 = r := by
  rw [reads_bind_iff, realNumber]
  split <;> simp_all [signed]

theorem IsDigits.exists_cons (h : IsDigits digits) :
    ∃ c t, digits = c :: t ∧ c.isDigit = true := by
  obtain ⟨c, t, rfl⟩ := List.exists_cons_of_ne_nil h.1
  exact ⟨c, t, rfl, h.2 c List.mem_cons_self⟩

theorem isRaised_iff_of_lt {n : Nat} (hn : n < exponentBound) :
    IsRaised negative significand exponent down n v ↔
      ∃ x, scaled? significand (if down then exponent - n else exponent + n) = some x ∧
        .real (signed negative x) = v := by
  constructor
  · intro h
    cases h with
    | scaled _ hx => exact ⟨_, hx, rfl⟩
    | vanishing hle _ => exact absurd hn (Nat.not_lt.2 hle)
  · rintro ⟨x, hx, rfl⟩
    exact .scaled hn hx

theorem isRaised_iff_of_le {n : Nat} (hn : exponentBound ≤ n) :
    IsRaised negative significand exponent down n v ↔
      (significand = 0 ∨ down = true) ∧ .real (signed negative 0.0) = v := by
  constructor
  · intro h
    cases h with
    | scaled hlt _ => exact absurd hlt (Nat.not_lt.2 hn)
    | vanishing _ hzero => exact ⟨hzero, rfl⟩
  · rintro ⟨hzero, rfl⟩
    exact .vanishing hn hzero

/-- The digits of an exponent are all read, and decide what becomes of the number. -/
theorem reads_readExponentDigits_iff (hdigits : IsDigits digits) (hr : NoDigit r)
    (hs : s = digits ++ r) :
    Reads (readExponentDigits negative significand exponent down s) v t ↔
      IsRaised negative significand exponent down (decimalValue digits) v ∧ r = t := by
  obtain ⟨c, rest, hcons, hc⟩ := hdigits.exists_cons
  obtain ⟨taken, more, n, rfl, hfills⟩ := exists_fills (by decide : 0 < exponentBound) digits
  have hmore : ∀ c ∈ more, c.isDigit = true := (List.forall_mem_append.1 hdigits.2).2
  have hfit := hfills.eq_nil_iff
  rw [Nat.zero_mul, Nat.zero_add] at hfit
  obtain ⟨left, hle, happend, hleft⟩ := hfills.appendDigits_eq 0 hdigits.2 hr hs
  rw [hcons] at hs
  subst hs
  show Reads (readExponentDigits _ _ _ _ (c :: (rest ++ r))) v t ↔ _
  rw [readExponentDigits, if_neg (by simp [hc])]
  simp only [List.cons_append] at happend
  rw [happend]
  dsimp only
  cases more with
  | nil =>
    obtain rfl : left = r := hleft
    obtain rfl : n = decimalValue taken := by simpa using hfills.eq
    rw [List.append_nil] at hfit ⊢
    rw [isRaised_iff_of_lt (hfit.1 rfl),
      if_neg (Bool.eq_false_iff.1 (startsWithDigit_eq_false_iff.2 hr)), reads_realNumber_iff]
  | cons d more =>
    have hd : startsWithDigit left = true := hleft ▸ (List.forall_mem_cons.1 hmore).1
    have hlarge : exponentBound ≤ decimalValue (taken ++ d :: more) :=
      Nat.not_lt.1 fun hlt => List.cons_ne_nil d more (hfit.2 hlt)
    rw [isRaised_iff_of_le hlarge, if_pos hd]
    by_cases hlost : significand = 0 ∨ down = true
    · have hskip : (skipDigits left).1 = r := hleft ▸ skipDigits_append hmore hr
      rw [if_neg (by simpa [imp_iff_not_or] using hlost), reads_ok_iff, and_iff_right hlost]
      exact and_congr Iff.rfl (Iff.of_eq (congrArg (· = t) hskip))
    · rw [if_pos (by simpa [not_or] using hlost)]
      simp [hlost]

theorem exists_of_reads_readExponentDigits
    (h : Reads (readExponentDigits negative significand exponent down s) v r) :
    ∃ digits, s = digits ++ r ∧ IsDigits digits ∧
      IsRaised negative significand exponent down (decimalValue digits) v := by
  obtain ⟨digits, left, hs, hall, hleft⟩ := exists_run s
  have hne : digits ≠ [] := by
    rintro rfl
    obtain rfl : s = left := hs
    unfold readExponentDigits at h
    split at h
    · exact not_reads_error h
    · rename_i c t
      rw [if_pos (by simp [hleft c rfl])] at h
      exact not_reads_error h
  obtain ⟨hv, rfl⟩ := (reads_readExponentDigits_iff ⟨hne, hall⟩ hleft hs).1 h
  exact ⟨digits, hs, ⟨hne, hall⟩, hv⟩

theorem exists_of_reads_readExponent
    (h : Reads (readExponent negative significand exponent s) v r) :
    ∃ sign digits down, s = sign ++ digits ++ r ∧ sign ∈ exponentSigns down ∧ IsDigits digits ∧
      IsRaised negative significand exponent down (decimalValue digits) v := by
  unfold readExponent at h
  split at h
  · obtain ⟨digits, rfl, hdigits, hv⟩ :=
      exists_of_reads_readExponentDigits (h.of_keep fun _ _ _ => ⟨_, rfl⟩)
    exact ⟨['+'], digits, false, rfl, by decide, hdigits, hv⟩
  · obtain ⟨digits, rfl, hdigits, hv⟩ :=
      exists_of_reads_readExponentDigits (h.of_keep fun _ _ _ => ⟨_, rfl⟩)
    exact ⟨['-'], digits, true, rfl, by decide, hdigits, hv⟩
  · obtain ⟨digits, rfl, hdigits, hv⟩ := exists_of_reads_readExponentDigits h
    exact ⟨[], digits, false, rfl, by decide, hdigits, hv⟩

theorem readExponent_of_isDigit {c : Char} (hs : s = c :: t) (hc : c.isDigit = true) :
    readExponent negative significand exponent s =
      readExponentDigits negative significand exponent false s := by
  unfold readExponent
  split
  · cases hs
    cases hc
  · cases hs
    cases hc
  · rfl

theorem reads_readExponent {sign : Text} (hsign : sign ∈ exponentSigns down)
    (hdigits : IsDigits digits) (hr : NoDigit r)
    (hv : IsRaised negative significand exponent down (decimalValue digits) v) :
    Reads (readExponent negative significand exponent (sign ++ digits ++ r)) v r := by
  have hread (down) (hv : IsRaised negative significand exponent down (decimalValue digits) v) :
      Reads (readExponentDigits negative significand exponent down (digits ++ r)) v r :=
    (reads_readExponentDigits_iff hdigits hr rfl).2 ⟨hv, rfl⟩
  cases down with
  | true =>
    obtain rfl : sign = ['-'] := List.mem_singleton.1 hsign
    exact (hread true hv).keep fun _ _ _ => ⟨_, rfl⟩
  | false =>
    obtain rfl | rfl : sign = [] ∨ sign = ['+'] := by simpa [exponentSigns] using hsign
    · obtain ⟨c, t, rfl, hc⟩ := hdigits.exists_cons
      rw [List.nil_append, readExponent_of_isDigit List.cons_append hc]
      exact hread false hv
    · exact (hread false hv).keep fun _ _ _ => ⟨_, rfl⟩

end Exponents

/-! ## Numbers -/

/-- Whether the front of a text cannot belong to a number before it. -/
def EndsNumber (r : Text) : Prop :=
  ∀ c ∈ r.head?, c.isDigit = false ∧ c ≠ '.' ∧ c ≠ 'e' ∧ c ≠ 'E'

section Numbers

variable {negative : Bool} {significand n dropped : Nat} {exponent : Int} {v : Value}
  {taken more r s t : Text}

theorem EndsNumber.noDigit (h : EndsNumber r) : NoDigit r := fun c hc => (h c hc).1

theorem EndsNumber.startsWithMark_eq_false (h : EndsNumber r) : startsWithMark r = false := by
  cases r with
  | nil => rfl
  | cons c r =>
    obtain ⟨-, -, he, hE⟩ := h c rfl
    simp [startsWithMark, he, hE]

theorem startsWithMark_cons_iff {c : Char} :
    startsWithMark (c :: t) = true ↔ c = 'e' ∨ c = 'E' := by
  simp [startsWithMark]

theorem WritesScale.noDigit_append (h : WritesScale negative significand exponent t v)
    (hr : NoDigit r) : NoDigit (t ++ r) := by
  cases h with
  | none _ => exact hr
  | exponent hmark _ _ _ =>
    rintro _ ⟨⟩
    rcases hmark with rfl | rfl <;> rfl

theorem exists_of_reads_readScale (h : Reads (readScale negative significand exponent s) v r) :
    ∃ t, s = t ++ r ∧ (startsWithMark s = true → t ≠ []) ∧
      WritesScale negative significand exponent t v := by
  unfold readScale at h
  split at h
  · rename_i c t
    by_cases hmark : startsWithMark (c :: t) = true
    · rw [if_pos hmark] at h
      obtain ⟨sign, digits, down, rfl, hsign, hdigits, hv⟩ :=
        exists_of_reads_readExponent (h.of_keep fun _ _ _ => ⟨_, rfl⟩)
      exact ⟨c :: sign ++ digits, rfl, fun _ => List.cons_ne_nil _ _,
        .exponent (startsWithMark_cons_iff.1 hmark) hsign hdigits hv⟩
    · rw [if_neg hmark] at h
      obtain ⟨⟨x, hx, rfl⟩, rfl⟩ := reads_realNumber_iff.1 h
      exact ⟨[], rfl, fun h => absurd h hmark, .none hx⟩
  · obtain ⟨⟨x, hx, rfl⟩, rfl⟩ := reads_realNumber_iff.1 h
    exact ⟨[], rfl, nofun, .none hx⟩

theorem WritesScale.reads (h : WritesScale negative significand exponent t v)
    (hr : EndsNumber r) : Reads (readScale negative significand exponent (t ++ r)) v r := by
  cases h with
  | @none x hx =>
    cases r with
    | nil => exact reads_realNumber_iff.2 ⟨⟨x, hx, rfl⟩, rfl⟩
    | cons c r =>
      rw [List.nil_append, readScale,
        if_neg (Bool.eq_false_iff.1 hr.startsWithMark_eq_false)]
      exact reads_realNumber_iff.2 ⟨⟨x, hx, rfl⟩, rfl⟩
  | @exponent mark sign digits down _ hmark hsign hdigits hv =>
    have hread := reads_readExponent hsign hdigits hr.noDigit hv
    show Reads (readScale _ _ _ (mark :: (sign ++ digits ++ r))) v r
    rw [readScale, if_pos (startsWithMark_cons_iff.2 hmark)]
    exact hread.keep fun _ _ _ => ⟨_, rfl⟩

/-- Nothing is a digit of a run just if nothing is taken and no digit is left. -/
theorem length_eq_zero_and_not_startsWithDigit_iff (taken : Text)
    (hmore : ∀ c ∈ more, c.isDigit = true) (ht : NoDigit t) :
    (decide (taken.length = 0) && !startsWithDigit (more ++ t)) = true ↔ taken ++ more = [] := by
  rw [Bool.and_eq_true, decide_eq_true_eq, List.length_eq_zero_iff, Bool.not_eq_true',
    List.append_eq_nil_iff, and_congr_right_iff]
  intro _
  cases more with
  | nil => exact iff_of_true (startsWithDigit_eq_false_iff.2 ht) rfl
  | cons c more => simp [startsWithDigit, (List.forall_mem_cons.1 hmore).1]

/-- Of the digits of a fraction as many are appended as fit, and the scale comes after them all. -/
theorem reads_readFraction_iff {m : Nat} (hdigits : ∀ c ∈ taken ++ more, c.isDigit = true)
    (hfills : Fills wordBound n taken more m) (ht : NoDigit t) (hs : s = taken ++ more ++ t) :
    Reads (readFraction negative n exponent s) v r ↔
      taken ++ more ≠ [] ∧ Reads (readScale negative m (exponent - taken.length) t) v r := by
  have hmore : ∀ c ∈ more, c.isDigit = true := (List.forall_mem_append.1 hdigits).2
  obtain ⟨left, hle, happend, rfl⟩ := hfills.appendDigits_eq 0 hdigits ht hs
  have hskip := skipDigits_append hmore ht
  have hnone := length_eq_zero_and_not_startsWithDigit_iff taken hmore ht
  rw [readFraction, happend, Nat.zero_add]
  dsimp only
  by_cases hnil : taken ++ more = []
  · rw [if_pos (hnone.2 hnil)]
    exact iff_of_false not_reads_error fun h => h.1 hnil
  · rw [if_neg (mt hnone.1 hnil), and_iff_right hnil]
    rw [reads_keep_iff, hskip]
    exact fun _ _ _ => ⟨_, rfl⟩

theorem exists_of_reads_readNumberEnd (hn : n < wordBound)
    (h : Reads (readNumberEnd negative n dropped s) v r) :
    ∃ t, s = t ++ r ∧ WritesNumberEnd negative n dropped t v := by
  unfold readNumberEnd at h
  split at h
  · rename_i s
    obtain ⟨digits, t, rfl, hdigits, ht⟩ := exists_run s
    obtain ⟨taken, more, m, rfl, hfills⟩ := exists_fills hn digits
    obtain ⟨hne, hread⟩ := (reads_readFraction_iff hdigits hfills ht rfl).1
      (h.of_keep fun _ _ _ => ⟨_, rfl⟩)
    obtain ⟨t, rfl, -, hscale⟩ := exists_of_reads_readScale hread
    exact ⟨'.' :: taken ++ more ++ t, by simp, .fraction ⟨hne, hdigits⟩ hfills hscale⟩
  · split at h
    · rename_i hreal
      obtain ⟨t, rfl, hmark, hscale⟩ := exists_of_reads_readScale h
      refine ⟨t, rfl, .scale ?_ hscale⟩
      rcases Bool.or_eq_true_iff.1 hreal with hstart | hdropped
      · exact Or.inl (hmark hstart)
      · exact Or.inr (of_decide_eq_true hdropped)
    · rename_i hwhole
      obtain ⟨rfl, rfl⟩ := reads_ok_iff.1 h
      have hdropped : dropped = 0 := by
        by_contra hdropped
        exact hwhole (Bool.or_eq_true_iff.2 (Or.inr (decide_eq_true hdropped)))
      exact ⟨[], rfl, .whole hdropped⟩

theorem WritesNumberEnd.noDigit_append (h : WritesNumberEnd negative n dropped t v)
    (hr : NoDigit r) : NoDigit (t ++ r) := by
  cases h with
  | whole _ => exact hr
  | scale _ hscale => exact hscale.noDigit_append hr
  | fraction _ _ _ =>
    rintro _ ⟨⟩
    rfl

theorem readNumberEnd_of_ne_point (hs : ∀ c ∈ s.head?, c ≠ '.') :
    readNumberEnd negative n dropped s =
      if startsWithMark s || dropped ≠ 0 then readScale negative n dropped s
      else .ok (wholeNumber negative n, ⟨s, Nat.le_refl _⟩) := by
  unfold readNumberEnd
  split
  · exact absurd rfl (hs '.' rfl)
  · rfl

theorem WritesScale.ne_point (h : WritesScale negative significand exponent t v)
    (hr : EndsNumber r) : ∀ c ∈ (t ++ r).head?, c ≠ '.' := by
  cases h with
  | none _ => exact fun c hc => (hr c hc).2.1
  | exponent hmark _ _ _ =>
    rintro _ ⟨⟩
    rcases hmark with rfl | rfl <;> decide

theorem WritesScale.startsWithMark_append (h : WritesScale negative significand exponent t v)
    (ht : t ≠ []) : startsWithMark (t ++ r) = true := by
  cases h with
  | none _ => exact absurd rfl ht
  | exponent hmark _ _ _ => exact startsWithMark_cons_iff.2 hmark

theorem WritesNumberEnd.reads (h : WritesNumberEnd negative n dropped t v) (hr : EndsNumber r) :
    Reads (readNumberEnd negative n dropped (t ++ r)) v r := by
  cases h with
  | whole hdropped =>
    rw [List.nil_append, readNumberEnd_of_ne_point fun c hc => (hr c hc).2.1,
      if_neg (by simp [hr.startsWithMark_eq_false, hdropped])]
    exact reads_ok_iff.2 ⟨rfl, rfl⟩
  | scale hreal hscale =>
    have hcond : (startsWithMark (t ++ r) || decide (dropped ≠ 0)) = true := by
      rcases hreal with ht | hdropped
      · rw [hscale.startsWithMark_append ht, Bool.true_or]
      · rw [decide_eq_true hdropped, Bool.or_true]
    rw [readNumberEnd_of_ne_point (hscale.ne_point hr), if_pos hcond]
    exact hscale.reads hr
  | @fraction taken more t m _ hdigits hfills hscale =>
    have hread : Reads (readFraction negative n dropped (taken ++ more ++ (t ++ r))) v r :=
      (reads_readFraction_iff hdigits.2 hfills (hscale.noDigit_append hr.noDigit) rfl).2
        ⟨hdigits.1, hscale.reads hr⟩
    rw [show '.' :: taken ++ more ++ t ++ r = '.' :: (taken ++ more ++ (t ++ r)) by simp]
    exact hread.keep fun _ _ _ => ⟨_, rfl⟩

/-! ## Whole parts -/

theorem digitValue_lt_wordBound {c : Char} (hc : c.isDigit = true) :
    digitValue c < wordBound := by
  have hle : c.toNat ≤ 57 := by
    simp only [Char.isDigit, ge_iff_le, Bool.and_eq_true, decide_eq_true_eq] at hc
    exact UInt32.le_iff_toNat_le.1 hc.2
  have hbound : (57 : Nat) < wordBound := by decide
  unfold digitValue
  omega

/-- Of the digits behind the first one as many are appended as fit, and what may follow the whole
part comes after them all. -/
theorem reads_readNumber_iff {first : Char} {m : Nat} (hfirst : first ≠ '0')
    (hdigits : ∀ c ∈ taken ++ more, c.isDigit = true)
    (hfills : Fills wordBound (digitValue first) taken more m) (ht : NoDigit t)
    (hs : s = taken ++ more ++ t) :
    Reads (readNumber negative first s) v r ↔
      Reads (readNumberEnd negative m more.length t) v r := by
  have hmore : ∀ c ∈ more, c.isDigit = true := (List.forall_mem_append.1 hdigits).2
  obtain ⟨left, hle, happend, rfl⟩ := hfills.appendDigits_eq 1 hdigits ht hs
  have hskip := skipDigits_append hmore ht
  rw [readNumber, if_neg (by simpa using hfirst), happend]
  dsimp only
  rw [reads_keep_iff, hskip, List.length_append, Nat.add_sub_cancel]
  exact fun _ _ _ => ⟨_, rfl⟩

/-- A number that starts with zero has no other digit in its whole part. -/
theorem reads_readNumber_zero_iff : Reads (readNumber negative '0' s) v r ↔
    NoDigit s ∧ Reads (readNumberEnd negative 0 0 s) v r := by
  rw [readNumber, if_pos (beq_self_eq_true '0'), ← startsWithDigit_eq_false_iff]
  by_cases hstart : startsWithDigit s = true
  · simp [hstart]
  · rw [if_neg hstart, and_iff_right (Bool.eq_false_iff.2 hstart)]

theorem fills_zero : Fills wordBound 0 ['0'] [] 0 := ⟨by decide, by decide, nofun⟩

/-- A number is read from its first digit on. -/
theorem exists_of_reads_readNumber {first : Char} (hfirst : first.isDigit = true)
    (h : Reads (readNumber negative first s) v r) :
    ∃ t, first :: s = t ++ r ∧ WritesNumber negative t v := by
  by_cases hzero : first = '0'
  · subst hzero
    obtain ⟨t, rfl, hend⟩ :=
      exists_of_reads_readNumberEnd (by decide) (reads_readNumber_zero_iff.1 h).2
    have hwhole : IsWhole (['0'] ++ []) :=
      ⟨⟨nofun, List.forall_mem_singleton.2 rfl⟩, fun _ => rfl⟩
    exact ⟨['0'] ++ [] ++ t, rfl, .mk hwhole fills_zero hend⟩
  · obtain ⟨digits, t, rfl, hdigits, ht⟩ := exists_run s
    obtain ⟨taken, more, m, rfl, hfills⟩ := exists_fills (digitValue_lt_wordBound hfirst) digits
    obtain ⟨t, rfl, hend⟩ := exists_of_reads_readNumberEnd hfills.lt
      ((reads_readNumber_iff hzero hdigits hfills ht rfl).1 h)
    have hwhole : IsWhole (first :: taken ++ more) :=
      ⟨⟨nofun, List.forall_mem_cons.2 ⟨hfirst, hdigits⟩⟩,
        fun hhead => absurd (Option.some.inj hhead) hzero⟩
    have hfills' : Fills wordBound 0 (first :: taken) more m := by
      rwa [fills_cons_iff, Nat.mul_zero, Nat.zero_add]
    exact ⟨first :: taken ++ more ++ t, by simp, .mk hwhole hfills' hend⟩

/-- The first digit of a number fits, whatever follows. -/
theorem Fills.exists_cons {m : Nat} (h : Fills wordBound 0 taken more m)
    (hwhole : IsDigits (taken ++ more)) :
    ∃ first rest, taken = first :: rest ∧ first.isDigit = true ∧
      Fills wordBound (digitValue first) rest more m := by
  cases taken with
  | nil =>
    obtain ⟨c, rest, rfl, hc⟩ := hwhole.exists_cons
    have hnot : ¬ wordBound ≤ 10 * m + digitValue c := by
      obtain rfl : m = 0 := h.eq
      simpa using digitValue_lt_wordBound hc
    exact absurd (h.bound_le c rfl) hnot
  | cons first rest =>
    refine ⟨first, rest, rfl, hwhole.2 first List.mem_cons_self, ?_⟩
    rwa [fills_cons_iff, Nat.mul_zero, Nat.zero_add] at h

theorem WritesNumber.reads (h : WritesNumber negative t v) (hr : EndsNumber r) :
    ∃ first s, t ++ r = first :: s ∧ first.isDigit = true ∧
      Reads (readNumber negative first s) v r := by
  cases h with
  | @mk taken more t n _ hwhole hfills hend =>
    obtain ⟨first, rest, rfl, hfirst, hfills⟩ := hfills.exists_cons hwhole.1
    have hread := hend.reads hr
    have hdigit := hend.noDigit_append hr.noDigit
    refine ⟨first, rest ++ more ++ (t ++ r), by simp, hfirst, ?_⟩
    by_cases hzero : first = '0'
    · subst hzero
      -- zero stands alone
      obtain ⟨rfl, rfl⟩ : rest = [] ∧ more = [] := by simpa using hwhole.2 rfl
      obtain rfl : n = 0 := hfills.eq
      exact reads_readNumber_zero_iff.2 ⟨hdigit, hread⟩
    · exact (reads_readNumber_iff hzero (List.forall_mem_cons.1 hwhole.1.2).2 hfills hdigit rfl).2
        hread

theorem exists_of_reads_readNegative (h : Reads (readNegative s) v r) :
    ∃ t, s = t ++ r ∧ WritesNumber true t v := by
  unfold readNegative at h
  split at h
  · exact absurd h not_reads_error
  · rename_i c s
    by_cases hc : c.isDigit = true
    · rw [if_pos hc] at h
      exact exists_of_reads_readNumber hc (h.of_keep fun _ _ _ => ⟨_, rfl⟩)
    · rw [if_neg hc] at h
      exact absurd h not_reads_error

theorem WritesNumber.reads_readNegative (h : WritesNumber true t v) (hr : EndsNumber r) :
    Reads (readNegative (t ++ r)) v r := by
  obtain ⟨first, s, hs, hfirst, hread⟩ := h.reads hr
  rw [hs, readNegative, if_pos hfirst]
  exact hread.keep fun _ _ _ => ⟨_, rfl⟩

end Numbers

end PromqlEditor.Json
