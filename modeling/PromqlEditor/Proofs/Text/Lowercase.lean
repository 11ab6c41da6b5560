import PromqlEditor.Text.Lowercase

/-!
# Words of ASCII letters in lower case

Which texts have a given word of ASCII letters as their lower case. A character outside ASCII stays
outside ASCII, with two exceptions: `K` (U+212A) becomes a `k` and `İ` becomes an `i` with a dot
above it. So a word of ASCII letters without `k` and `i` is the lower case of its spellings in ASCII
letters, capital or small, and of no other text (`lowercase_eq_iff`).
-/

namespace PromqlEditor.Text

/-- Whether no character outside ASCII becomes this one in lower case. -/
def IsPlain (c : Char) : Prop := c.toNat < 0x80 ∧ c ≠ 'i' ∧ c ≠ 'k'

instance (c : Char) : Decidable (IsPlain c) :=
  inferInstanceAs (Decidable (c.toNat < 0x80 ∧ c ≠ 'i' ∧ c ≠ 'k'))

variable {c : Char}

/-! ## In ASCII -/

/-- In ASCII the lower case is that of the core library. -/
theorem smallLetter_of_ascii (hc : c.toNat < 0x80) : smallLetter c capitals = c.toLower := by
  have all : ∀ n : Fin 0x80, smallLetter (Char.ofNat n) capitals = (Char.ofNat n).toLower := by
    decide +kernel
  have hall := all ⟨c.toNat, hc⟩
  rwa [Char.ofNat_toNat] at hall

theorem lowercaseBetween_of_ascii (hc : c.toNat < 0x80) (before after : Text) :
    lowercaseBetween before c after = [c.toLower] := by
  have hdotted : c ≠ 'İ' := by
    rintro rfl
    exact absurd hc (by decide)
  have hsigma : c ≠ 'Σ' := by
    rintro rfl
    exact absurd hc (by decide)
  rw [lowercaseBetween, if_neg hdotted, if_neg hsigma, smallLetter_of_ascii hc]

/-! ## Outside ASCII -/

theorem toLower_of_not_ascii (hc : ¬ c.toNat < 0x80) : c.toLower = c := by
  have hval : ¬ (c.val ≥ 'A'.val ∧ c.val ≤ 'Z'.val) := by
    intro h
    have hZ : c.toNat ≤ 'Z'.toNat := UInt32.le_iff_toNat_le.1 h.2
    have : 'Z'.toNat = 0x5A := rfl
    omega
  delta Char.toLower
  exact dif_neg hval

/-- A character is a capital letter of one of the stretches, or it stays as it is. -/
theorem smallLetter_cases (c : Char) (stretches : List Capitals) :
    smallLetter c stretches = c ∨ ∃ s ∈ stretches, s.first ≤ c.toNat ∧ c.toNat ≤ s.last ∧
      smallLetter c stretches = Char.ofNat (s.small + (c.toNat - s.first)) := by
  fun_induction smallLetter c stretches with
  | case1 => exact Or.inl rfl
  | case2 => exact Or.inl rfl
  | case3 s stretches hfirst hlast ih =>
    rcases ih with hsame | ⟨s', hs', hcapital⟩
    · exact Or.inl hsame
    · exact Or.inr ⟨s', List.mem_cons_of_mem s hs', hcapital⟩
  | case4 s stretches hfirst hlast =>
    exact Or.inr ⟨s, List.mem_cons_self, by omega, by omega, rfl⟩
  | case5 => exact Or.inl rfl

/-- The small letters of a stretch outside ASCII are outside ASCII too, unless it is that of `K`. -/
theorem capitals_apart : ∀ s ∈ capitals, s.last < 0x80 ∨
    s.first = 0x212A ∧ s.last = 0x212A ∧ s.small = 0x6B ∨
    0x80 ≤ s.small ∧ (s.small + (s.last - s.first) < 0xD800 ∨
      0xDFFF < s.small ∧ s.small + (s.last - s.first) < 0x110000) := by
  decide +kernel

theorem not_isPlain_smallLetter (hc : ¬ c.toNat < 0x80) : ¬ IsPlain (smallLetter c capitals) := by
  intro hplain
  rcases smallLetter_cases c capitals with hsame | ⟨s, hs, hfirst, hlast, hsmall⟩
  · rw [hsame] at hplain
    exact hc hplain.1
  · rw [hsmall] at hplain
    rcases capitals_apart s hs with hascii | ⟨hkelvin, hkelvin', hk⟩ | ⟨hapart, hvalid⟩
    · omega
    · have hoffset : s.small + (c.toNat - s.first) = 0x6B := by omega
      rw [hoffset] at hplain
      exact hplain.2.2 rfl
    · have hcode : (s.small + (c.toNat - s.first)).isValidChar := by
        delta Nat.isValidChar
        omega
      delta Char.ofNat at hplain
      rw [dif_pos hcode] at hplain
      have hascii : s.small + (c.toNat - s.first) < 0x80 := hplain.1
      omega

/-- The lower case of a character outside ASCII does not start with a plain character. -/
theorem exists_lowercaseBetween (hc : ¬ c.toNat < 0x80) (before after : Text) :
    ∃ d ds, lowercaseBetween before c after = d :: ds ∧ ¬ IsPlain d := by
  unfold lowercaseBetween
  by_cases hdotted : c = 'İ'
  · rw [if_pos hdotted]
    exact ⟨'i', _, rfl, fun hplain => hplain.2.1 rfl⟩
  · rw [if_neg hdotted]
    by_cases hsigma : c = 'Σ'
    · rw [if_pos hsigma]
      refine ⟨_, [], rfl, ?_⟩
      intro hplain
      have hascii := hplain.1
      split at hascii <;> exact absurd hascii (by decide)
    · rw [if_neg hsigma]
      exact ⟨_, [], rfl, not_isPlain_smallLetter hc⟩

/-! ## Words -/

theorem lowercaseBehind_eq_iff {word : Text} (hword : ∀ c ∈ word, IsPlain c) (before t : Text) :
    lowercaseBehind before t = word ↔ t.map Char.toLower = word := by
  induction t generalizing before word with
  | nil => rfl
  | cons c t ih =>
    rw [lowercaseBehind, List.map_cons]
    by_cases hc : c.toNat < 0x80
    · rw [lowercaseBetween_of_ascii hc, List.singleton_append]
      cases word with
      | nil => exact iff_of_false (List.cons_ne_nil _ _) (List.cons_ne_nil _ _)
      | cons d word =>
        have hrest := ih (fun e he => hword e (List.mem_cons_of_mem d he)) (c :: before)
        rw [List.cons.injEq, List.cons.injEq, hrest]
    · -- neither side can start the word
      obtain ⟨d, ds, hpiece, hplain⟩ := exists_lowercaseBetween hc before t
      rw [hpiece, toLower_of_not_ascii hc]
      refine iff_of_false ?_ ?_
      · rintro rfl
        exact hplain (hword d List.mem_cons_self)
      · rintro rfl
        exact hc (hword c List.mem_cons_self).1

/-- A word of plain characters is the lower case of just those texts that differ from it in the case
of ASCII letters only. -/
theorem lowercase_eq_iff {word : Text} (hword : ∀ c ∈ word, IsPlain c) (t : Text) :
    lowercase t = word ↔ t.map Char.toLower = word :=
  lowercaseBehind_eq_iff hword [] t

end PromqlEditor.Text
