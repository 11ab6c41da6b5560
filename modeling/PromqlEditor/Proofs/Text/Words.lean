import PromqlEditor.Text.Blank

/-!
# Words where they stand

The words of a text can be found without splitting it: a word is a stretch without white space that
cannot be made longer, because what stands on either side of it is white space or the end of the
text (`Text.HasWord`). Splitting finds exactly those (`Text.mem_words_iff`). All that is needed of
the way in which a text is split is one equation: white space is where a text falls apart
(`Text.words_append_blank`).

In which order words stand, and how often, is said by what a text consists of: words with white
space between any two of them, and maybe more around them (`Text.Lists`). Splitting undoes that
(`Text.lists_iff`).
-/

namespace PromqlEditor.Text

/-- Whether a word stands in a text, with white space or nothing on either side. -/
def HasWord (t w : Text) : Prop :=
  IsWord w ∧ ∃ p s, t = p ++ w ++ s ∧ (∀ b ∈ p.getLast?, isBlank b = true) ∧
    ∀ b ∈ s.head?, isBlank b = true

/-- Whether a text consists of words, in the given order, and of white space between any two of them
and wherever else it may stand. -/
inductive Lists : Text → List Text → Prop
  | none {gap : Text} (hgap : ∀ c ∈ gap, isBlank c = true) : Lists gap []
  | word {gap w t : Text} {ws : List Text} (hgap : ∀ c ∈ gap, isBlank c = true) (hw : IsWord w)
      (hend : ∀ b ∈ t.head?, isBlank b = true) (ht : Lists t ws) :
      Lists (gap ++ w ++ t) (w :: ws)

/-! ## Splitting at white space -/

theorem words_ne_nil {c : Char} (hc : isBlank c = false) (t : Text) : words (c :: t) ≠ [] := by
  intro hnil
  cases t with
  | nil => simp [words, hc] at hnil
  | cons d t =>
    cases hd : isBlank d with
    | true => simp [words, hc, hd] at hnil
    | false =>
      have hrest := words_ne_nil hd t
      rw [words, hc] at hnil
      cases hwords : words (d :: t) with
      | nil => exact hrest hwords
      | cons v vs => simp [hd, hwords] at hnil

/-- A text falls apart where white space stands. -/
theorem words_append_blank {b : Char} (hb : isBlank b = true) (s t : Text) :
    words (s ++ b :: t) = words s ++ words t := by
  fun_induction words s with
  | case1 => simp [words, hb]
  | case2 c s hc ih => simpa [words, hc] using ih
  | case3 c hc => simp [words, hc, hb]
  | case4 c hc d s hd ih =>
    simp only [List.cons_append] at ih ⊢
    rw [words, if_neg hc]
    simp [hd, ih]
  | case5 c hc d s hd ih =>
    simp only [List.cons_append] at ih ⊢
    rw [words, if_neg hc]
    cases hwords : words (d :: s) with
    | nil => exact absurd hwords (words_ne_nil (by simpa using hd) s)
    | cons v vs => simp [hd, ih, hwords]

/-- Without white space a text is one word, if it is anything. -/
theorem mem_words_of_forall_not_isBlank {x w : Text} (hx : ∀ c ∈ x, isBlank c = false) :
    w ∈ words x ↔ w = x ∧ x ≠ [] := by
  by_cases hnil : x = []
  · simp [hnil, words]
  · have hword : words (x ++ []) = x :: words [] := words_append ⟨hnil, hx⟩ (by simp)
    rw [List.append_nil] at hword
    simp [hword, words, hnil]

/-! ## What splitting undoes -/

section

variable {c : Char} {t : Text} {ws : List Text}

/-- White space in front of words makes no difference. -/
theorem Lists.blank_cons (h : Lists t ws) (hc : isBlank c = true) : Lists (c :: t) ws := by
  cases h with
  | none hgap => exact .none (List.forall_mem_cons.2 ⟨hc, hgap⟩)
  | word hgap hw hend ht => exact .word (List.forall_mem_cons.2 ⟨hc, hgap⟩) hw hend ht

/-- Words may start with a text as soon as white space or nothing follows its first word. -/
theorem Lists.word_append {w : Text} (hw : IsWord w) (hend : ∀ b ∈ t.head?, isBlank b = true)
    (ht : Lists t ws) : Lists (w ++ t) (w :: ws) :=
  .word (List.forall_mem_nil _) hw hend ht

/-- A character in front of a word makes the word longer. -/
theorem Lists.cons_modifyHead {d : Char} (h : Lists (d :: t) ws) (hc : isBlank c = false)
    (hd : isBlank d = false) : Lists (c :: d :: t) (ws.modifyHead (c :: ·)) := by
  generalize hs : d :: t = s at h
  cases h with
  | none hgap =>
    have hblank : isBlank d = true := hgap d (hs ▸ List.mem_cons_self)
    exact absurd hblank (by simp [hd])
  | @word gap w u _ hgap hw hend hu =>
    cases gap with
    | nil => exact .word_append ⟨List.cons_ne_nil c w, List.forall_mem_cons.2 ⟨hc, hw.2⟩⟩ hend hu
    | cons e gap =>
      obtain rfl : d = e := (List.cons.inj hs).1
      exact absurd (hgap d List.mem_cons_self) (by simp [hd])

theorem isWord_singleton (hc : ¬ isBlank c = true) : IsWord [c] := by
  simpa [IsWord] using hc

theorem lists_words (t : Text) : Lists t (words t) := by
  fun_induction words t with
  | case1 => exact .none (List.forall_mem_nil _)
  | case2 c t hc ih => exact ih.blank_cons hc
  | case3 c hc => exact .word_append (isWord_singleton hc) (by simp) (.none (List.forall_mem_nil _))
  | case4 c hc d t hd ih => exact .word_append (isWord_singleton hc) (by simpa using hd) ih
  | case5 c hc d t hd ih => exact ih.cons_modifyHead (by simpa using hc) (by simpa using hd)

theorem words_blank_append {gap : Text} (hgap : ∀ c ∈ gap, isBlank c = true) (t : Text) :
    words (gap ++ t) = words t := by
  induction gap with
  | nil => rfl
  | cons b gap ih =>
    obtain ⟨hb, hgap⟩ := List.forall_mem_cons.1 hgap
    simp [words, hb, ih hgap]

/-- A text lists its words, in order, and no others. -/
theorem lists_iff : Lists t ws ↔ ws = words t := by
  constructor
  · intro h
    induction h with
    | @none gap hgap =>
      have hwords := words_blank_append hgap []
      rw [List.append_nil] at hwords
      exact hwords.symm
    | word hgap hw hend _ ih =>
      rw [List.append_assoc, words_blank_append hgap, words_append hw hend, ih]
  · rintro rfl
    exact lists_words t

end

/-! ## What splitting finds -/

/-- Whatever stands before white space, a word behind it is a word. -/
theorem HasWord.append {t w : Text} (h : HasWord t w) (s : Text) {b : Char}
    (hb : isBlank b = true) : HasWord (s ++ b :: t) w := by
  obtain ⟨hword, p, q, rfl, hp, hq⟩ := h
  refine ⟨hword, s ++ b :: p, q, by simp, ?_, hq⟩
  cases p with
  | nil => simpa using hb
  | cons c p => simpa using hp

/-- A word that is found stands in the text. The text is gone through from left to right, and `x`
is the run without white space that was read last. -/
theorem hasWord_of_mem_words {x t w : Text} (hx : ∀ c ∈ x, isBlank c = false)
    (hw : w ∈ words (x ++ t)) : HasWord (x ++ t) w := by
  induction t generalizing x with
  | nil =>
    rw [List.append_nil] at hw ⊢
    obtain ⟨rfl, hne⟩ := (mem_words_of_forall_not_isBlank hx).1 hw
    exact ⟨⟨hne, hx⟩, [], [], by simp, by simp, by simp⟩
  | cons b t ih =>
    cases hb : isBlank b with
    | true =>
      rw [words_append_blank hb, List.mem_append] at hw
      rcases hw with hw | hw
      · obtain ⟨rfl, hne⟩ := (mem_words_of_forall_not_isBlank hx).1 hw
        exact ⟨⟨hne, hx⟩, [], b :: t, by simp, by simp, by simpa using hb⟩
      · exact (ih (x := []) (by simp) hw).append x hb
    | false =>
      rw [List.append_cons] at hw ⊢
      refine ih (fun c hc => ?_) hw
      rcases List.mem_append.1 hc with hc | hc
      · exact hx c hc
      · rwa [List.mem_singleton.1 hc]

/-- The words of a text are those that stand in it. -/
theorem mem_words_iff {t w : Text} : w ∈ words t ↔ HasWord t w := by
  constructor
  · exact hasWord_of_mem_words (x := []) (by simp)
  · rintro ⟨hword, p, s, rfl, hp, hs⟩
    rw [List.append_assoc]
    rcases List.eq_nil_or_concat p with rfl | ⟨q, b, rfl⟩
    · rw [List.nil_append, words_append hword hs]
      exact List.mem_cons_self
    · have hb : isBlank b = true := hp b (by simp)
      rw [List.concat_eq_append, List.append_assoc, List.singleton_append, words_append_blank hb,
        words_append hword hs]
      simp

end PromqlEditor.Text
