import PromqlEditor.Text.Basic

/-!
# White space

The characters with the Unicode property White_Space, and the two operations that rest on it:
`words` splits a text at runs of white space and `trim` drops white space at both ends.
-/

namespace PromqlEditor.Text

/-- Whether a character has the property White_Space. -/
def isBlank (c : Char) : Bool :=
  let n := c.toNat
  (9 ≤ n && n ≤ 13) || n == 0x20 || n == 0x85 || n == 0xA0 || n == 0x1680 ||
    (0x2000 ≤ n && n ≤ 0x200A) || n == 0x2028 || n == 0x2029 || n == 0x202F || n == 0x205F ||
    n == 0x3000

/-- The words of a text: the longest runs of characters that are not white space. -/
def words : Text → List Text
  | [] => []
  | c :: t =>
    if isBlank c then words t
    else match t with
      | [] => [[c]]
      | d :: _ => if isBlank d then [c] :: words t else (words t).modifyHead (c :: ·)

/-- A text without the white space at its two ends. -/
def trim (t : Text) : Text :=
  ((t.dropWhile isBlank).reverse.dropWhile isBlank).reverse

/-- Whether a text is another one with white space around it, and the other one neither starts nor
ends with white space. -/
structure TrimsTo (t core : Text) : Prop where
  exists_append : ∃ pre post, t = pre ++ core ++ post ∧ (∀ c ∈ pre, isBlank c = true) ∧
    ∀ c ∈ post, isBlank c = true
  head? : ∀ c ∈ core.head?, isBlank c = false
  getLast? : ∀ c ∈ core.getLast?, isBlank c = false

/-- Whether a text is one word: it is not empty and holds no white space. -/
def IsWord (w : Text) : Prop := w ≠ [] ∧ ∀ c ∈ w, isBlank c = false

instance (w : Text) : Decidable (IsWord w) :=
  -- a search could go through all characters instead of those of the text
  @instDecidableAnd (w ≠ []) _ _ (List.decidableBAll (isBlank · = false) w)

/-- A word ends where white space follows, or nothing. -/
theorem words_append {w t : Text} (hw : IsWord w) (ht : ∀ b ∈ t.head?, isBlank b = true) :
    words (w ++ t) = w :: words t := by
  obtain ⟨hne, hblank⟩ := hw
  induction w with
  | nil => exact absurd rfl hne
  | cons c w ih =>
    have hc : ¬ isBlank c = true := by simp [hblank c List.mem_cons_self]
    cases w with
    | nil =>
      cases t with
      | nil => simp [words, hc]
      | cons b t => simp [words, hc, ht b rfl]
    | cons d w =>
      have hd : isBlank d = false := hblank d (by simp)
      have hrest := ih (by simp) fun e he => hblank e (List.mem_cons_of_mem c he)
      rw [List.cons_append, List.cons_append, words, if_neg hc]
      simp only [hd, ← List.cons_append, hrest]
      rfl

/-- Words that are written with blanks between them are read back. -/
theorem words_intercalate {ws : List Text} (h : ∀ w ∈ ws, IsWord w) :
    words ([' '].intercalate ws) = ws := by
  induction ws with
  | nil => rfl
  | cons w ws ih =>
    have hw := h w List.mem_cons_self
    cases ws with
    | nil =>
      have hword := words_append (t := []) hw (by simp)
      rw [List.append_nil] at hword
      rw [List.intercalate_singleton, hword, words]
    | cons v ws =>
      have hrest := ih fun u hu => h u (List.mem_cons_of_mem w hu)
      calc words ([' '].intercalate (w :: v :: ws))
          = words (w ++ ' ' :: [' '].intercalate (v :: ws)) := by
            rw [List.intercalate_cons_cons, List.append_assoc, List.singleton_append]
        _ = w :: words (' ' :: [' '].intercalate (v :: ws)) :=
            words_append hw fun b hb => by cases hb; decide
        _ = w :: v :: ws := congrArg (w :: ·) hrest

end PromqlEditor.Text
