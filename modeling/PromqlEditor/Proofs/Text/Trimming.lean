import Mathlib.Data.List.TakeWhile
import PromqlEditor.Text.Blank

/-!
# Trimming

What is left of a text when white space is dropped at both its ends is the one part of it that
neither starts nor ends with white space and has nothing but white space around it
(`trim_eq_iff`).
-/

namespace PromqlEditor.Text

variable {t core pre post : Text}

theorem isBlank_of_head?_dropWhile (t : Text) :
    ∀ c ∈ (t.dropWhile isBlank).head?, isBlank c = false := by
  intro c hc
  have hnot := List.head?_dropWhile_not isBlank t
  rwa [Option.mem_def.1 hc] at hnot

/-- White space in front is dropped, and nothing else. -/
theorem dropWhile_isBlank_append (hpre : ∀ c ∈ pre, isBlank c = true)
    (hcore : ∀ c ∈ core.head?, isBlank c = false) : (pre ++ core).dropWhile isBlank = core := by
  rw [List.dropWhile_append_of_pos hpre]
  cases core with
  | nil => rfl
  | cons c core =>
    have hc : ¬ isBlank c = true := by
      rw [hcore c rfl]
      exact Bool.false_ne_true
    exact List.dropWhile_cons_of_neg hc

/-- A text is what is left of it with white space around that. -/
theorem trimsTo_trim (t : Text) : TrimsTo t (trim t) := by
  -- what is left once the front is trimmed, with the white space at its end
  set u := t.dropWhile isBlank with hu
  set post := (u.reverse.takeWhile isBlank).reverse with hpost
  have hsplit : trim t ++ post = u := by
    rw [trim, hpost, ← hu, ← List.reverse_append, List.takeWhile_append_dropWhile,
      List.reverse_reverse]
  refine ⟨⟨t.takeWhile isBlank, post, ?_, ?_, ?_⟩, ?_, ?_⟩
  · rw [List.append_assoc, hsplit, hu, List.takeWhile_append_dropWhile]
  · intro c hc
    exact List.mem_takeWhile_imp hc
  · intro c hc
    exact List.mem_takeWhile_imp (List.mem_reverse.1 hc)
  · intro c hc
    have hfirst : c ∈ u.head? := by
      rw [← hsplit, List.head?_append, Option.mem_def.1 hc]
      rfl
    exact isBlank_of_head?_dropWhile t c hfirst
  · intro c hc
    rw [trim, List.getLast?_reverse] at hc
    exact isBlank_of_head?_dropWhile _ c hc

/-- A text has no other part like that. -/
theorem TrimsTo.trim_eq (h : TrimsTo t core) : trim t = core := by
  obtain ⟨⟨pre, post, rfl, hpre, hpost⟩, hhead, hlast⟩ := h
  by_cases hcore : core = []
  · subst hcore
    have hblank : ∀ c ∈ pre ++ [] ++ post, isBlank c = true := by
      rw [List.append_nil]
      exact fun c hc => (List.mem_append.1 hc).elim (hpre c) (hpost c)
    rw [trim, List.dropWhile_eq_nil_iff.2 hblank]
    rfl
  · have hfront : ∀ c ∈ (core ++ post).head?, isBlank c = false := by
      rwa [List.head?_append, List.head?_eq_some_head hcore, Option.some_or,
        ← List.head?_eq_some_head hcore]
    have hback : ∀ c ∈ core.reverse.head?, isBlank c = false := by
      rwa [List.head?_reverse]
    rw [trim, List.append_assoc, dropWhile_isBlank_append hpre hfront, List.reverse_append,
      dropWhile_isBlank_append (fun c hc => hpost c (List.mem_reverse.1 hc)) hback,
      List.reverse_reverse]

theorem trim_eq_iff : trim t = core ↔ TrimsTo t core :=
  ⟨fun h => h ▸ trimsTo_trim t, TrimsTo.trim_eq⟩

end PromqlEditor.Text
