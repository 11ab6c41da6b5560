import PromqlEditor.Proofs.Highlight.Rank

/-!
# Rearranged highlights

Highlights are sorted before they are flattened, so it does not matter in which order they are
given, as long as those of the same span stay in the order they had: the sort looks at spans alone
and leaves ties as they are. Highlights that cover nothing are dropped before the sort, so they may
be added anywhere (`flatten_eq_of_rearranges`).

Of two highlights with the same span the order counts, since only the one given last is seen
(`flatten_pair`).
-/

namespace PromqlEditor.Highlight

/-- Whether one list is a rearrangement of another in which highlights of the same span are in the
same order. -/
structure Rearranges (hs gs : List Highlight) : Prop where
  perm : hs.Perm gs
  same_order : ∀ s : Span, hs.filter (·.span = s) = gs.filter (·.span = s)

/-- Whether one list is another one with empty or reversed highlights added anywhere. -/
inductive AddsEmpty : List Highlight → List Highlight → Prop where
  | nil : AddsEmpty [] []
  | keep (h : Highlight) {hs gs : List Highlight} : AddsEmpty hs gs → AddsEmpty (h :: hs) (h :: gs)
  | add {h : Highlight} {hs gs : List Highlight} (hempty : h.span.stop ≤ h.span.start) :
      AddsEmpty hs gs → AddsEmpty (h :: hs) gs

/-- Added highlights that cover nothing are dropped again. -/
theorem AddsEmpty.filter_nonempty {hs gs : List Highlight} (h : AddsEmpty hs gs) :
    hs.filter nonempty = gs.filter nonempty := by
  induction h with
  | nil => rfl
  | keep h _ ih => rw [List.filter_cons, List.filter_cons, ih]
  | @add h _ _ hempty _ ih =>
    have hnot : ¬ nonempty h = true := by simpa [nonempty] using hempty
    rw [List.filter_cons_of_neg hnot, ih]

/-! ## The order of a sweep -/

/-- The first highlight of a sweep lies behind all of them. -/
theorem behind_of_mem_cons {g h : Highlight} {hs : List Highlight}
    (hord : (h :: hs).Pairwise fun a b => behind a b = true) (hg : g ∈ h :: hs) :
    behind h g = true := by
  rcases List.mem_cons.1 hg with rfl | hg
  · simpa using behind_total g g
  · exact (List.pairwise_cons.1 hord).1 g hg

/-- Highlights in the order of a sweep are known by what there is on each span. Of two lists that
have the same on each span, the first highlights lie behind one another, so they have one span, and
the first on that span is the same in both lists. -/
theorem eq_of_pairwise_behind {hs gs : List Highlight}
    (hhs : hs.Pairwise fun a b => behind a b = true)
    (hgs : gs.Pairwise fun a b => behind a b = true)
    (hsame : ∀ s : Span, hs.filter (·.span = s) = gs.filter (·.span = s)) : hs = gs := by
  induction hs generalizing gs with
  | nil =>
    cases gs with
    | nil => rfl
    | cons g gs => simpa using hsame g.span
  | cons h hs ih =>
    cases gs with
    | nil => simpa using hsame h.span
    | cons g gs =>
      have hmem : ∀ x, x ∈ h :: hs ↔ x ∈ g :: gs := by
        intro x
        have hx := congrArg (x ∈ ·) (hsame x.span)
        simpa using hx
      have hspan : h.span = g.span :=
        span_eq_of_behind (behind_of_mem_cons hhs ((hmem g).2 List.mem_cons_self))
          (behind_of_mem_cons hgs ((hmem h).1 List.mem_cons_self))
      obtain ⟨rfl, -⟩ : h = g ∧ hs.filter (·.span = g.span) = gs.filter (·.span = g.span) := by
        simpa [hspan] using hsame g.span
      refine congrArg _ (ih (List.pairwise_cons.1 hhs).2 (List.pairwise_cons.1 hgs).2 fun s => ?_)
      have hfilter := hsame s
      by_cases hspan : h.span = s
      · simpa [hspan] using hfilter
      · simpa [hspan] using hfilter

/-- The sort leaves what there is on a span as it is. -/
theorem filter_span_mergeSort (hs : List Highlight) (s : Span) :
    (hs.mergeSort behind).filter (·.span = s) = hs.filter (·.span = s) := by
  refine filter_mergeSort behind_trans behind_total ?_ hs
  intro a b ha hb
  rw [behind_iff, of_decide_eq_true ha, of_decide_eq_true hb]
  omega

/-- Rearranged highlights are sorted to the same list. -/
theorem mergeSort_eq_of_filter_eq {hs gs : List Highlight}
    (hsame : ∀ s : Span, hs.filter (·.span = s) = gs.filter (·.span = s)) :
    hs.mergeSort behind = gs.mergeSort behind := by
  refine eq_of_pairwise_behind (List.pairwise_mergeSort behind_trans behind_total hs)
    (List.pairwise_mergeSort behind_trans behind_total gs) fun s => ?_
  rw [filter_span_mergeSort, filter_span_mergeSort, hsame]

/-! ## Flattening -/

/-- Rearranged highlights, with highlights added that cover nothing, are flattened to the same
pieces. -/
theorem flatten_eq_of_rearranges {hs hs' gs gs' : List Highlight} (h : Rearranges gs gs')
    (hhs : AddsEmpty hs gs) (hhs' : AddsEmpty hs' gs') : flatten hs = flatten hs' := by
  have hsort : (gs.filter nonempty).mergeSort behind = (gs'.filter nonempty).mergeSort behind := by
    refine mergeSort_eq_of_filter_eq fun s => ?_
    have hgs := congrArg (List.filter nonempty) (h.same_order s)
    rw [List.filter_filter, List.filter_filter] at hgs ⊢
    simpa only [Bool.and_comm] using hgs
  rw [flatten, flatten, hhs.filter_nonempty, hhs'.filter_nonempty, hsort]

/-- Of two highlights with the same span only the one given last is seen. -/
theorem flatten_pair {s : Span} (hs : s.start < s.stop) (c d : Category) :
    flatten [⟨s, c⟩, ⟨s, d⟩] = [⟨s, d⟩] := by
  have hfilter : [⟨s, c⟩, ⟨s, d⟩].filter nonempty = [⟨s, c⟩, ⟨s, d⟩] := by
    simp [nonempty, hs]
  have hsorted : [⟨s, c⟩, ⟨s, d⟩].Pairwise fun a b => behind a b = true := by
    simp [behind]
  have hmax : max s.start s.stop = s.stop := Nat.max_eq_right (Nat.le_of_lt hs)
  rw [flatten, hfilter, List.mergeSort_of_pairwise hsorted]
  simp [sweep, piece, hs, Nat.not_le.2 hs, hmax]

end PromqlEditor.Highlight
