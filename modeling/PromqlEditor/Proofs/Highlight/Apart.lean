import PromqlEditor.Proofs.Highlight.Runs

/-!
# Highlights that are apart

Nothing has to be flattened where no two highlights overlap. A sweep then leaves each span before
it enters the next one, so flattened highlights are the given ones in the order of their spans
(`flatten_eq_mergeSort`), also where two of them touch and have the same category.

If they already are in that order, as flattened highlights are, flattening does not change them at
all, and it changes every other list (`flatten_eq_self_iff`).
-/

namespace PromqlEditor.Highlight

/-- Whether one of two highlights stops before the other starts. -/
def IsApart (g h : Highlight) : Prop := g.span.stop ≤ h.span.start ∨ h.span.stop ≤ g.span.start

/-- Whether highlights are flat: none is empty, and each stops before the next one starts, or where
it does. -/
structure IsFlat (hs : List Highlight) : Prop where
  start_lt_stop : ∀ h ∈ hs, h.span.start < h.span.stop
  ordered : hs.Pairwise fun g h => g.span.stop ≤ h.span.start

/-! ## Sweeping over flat highlights -/

/-- A span that stops before anything starts is painted and left. -/
theorem sweep_singleton {cursor stop : Nat} (c : Category) {coming : List Highlight}
    (h : ∀ x ∈ coming, stop ≤ x.span.start) :
    sweep cursor [(stop, c)] coming =
      piece cursor stop c ++ sweep (max cursor stop) [] coming := by
  cases coming with
  | nil => conv => lhs; rw [sweep]
  | cons x coming =>
    conv => lhs; rw [sweep]
    exact if_pos (h x List.mem_cons_self)

/-- A sweep leaves highlights as they are that are flat. -/
theorem sweep_eq_self {cursor : Nat} {hs : List Highlight}
    (hle : ∀ h ∈ hs, cursor ≤ h.span.start) (hflat : IsFlat hs) : sweep cursor [] hs = hs := by
  induction hs generalizing cursor with
  | nil => rw [sweep]
  | cons h hs ih =>
    obtain ⟨hlt, hord⟩ := hflat
    obtain ⟨hnext, hord⟩ := List.pairwise_cons.1 hord
    have hh := hlt h List.mem_cons_self
    have hrest : sweep h.span.stop [] hs = hs :=
      ih hnext ⟨fun x hx => hlt x (List.mem_cons_of_mem h hx), hord⟩
    rw [sweep, Nat.max_eq_right (hle h List.mem_cons_self), sweep_singleton _ hnext, piece,
      if_pos hh, Nat.max_eq_right (Nat.le_of_lt hh), hrest, List.singleton_append]

/-! ## Flattening without overlaps -/

/-- Flattening only sorts highlights that are not empty and of which no two overlap. -/
theorem flatten_eq_mergeSort {hs : List Highlight}
    (hlt : ∀ h ∈ hs, h.span.start < h.span.stop) (hapart : hs.Pairwise IsApart) :
    flatten hs = hs.mergeSort behind := by
  have hfilter : hs.filter nonempty = hs :=
    List.filter_eq_self.2 fun h hh => decide_eq_true (hlt h hh)
  have hperm := List.mergeSort_perm hs behind
  have hsorted := List.pairwise_mergeSort behind_trans behind_total hs
  have hapart' : (hs.mergeSort behind).Pairwise IsApart := (hperm.pairwise_iff Or.symm).2 hapart
  have hlt' : ∀ h ∈ hs.mergeSort behind, h.span.start < h.span.stop := fun h hh =>
    hlt h (hperm.mem_iff.1 hh)
  rw [flatten, hfilter]
  refine sweep_eq_self (fun _ _ => Nat.zero_le _) ⟨hlt', ?_⟩
  -- Of two that are apart the one that lies behind stops before the other starts.
  refine (hsorted.and hapart').imp_of_mem fun {g h} hg hh hgh => ?_
  have hg := hlt' g hg
  have hh := hlt' h hh
  rw [behind_iff] at hgh
  rcases hgh with ⟨hbehind, hgh | hgh⟩ <;> omega

/-! ## Flattening flat highlights -/

/-- What comes out of flattening is flat. -/
theorem isFlat_flatten (hs : List Highlight) : IsFlat (flatten hs) where
  start_lt_stop _ hq := start_lt_stop_of_mem_flatten hq
  ordered := pairwise_flatten hs

/-- Flat highlights are in the order of a sweep. -/
theorem IsFlat.pairwise_behind {hs : List Highlight} (h : IsFlat hs) :
    hs.Pairwise fun a b => behind a b = true := by
  refine h.ordered.imp_of_mem fun ha _ hab => ?_
  exact behind_iff.2 (Or.inl (Nat.lt_of_lt_of_le (h.start_lt_stop _ ha) hab))

/-- Flattening leaves highlights as they are if they are flat, and only then. -/
theorem flatten_eq_self_iff {hs : List Highlight} : flatten hs = hs ↔ IsFlat hs := by
  constructor
  · intro h
    rw [← h]
    exact isFlat_flatten hs
  · intro h
    have hapart : hs.Pairwise IsApart := h.ordered.imp Or.inl
    rw [flatten_eq_mergeSort h.start_lt_stop hapart]
    exact List.mergeSort_of_pairwise h.pairwise_behind

end PromqlEditor.Highlight
