import PromqlEditor.Highlight.Front

/-!
# The order of a sweep

A sweep takes the highlights from the one furthest behind to the one furthest in front. It sorts
them by their spans alone; since the sort leaves highlights of the same span in the order in which
they were given, each lies behind the next also where spans are equal (`pairwise_ranked`).

`ranked` is the sorted list with the number of each highlight, so that highlights that look alike
can be told apart.
-/

namespace PromqlEditor.Highlight

/-! ## Stable sorting -/

/-- A stable sort leaves elements that are tied with one another in the order they had. -/
theorem filter_mergeSort {α : Type} {le : α → α → Bool}
    (trans : ∀ a b c, le a b = true → le b c = true → le a c = true)
    (total : ∀ a b, (le a b || le b a) = true) {p : α → Bool}
    (tied : ∀ a b, p a = true → p b = true → le a b = true) (l : List α) :
    (l.mergeSort le).filter p = l.filter p := by
  have hpair : (l.filter p).Pairwise fun a b => le a b = true :=
    List.pairwise_of_forall_mem_list fun a ha b hb =>
      tied a b (List.mem_filter.1 ha).2 (List.mem_filter.1 hb).2
  have hsub := (List.sublist_mergeSort trans total hpair List.filter_sublist).filter p
  rw [List.filter_filter, List.filter_congr fun a _ => Bool.and_self (p a)] at hsub
  exact (hsub.eq_of_length ((List.mergeSort_perm l le).filter p).length_eq.symm).symm

theorem behind_iff {a b : Highlight} :
    behind a b = true ↔
      a.span.start < b.span.start ∨
        a.span.start = b.span.start ∧ b.span.stop ≤ a.span.stop := by
  simp [behind]

theorem behind_trans (a b c : Highlight) (hab : behind a b = true) (hbc : behind b c = true) :
    behind a c = true := by
  rw [behind_iff] at *
  omega

theorem behind_total (a b : Highlight) : (behind a b || behind b a) = true := by
  rw [Bool.or_eq_true, behind_iff, behind_iff]
  omega

/-- Highlights that lie behind one another have the same span. -/
theorem span_eq_of_behind {g h : Highlight} (hgh : behind g h = true) (hhg : behind h g = true) :
    g.span = h.span := by
  rw [behind_iff] at hgh hhg
  have hstart : g.span.start = h.span.start := by omega
  have hstop : g.span.stop = h.span.stop := by omega
  cases hg : g.span
  cases hh : h.span
  simp_all

/-! ## Highlights by rank -/

/-- The highlights that cover anything, each with its number, from the one furthest behind to the
one furthest in front. -/
def ranked (hs : List Highlight) : List (Highlight × Nat) :=
  (hs.zipIdx.filter fun x => x.1.nonempty).mergeSort fun x y => behind x.1 y.1

/-- Without their numbers these are the highlights that a sweep goes through. -/
theorem map_fst_ranked (hs : List Highlight) :
    (ranked hs).map Prod.fst = (hs.filter nonempty).mergeSort behind := by
  have hmap := List.filter_map (p := nonempty) (f := Prod.fst) (l := hs.zipIdx)
  rw [List.zipIdx_map_fst] at hmap
  rw [ranked, hmap]
  exact List.map_mergeSort fun _ _ _ _ => rfl

theorem mem_ranked {hs : List Highlight} {h : Highlight} {i : Nat} :
    (h, i) ∈ ranked hs ↔ hs[i]? = some h ∧ h.span.start < h.span.stop := by
  simp [ranked, List.mem_zipIdx_iff_getElem?, nonempty]

theorem pairwise_zipIdx (hs : List Highlight) : hs.zipIdx.Pairwise fun x y => x.2 < y.2 := by
  have h : (List.range' 0 hs.length).Pairwise (· < ·) := List.pairwise_lt_range'
  rwa [← List.zipIdx_map_snd 0 hs, List.pairwise_map] at h

/-- Of two highlights with the same span the one that was given first comes first. -/
theorem lt_of_sublist_ranked {hs : List Highlight} {x y : Highlight × Nat}
    (h : [x, y].Sublist (ranked hs)) (hspan : y.1.span = x.1.span) : x.2 < y.2 := by
  have hkeep : [x, y].filter (fun z => z.1.span == x.1.span) = [x, y] := by simp [hspan]
  have htied : ∀ a b : Highlight × Nat, (a.1.span == x.1.span) = true →
      (b.1.span == x.1.span) = true → behind a.1 b.1 = true := by
    intro a b ha hb
    rw [behind_iff, eq_of_beq ha, eq_of_beq hb]
    omega
  have hsub := h.filter fun z => z.1.span == x.1.span
  rw [hkeep, ranked, filter_mergeSort (fun a b c => behind_trans a.1 b.1 c.1)
    (fun a b => behind_total a.1 b.1) htied] at hsub
  exact List.pairwise_iff_forall_sublist.1 (pairwise_zipIdx hs)
    (hsub.trans (List.filter_sublist.trans List.filter_sublist))

/-- Each highlight lies behind the next one. -/
theorem pairwise_ranked (hs : List Highlight) :
    (ranked hs).Pairwise fun x y => IsBehind hs x.2 y.2 := by
  have hsort : (ranked hs).Pairwise fun x y => behind x.1 y.1 = true :=
    List.pairwise_mergeSort (fun a b c => behind_trans a.1 b.1 c.1)
      (fun a b => behind_total a.1 b.1) _
  rw [List.pairwise_iff_forall_sublist] at *
  intro x y hxy
  have hx := (mem_ranked.1 (hxy.subset (by simp : x ∈ [x, y]))).1
  have hy := (mem_ranked.1 (hxy.subset (by simp : y ∈ [x, y]))).1
  refine ⟨x.1, y.1, hx, hy, ?_⟩
  rcases behind_iff.1 (hsort hxy) with hlt | ⟨hstart, hstop⟩
  · exact Or.inl hlt
  refine Or.inr ⟨hstart, ?_⟩
  rcases Nat.lt_or_eq_of_le hstop with hlt | hstop
  · exact Or.inl hlt
  have hback : behind y.1 x.1 = true :=
    behind_iff.2 (Or.inr ⟨hstart.symm, Nat.le_of_eq hstop.symm⟩)
  have hspan : y.1.span = x.1.span := span_eq_of_behind hback (hsort hxy)
  exact Or.inr ⟨hstop, lt_of_sublist_ranked hxy hspan⟩

end PromqlEditor.Highlight
