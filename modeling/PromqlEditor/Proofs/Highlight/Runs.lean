import PromqlEditor.Proofs.Highlight.Sweep

/-!
# Flattened highlights are the maximal runs

What an editor sees of highlights that lie over one another is decided offset by offset: at each
one the highlight in front is seen. `flatten` gives the maximal stretches on which that is one and
the same highlight, all of them, in order (`flatten_eq_runs`). Two highlights of the same category
stay two runs where they meet, and one highlight is not cut where nothing comes in front of it.
-/

namespace PromqlEditor.Highlight

/-- Flattened highlights paint all that is covered. -/
theorem isPainting_flatten (hs : List Highlight) : IsPainting hs 0 (flatten hs) := by
  have h := isPainting_sweep [] (ranked hs) 0 (sweeping_ranked hs)
  rwa [List.map_nil, map_fst_ranked] at h

/-! ## Runs that paint a list -/

section

variable {hs : List Highlight} {runs : List Run}

/-- Over a covered offset lies a run of the highlight that is in front there. -/
theorem Painted.exists_run (hruns : Painted hs 0 runs) {p i : Nat} (hfront : IsFront hs p i) :
    ∃ r ∈ runs, r.index = i ∧ r.start ≤ p ∧ p < r.stop := by
  have ⟨⟨h, hi, hp⟩, _⟩ := hfront
  obtain ⟨r, hr, hrp⟩ := hruns.complete h (List.mem_of_getElem? hi) p (Nat.zero_le _) hp
  exact ⟨r, hr, (hruns.isFront r hr p hrp.1 hrp.2).unique hfront, hrp⟩

/-- Two runs have no offset in common. -/
theorem Painted.eq_or_apart (hruns : Painted hs 0 runs) {r s : Run} (hr : r ∈ runs)
    (hs' : s ∈ runs) : r = s ∨ r.stop ≤ s.start ∨ s.stop ≤ r.start :=
  List.Pairwise.forall_of_forall_of_flip
    (R := fun r s : Run => r = s ∨ r.stop ≤ s.start ∨ s.stop ≤ r.start)
    (fun _ _ => Or.inl rfl) (hruns.ordered.imp fun h => Or.inr (Or.inl h))
    (hruns.ordered.imp fun h => Or.inr (Or.inr h)) hr hs'

/-- A run that paints cannot be made longer. To the left it would meet another run of the same
highlight, which stops where this one is in front. -/
theorem Painted.isRun (hruns : Painted hs 0 runs) {r : Run} (hr : r ∈ runs) :
    IsRun hs r.index r.start r.stop := by
  refine ⟨hruns.start_lt r hr, hruns.isFront r hr, ?_, hruns.not_isFront r hr⟩
  intro p hp hfront
  obtain ⟨s, hs', hindex, hsp⟩ := hruns.exists_run hfront
  have hlt := hruns.start_lt r hr
  have hstop : s.stop = r.start := by
    rcases hruns.eq_or_apart hs' hr with rfl | h | h <;> omega
  refine hruns.not_isFront s hs' ?_
  rw [hstop, hindex]
  exact hruns.isFront r hr _ (Nat.le_refl _) hlt

/-- Runs of one highlight that have an offset in common are the same. -/
theorem IsRun.unique {i start stop start' stop' p : Nat} (h : IsRun hs i start stop)
    (h' : IsRun hs i start' stop') (hp : start ≤ p ∧ p < stop) (hp' : start' ≤ p ∧ p < stop') :
    start = start' ∧ stop = stop' := by
  obtain ⟨-, hfront, hbefore, hafter⟩ := h
  obtain ⟨-, hfront', hbefore', hafter'⟩ := h'
  have h₁ : start ≤ start' := Nat.not_lt.1 fun hlt =>
    hbefore (start - 1) (by omega) (hfront' _ (by omega) (by omega))
  have h₂ : start' ≤ start := Nat.not_lt.1 fun hlt =>
    hbefore' (start' - 1) (by omega) (hfront _ (by omega) (by omega))
  have h₃ : stop ≤ stop' := Nat.not_lt.1 fun hlt => hafter' (hfront _ (by omega) hlt)
  have h₄ : stop' ≤ stop := Nat.not_lt.1 fun hlt => hafter (hfront' _ (by omega) hlt)
  exact ⟨Nat.le_antisymm h₁ h₂, Nat.le_antisymm h₃ h₄⟩

/-- Being in front depends on what covers the offset, and on nothing else. -/
theorem IsFront.of_covers {p p' i : Nat} (h : IsFront hs p i)
    (hsame : ∀ g ∈ hs, g.Covers p ↔ g.Covers p') : IsFront hs p' i := by
  obtain ⟨⟨h, hi, hp⟩, hbehind⟩ := h
  refine ⟨⟨h, hi, (hsame h (List.mem_of_getElem? hi)).1 hp⟩, fun j g hg hgp => ?_⟩
  exact hbehind j g hg ((hsame g (List.mem_of_getElem? hg)).2 hgp)

/-- A run starts where a highlight starts or stops. Otherwise the same highlights would cover the
offset before it. -/
theorem IsRun.exists_bound_start {i start stop : Nat} (h : IsRun hs i start stop) :
    ∃ g ∈ hs, g.span.start = start ∨ g.span.stop = start := by
  obtain ⟨hlt, hfront, hbefore, -⟩ := h
  have hstart := hfront start (Nat.le_refl _) hlt
  refine Classical.byContradiction fun hnone => ?_
  have hnot : ∀ g ∈ hs, g.span.start ≠ start ∧ g.span.stop ≠ start := fun g hg =>
    ⟨fun heq => hnone ⟨g, hg, Or.inl heq⟩, fun heq => hnone ⟨g, hg, Or.inr heq⟩⟩
  cases start with
  | zero =>
    obtain ⟨⟨g, hi, hp, -⟩, -⟩ := hstart
    exact (hnot g (List.mem_of_getElem? hi)).1 (Nat.le_zero.1 hp)
  | succ p =>
    refine hbefore p rfl (hstart.of_covers fun g hg => ?_)
    have hg := hnot g hg
    unfold Covers
    omega

/-- A run stops where a highlight starts or stops. Otherwise the same highlights would cover the
offset where it stops. -/
theorem IsRun.exists_bound_stop {i start stop : Nat} (h : IsRun hs i start stop) :
    ∃ g ∈ hs, g.span.start = stop ∨ g.span.stop = stop := by
  obtain ⟨hlt, hfront, -, hafter⟩ := h
  refine Classical.byContradiction fun hnone => ?_
  refine hafter ((hfront (stop - 1) (by omega) (by omega)).of_covers fun g hg => ?_)
  have hstart : g.span.start ≠ stop := fun heq => hnone ⟨g, hg, Or.inl heq⟩
  have hstop : g.span.stop ≠ stop := fun heq => hnone ⟨g, hg, Or.inr heq⟩
  unfold Covers
  omega

/-- The runs that paint a list are its maximal runs. -/
theorem Painted.mem_iff (hruns : Painted hs 0 runs) (r : Run) :
    r ∈ runs ↔ IsRun hs r.index r.start r.stop := by
  constructor
  · exact hruns.isRun
  · intro hrun
    have ⟨hlt, hfront, _⟩ := hrun
    obtain ⟨s, hs', hindex, hsp⟩ := hruns.exists_run (hfront _ (Nat.le_refl _) hlt)
    have hrun' := hruns.isRun hs'
    rw [hindex] at hrun'
    obtain ⟨hstart, hstop⟩ := hrun.unique hrun' ⟨Nat.le_refl _, hlt⟩ hsp
    have heq : r = s := by
      cases r
      cases s
      simp_all
    exact heq ▸ hs'

end

/-! ## Pieces -/

theorem Run.piece?_eq_some {hs : List Highlight} {r : Run} {q : Highlight}
    (h : r.piece? hs = some q) :
    q.span = ⟨r.start, r.stop⟩ ∧ ∃ g, hs[r.index]? = some g ∧ g.category = q.category := by
  obtain ⟨g, hg, rfl⟩ := Option.map_eq_some_iff.1 h
  exact ⟨rfl, g, hg, rfl⟩

/-- Each piece shows a run. -/
theorem exists_run_of_mem {hs pieces : List Highlight} {runs : List Run}
    (h : pieces.map some = runs.map (Run.piece? hs)) {q : Highlight} (hq : q ∈ pieces) :
    ∃ r ∈ runs, r.piece? hs = some q := by
  have hmem : some q ∈ runs.map (Run.piece? hs) := h ▸ List.mem_map_of_mem hq
  exact List.mem_map.1 hmem

/-- Pieces are not empty. -/
theorem start_lt_stop_of_mem_flatten {hs : List Highlight} {q : Highlight}
    (hq : q ∈ flatten hs) : q.span.start < q.span.stop := by
  obtain ⟨runs, hpieces, hruns⟩ := isPainting_flatten hs
  obtain ⟨r, hr, hrq⟩ := exists_run_of_mem hpieces hq
  rw [(Run.piece?_eq_some hrq).1]
  exact hruns.start_lt r hr

/-- A piece starts where a highlight starts or stops, and stops where one does. -/
theorem exists_bounds_of_mem_flatten {hs : List Highlight} {q : Highlight}
    (hq : q ∈ flatten hs) :
    (∃ g ∈ hs, g.span.start = q.span.start ∨ g.span.stop = q.span.start) ∧
      ∃ g ∈ hs, g.span.start = q.span.stop ∨ g.span.stop = q.span.stop := by
  obtain ⟨runs, hpieces, hruns⟩ := isPainting_flatten hs
  obtain ⟨r, hr, hrq⟩ := exists_run_of_mem hpieces hq
  have hrun := hruns.isRun hr
  rw [(Run.piece?_eq_some hrq).1]
  exact ⟨hrun.exists_bound_start, hrun.exists_bound_stop⟩

/-- Pieces follow one another without overlapping. -/
theorem pairwise_flatten (hs : List Highlight) :
    (flatten hs).Pairwise fun q q' => q.span.stop ≤ q'.span.start := by
  obtain ⟨runs, hpieces, hruns⟩ := isPainting_flatten hs
  have hord : (runs.map (Run.piece? hs)).Pairwise fun a b =>
      ∀ q ∈ a, ∀ q' ∈ b, q.span.stop ≤ q'.span.start := by
    refine List.pairwise_map.2 (hruns.ordered.imp fun hrs q hq q' hq' => ?_)
    rw [(Run.piece?_eq_some hq).1, (Run.piece?_eq_some hq').1]
    exact hrs
  rw [← hpieces] at hord
  exact (List.pairwise_map.1 hord).imp fun h => h _ rfl _ rfl

/-- An offset is painted in a category if that is the category of the highlight in front. -/
theorem exists_piece_iff {hs : List Highlight} {p : Nat} {c : Category} :
    (∃ q ∈ flatten hs, q.Covers p ∧ q.category = c) ↔
      ∃ i h, IsFront hs p i ∧ hs[i]? = some h ∧ h.category = c := by
  obtain ⟨runs, hpieces, hruns⟩ := isPainting_flatten hs
  constructor
  · rintro ⟨q, hq, hqp, rfl⟩
    obtain ⟨r, hr, hrq⟩ := exists_run_of_mem hpieces hq
    obtain ⟨hspan, g, hg, hcat⟩ := Run.piece?_eq_some hrq
    rw [Covers, hspan] at hqp
    exact ⟨r.index, g, hruns.isFront r hr p hqp.1 hqp.2, hg, hcat⟩
  · rintro ⟨i, h, hfront, hi, rfl⟩
    obtain ⟨r, hr, rfl, hrp⟩ := hruns.exists_run hfront
    have hrq : r.piece? hs = some ⟨⟨r.start, r.stop⟩, h.category⟩ := by
      rw [Run.piece?, hi, Option.map_some]
    have hmem := List.mem_map_of_mem (f := Run.piece? hs) hr
    rw [← hpieces, hrq] at hmem
    obtain ⟨q, hq, heq⟩ := List.mem_map.1 hmem
    cases heq
    exact ⟨_, hq, hrp, rfl⟩

/-- A highlight in front covers the offset. -/
theorem IsFront.exists_covers {hs : List Highlight} {p i : Nat} (h : IsFront hs p i) :
    ∃ g ∈ hs, g.Covers p := by
  obtain ⟨⟨g, hi, hp⟩, -⟩ := h
  exact ⟨g, List.mem_of_getElem? hi, hp⟩

/-- Where anything is covered, one highlight is in front. -/
theorem exists_isFront {hs : List Highlight} {g : Highlight} (hg : g ∈ hs) {p : Nat}
    (hp : g.Covers p) : ∃ i h, IsFront hs p i ∧ hs[i]? = some h := by
  obtain ⟨runs, -, hruns⟩ := isPainting_flatten hs
  obtain ⟨r, hr, hrp⟩ := hruns.complete g hg p (Nat.zero_le _) hp
  have hfront := hruns.isFront r hr p hrp.1 hrp.2
  have ⟨⟨h, hi, _⟩, _⟩ := hfront
  exact ⟨r.index, h, hfront, hi⟩

/-! ## The main result -/

/-- Flattened highlights are the maximal runs of the highlights in front: there is a piece for
each of them, in increasing order and in the category of its highlight, and no other piece. So
what the pieces cover is exactly what the highlights cover. -/
theorem flatten_eq_runs (hs : List Highlight) :
    ∃ runs : List Run,
      (flatten hs).map some = runs.map (Run.piece? hs) ∧
      runs.Pairwise (fun r s => r.stop ≤ s.start) ∧
      (∀ r, r ∈ runs ↔ IsRun hs r.index r.start r.stop) ∧
      ∀ p, (∃ q ∈ flatten hs, q.Covers p) ↔ ∃ h ∈ hs, h.Covers p := by
  obtain ⟨runs, hpieces, hruns⟩ := isPainting_flatten hs
  refine ⟨runs, hpieces, hruns.ordered, hruns.mem_iff, fun p => ⟨?_, ?_⟩⟩
  · rintro ⟨q, hq, hp⟩
    obtain ⟨i, h, hfront, -⟩ := exists_piece_iff.1 ⟨q, hq, hp, rfl⟩
    exact hfront.exists_covers
  · rintro ⟨g, hg, hp⟩
    obtain ⟨i, h, hfront, hi⟩ := exists_isFront hg hp
    obtain ⟨q, hq, hqp, -⟩ := exists_piece_iff.2 ⟨i, h, hfront, hi, rfl⟩
    exact ⟨q, hq, hqp⟩

end PromqlEditor.Highlight
