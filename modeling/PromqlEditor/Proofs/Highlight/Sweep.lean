import PromqlEditor.Proofs.Highlight.Rank

/-!
# What a sweep paints

While a sweep goes on, `Sweeping` holds of it: the spans that it has entered and those still to
come are highlights of the list, each behind the next, and no other highlight covers an offset
that is not painted yet. Entered spans may have stopped long before the cursor under one that
reaches further, so nothing is said of where they stop.

Two things can happen to a sweep, it leaves the front span or it enters the next one, and both
keep the invariant (`Sweeping.leave`, `Sweeping.enter`). The front span is in front as long as it
reaches and nothing new starts (`Sweeping.isFront`), so what the sweep paints is made of runs
(`isPainting_sweep`).
-/

namespace PromqlEditor.Highlight

/-! ## Runs -/

/-- A stretch of offsets and the number of the highlight that is seen there. -/
structure Run where
  index : Nat
  start : Nat
  stop : Nat
deriving DecidableEq, Repr

/-- The piece that shows a run: its stretch in the category of its highlight. -/
def Run.piece? (hs : List Highlight) (r : Run) : Option Highlight :=
  hs[r.index]?.map fun h => ⟨⟨r.start, r.stop⟩, h.category⟩

/-- Whether runs from offset `cursor` on paint all that is covered there. That a run cannot be
made longer to the left follows, since what lies there is painted by another one. -/
structure Painted (hs : List Highlight) (cursor : Nat) (runs : List Run) : Prop where
  le_start : ∀ r ∈ runs, cursor ≤ r.start
  start_lt : ∀ r ∈ runs, r.start < r.stop
  isFront : ∀ r ∈ runs, ∀ p, r.start ≤ p → p < r.stop → IsFront hs p r.index
  not_isFront : ∀ r ∈ runs, ¬ IsFront hs r.stop r.index
  ordered : runs.Pairwise fun r s => r.stop ≤ s.start
  complete : ∀ h ∈ hs, ∀ p, cursor ≤ p → h.Covers p → ∃ r ∈ runs, r.start ≤ p ∧ p < r.stop

/-- Whether pieces show runs that paint all that is covered from offset `cursor` on. -/
def IsPainting (hs : List Highlight) (cursor : Nat) (pieces : List Highlight) : Prop :=
  ∃ runs : List Run, pieces.map some = runs.map (Run.piece? hs) ∧ Painted hs cursor runs

/-- Where nothing is covered nothing need be painted. -/
theorem IsPainting.of_max {hs : List Highlight} {cursor stop : Nat} {pieces : List Highlight}
    (h : IsPainting hs (max cursor stop) pieces)
    (hnone : ∀ g ∈ hs, ∀ p, cursor ≤ p → p < stop → ¬ g.Covers p) :
    IsPainting hs cursor pieces := by
  obtain ⟨runs, hpieces, hruns⟩ := h
  refine ⟨runs, hpieces, { hruns with le_start := ?_, complete := ?_ }⟩
  · intro r hr
    exact Nat.le_trans (Nat.le_max_left ..) (hruns.le_start r hr)
  · intro g hg p hp hgp
    refine hruns.complete g hg p (Nat.max_le.2 ⟨hp, Nat.not_lt.1 fun hlt => ?_⟩) hgp
    exact hnone g hg p hp hlt hgp

/-- A run in front of the others. -/
theorem Painted.cons {hs : List Highlight} {cursor stop i : Nat} {runs : List Run}
    (h : Painted hs stop runs) (hlt : cursor < stop)
    (hfront : ∀ p, cursor ≤ p → p < stop → IsFront hs p i) (hend : ¬ IsFront hs stop i) :
    Painted hs cursor (⟨i, cursor, stop⟩ :: runs) where
  le_start := by
    rintro r (_ | ⟨_, hr⟩)
    · exact Nat.le_refl _
    · exact Nat.le_trans (Nat.le_of_lt hlt) (h.le_start r hr)
  start_lt := by
    rintro r (_ | ⟨_, hr⟩)
    · exact hlt
    · exact h.start_lt r hr
  isFront := by
    rintro r (_ | ⟨_, hr⟩)
    · exact hfront
    · exact h.isFront r hr
  not_isFront := by
    rintro r (_ | ⟨_, hr⟩)
    · exact hend
    · exact h.not_isFront r hr
  ordered := List.pairwise_cons.2 ⟨h.le_start, h.ordered⟩
  complete g hg p hp hgp := by
    by_cases hps : p < stop
    · exact ⟨_, List.mem_cons_self, hp, hps⟩
    · obtain ⟨r, hr, hrp⟩ := h.complete g hg p (Nat.not_lt.1 hps) hgp
      exact ⟨r, List.mem_cons_of_mem _ hr, hrp⟩

/-- A piece in front of the others. -/
theorem IsPainting.piece_append {hs : List Highlight} {cursor stop : Nat}
    {pieces : List Highlight} {h : Highlight} {i : Nat} (hi : hs[i]? = some h)
    (hfront : ∀ p, cursor ≤ p → p < stop → IsFront hs p i) (hend : ¬ IsFront hs stop i)
    (hrest : IsPainting hs (max cursor stop) pieces) :
    IsPainting hs cursor (piece cursor stop h.category ++ pieces) := by
  by_cases hlt : cursor < stop
  · rw [Nat.max_eq_right (Nat.le_of_lt hlt)] at hrest
    obtain ⟨runs, hpieces, hruns⟩ := hrest
    refine ⟨⟨i, cursor, stop⟩ :: runs, ?_, hruns.cons hlt hfront hend⟩
    rw [piece, if_pos hlt, List.map_append, hpieces]
    simp [Run.piece?, hi]
  · rw [piece, if_neg hlt, List.nil_append]
    exact hrest.of_max fun g _ p hp hps => absurd (Nat.lt_of_le_of_lt hp hps) hlt

/-! ## The invariant -/

/-- What holds of a sweep that has painted all before offset `cursor`, has entered the spans of
the highlights in `entered`, the front one first, and has those in `coming` before it. -/
structure Sweeping (hs : List Highlight) (cursor : Nat)
    (entered coming : List (Highlight × Nat)) : Prop where
  known : ∀ x ∈ entered ++ coming, hs[x.2]? = some x.1
  nonempty : ∀ x ∈ coming, x.1.span.start < x.1.span.stop
  start_le : ∀ x ∈ entered, x.1.span.start ≤ cursor
  le_start : ∀ x ∈ coming, cursor ≤ x.1.span.start
  ordered : (entered.reverse ++ coming).Pairwise fun x y => IsBehind hs x.2 y.2
  complete : ∀ h i p, hs[i]? = some h → h.Covers p → cursor ≤ p → (h, i) ∈ entered ++ coming

section

variable {hs : List Highlight} {cursor : Nat} {x : Highlight × Nat}
  {entered coming : List (Highlight × Nat)}

/-- A sweep starts with all highlights that cover anything before it. -/
theorem sweeping_ranked (hs : List Highlight) : Sweeping hs 0 [] (ranked hs) where
  known x hx := (mem_ranked.1 hx).1
  nonempty x hx := (mem_ranked.1 hx).2
  start_le := by simp
  le_start _ _ := Nat.zero_le _
  ordered := pairwise_ranked hs
  complete _ _ _ hi hp _ := mem_ranked.2 ⟨hi, Nat.lt_of_le_of_lt hp.1 hp.2⟩

/-- A highlight that lies behind another one starts no later. -/
theorem IsBehind.start_le {i j : Nat} {g h : Highlight} (hij : IsBehind hs j i)
    (hg : hs[j]? = some g) (hh : hs[i]? = some h) : g.span.start ≤ h.span.start := by
  obtain ⟨g', h', hg', hh', hlt⟩ := hij
  cases hg.symm.trans hg'
  cases hh.symm.trans hh'
  omega

/-- The front span is in front from the cursor on, as long as it reaches and nothing starts. -/
theorem Sweeping.isFront (inv : Sweeping hs cursor (x :: entered) coming) {p : Nat}
    (hc : cursor ≤ p) (hp : p < x.1.span.stop) (hnext : ∀ y ∈ coming, p < y.1.span.start) :
    IsFront hs p x.2 := by
  have hx : x.1.span.start ≤ cursor := inv.start_le x (by simp)
  refine ⟨⟨x.1, inv.known x (by simp), Nat.le_trans hx hc, hp⟩, ?_⟩
  intro j g hg hgp hne
  have hmem := inv.complete g j p hg hgp hc
  rw [List.cons_append, List.mem_cons, List.mem_append] at hmem
  rcases hmem with rfl | hmem | hmem
  · exact absurd rfl hne
  · have hord := inv.ordered
    rw [List.reverse_cons, List.append_assoc] at hord
    exact (List.pairwise_append.1 hord).2.2 (g, j) (List.mem_reverse.2 hmem) x (by simp)
  · exact absurd hgp.1 (Nat.not_le.2 (hnext _ hmem))

/-- Nothing that is still to come starts before the next span does. -/
theorem Sweeping.head_le (inv : Sweeping hs cursor entered (x :: coming)) {y : Highlight × Nat}
    (hy : y ∈ x :: coming) : x.1.span.start ≤ y.1.span.start := by
  rcases List.mem_cons.1 hy with rfl | hmem
  · exact Nat.le_refl _
  · have hb := (List.pairwise_cons.1 (List.pairwise_append.1 inv.ordered).2.1).1 y hmem
    exact hb.start_le (inv.known x (by simp)) (inv.known y (List.mem_append_right _ hy))

/-- A highlight is not in front where it has stopped. -/
theorem not_isFront_stop {h : Highlight} {i : Nat} (hi : hs[i]? = some h) :
    ¬ IsFront hs h.span.stop i := by
  rintro ⟨⟨g, hg, hp⟩, -⟩
  cases hi.symm.trans hg
  exact Nat.lt_irrefl _ hp.2

/-- A sweep may leave the front span if nothing starts before it stops. -/
theorem Sweeping.leave (inv : Sweeping hs cursor (x :: entered) coming)
    (hnext : ∀ y ∈ coming, x.1.span.stop ≤ y.1.span.start) :
    Sweeping hs (max cursor x.1.span.stop) entered coming where
  known y hy := inv.known y (List.mem_cons_of_mem _ hy)
  nonempty := inv.nonempty
  start_le y hy := Nat.le_trans (inv.start_le y (List.mem_cons_of_mem _ hy)) (Nat.le_max_left ..)
  le_start y hy := Nat.max_le.2 ⟨inv.le_start y hy, hnext y hy⟩
  ordered := by
    have h := inv.ordered
    rw [List.reverse_cons, List.append_assoc] at h
    exact h.sublist ((List.sublist_append_right [x] coming).append_left _)
  complete h i p hi hp hc := by
    obtain ⟨hc, hstop⟩ := Nat.max_le.1 hc
    rcases List.mem_cons.1 (inv.complete h i p hi hp hc) with rfl | hmem
    · exact absurd hp.2 (Nat.not_lt.2 hstop)
    · exact hmem

/-- A sweep may enter the next span. -/
theorem Sweeping.enter (inv : Sweeping hs cursor entered (x :: coming)) :
    Sweeping hs (max cursor x.1.span.start) (x :: entered) coming where
  known y hy := inv.known y (by simpa [or_left_comm] using hy)
  nonempty y hy := inv.nonempty y (List.mem_cons_of_mem _ hy)
  start_le y hy := by
    rcases List.mem_cons.1 hy with rfl | hy
    · exact Nat.le_max_right ..
    · exact Nat.le_trans (inv.start_le y hy) (Nat.le_max_left ..)
  le_start y hy :=
    have hy := List.mem_cons_of_mem x hy
    Nat.max_le.2 ⟨inv.le_start y hy, inv.head_le hy⟩
  ordered := by simpa using inv.ordered
  complete h i p hi hp hc := by
    simpa [or_left_comm] using inv.complete h i p hi hp (Nat.max_le.1 hc).1

/-- The next span is in front of all that have been entered before it. -/
theorem Sweeping.not_isFront_start {y : Highlight × Nat}
    (inv : Sweeping hs cursor (x :: entered) (y :: coming)) :
    ¬ IsFront hs y.1.span.start x.2 := by
  intro hfront
  have hy : hs[y.2]? = some y.1 := inv.known y (by simp)
  have hxy : IsBehind hs x.2 y.2 :=
    (List.pairwise_append.1 inv.ordered).2.2 x (by simp) y (by simp)
  have hne : y.2 ≠ x.2 := by
    intro h
    rw [h] at hxy
    exact hxy.asymm hxy
  exact hxy.asymm (hfront.2 y.2 y.1 hy ⟨Nat.le_refl _, inv.nonempty y (by simp)⟩ hne)

/-! ## The run of a sweep -/

/-- What a sweep keeps of a highlight that it has entered. -/
def mark (x : Highlight × Nat) : Nat × Category := (x.1.span.stop, x.1.category)

end

/-- A sweep paints all that is covered from its cursor on. -/
theorem isPainting_sweep {hs : List Highlight} :
    ∀ (entered coming : List (Highlight × Nat)) (cursor : Nat),
      Sweeping hs cursor entered coming →
        IsPainting hs cursor (sweep cursor (entered.map mark) (coming.map Prod.fst))
  | [], [], cursor, inv => by
    rw [List.map_nil, List.map_nil, sweep]
    refine ⟨[], rfl, ⟨by simp, by simp, by simp, by simp, .nil, ?_⟩⟩
    intro h hh p hp hhp
    obtain ⟨i, hi⟩ := List.getElem?_of_mem hh
    exact absurd (inv.complete h i p hi hhp hp) (by simp)
  | x :: entered, [], cursor, inv => by
    have ih := isPainting_sweep entered [] _ (inv.leave (by simp))
    rw [List.map_cons, mark, List.map_nil, sweep]
    have hx := inv.known x (by simp)
    exact .piece_append hx (fun p hc hp => inv.isFront hc hp (by simp)) (not_isFront_stop hx) ih
  | [], y :: coming, cursor, inv => by
    have ih := isPainting_sweep [y] coming _ inv.enter
    rw [List.map_nil, List.map_cons, sweep]
    refine ih.of_max fun h hh p hc hp hhp => ?_
    obtain ⟨i, hi⟩ := List.getElem?_of_mem hh
    have hle := inv.head_le (inv.complete h i p hi hhp hc)
    exact absurd hhp.1 (Nat.not_le.2 (Nat.lt_of_lt_of_le hp hle))
  | x :: entered, y :: coming, cursor, inv => by
    have hx := inv.known x (by simp)
    rw [List.map_cons, mark, List.map_cons, sweep]
    split
    · rename_i hstop
      have ih := isPainting_sweep entered (y :: coming) _
        (inv.leave fun z hz => Nat.le_trans hstop (inv.head_le hz))
      refine .piece_append hx (fun p hc hp => inv.isFront hc hp fun z hz => ?_)
        (not_isFront_stop hx) ih
      exact Nat.lt_of_lt_of_le hp (Nat.le_trans hstop (inv.head_le hz))
    · rename_i hstop
      have ih := isPainting_sweep (y :: x :: entered) coming _ inv.enter
      refine .piece_append hx (fun p hc hp => inv.isFront hc ?_ fun z hz => ?_)
        inv.not_isFront_start ih
      · exact Nat.lt_trans hp (Nat.not_le.1 hstop)
      · exact Nat.lt_of_lt_of_le hp (inv.head_le hz)
termination_by entered coming => entered.length + 2 * coming.length

end PromqlEditor.Highlight
