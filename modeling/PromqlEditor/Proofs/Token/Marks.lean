import PromqlEditor.Proofs.Highlight.Runs
import PromqlEditor.Proofs.Text.Place
import PromqlEditor.Token.Basic

/-!
# The marks of highlights

A mark is a stretch between two positions of one line, and what it has to show is a stroke, a
stretch between two positions that may be on different lines. Marks show strokes if they follow
one another, each of them lies within a stroke, and whatever stretch of a line's content lies
within a stroke lies within one of them (`Mark.Shows`).

No difference of positions is negative when a highlight is cut into marks, since a piece starts
before it stops and positions grow with offsets, and every line that is asked for its width
exists. So highlights always have marks, and these show the strokes of the flattened highlights
(`exists_shows_ofHighlights?`).
-/

namespace PromqlEditor

/-- A stretch between two positions and the category it is coloured in. -/
structure Stroke where
  start : Position
  stop : Position
  category : Category

/-- The stroke of a highlight in a text. -/
def Highlight.stroke (t : Text) (h : Highlight) : Stroke :=
  ⟨t.position h.span.start, t.position h.span.stop, h.category⟩

/-- The strokes that highlights make in a text, those of the flattened highlights. -/
def Highlight.strokes (t : Text) (hs : List Highlight) : List Stroke :=
  (Highlight.flatten hs).map (Highlight.stroke t)

theorem Highlight.mem_strokes {t : Text} {hs : List Highlight} {s : Stroke} :
    s ∈ Highlight.strokes t hs ↔ ∃ q ∈ Highlight.flatten hs, q.stroke t = s :=
  List.mem_map

/-- A list is gone through without failure if each of its members is. -/
theorem mapM_eq_some_iff {α β : Type} {f : α → Option β} {l : List α} {ys : List β} :
    l.mapM f = some ys ↔ l.map f = ys.map some := by
  induction l generalizing ys with
  | nil => cases ys <;> simp
  | cons x l ih =>
    simp only [List.mapM_cons, Option.bind_eq_bind, Option.bind_eq_some_iff, ih, Option.pure_def,
      Option.some.injEq, List.map_cons]
    constructor
    · rintro ⟨y, hy, zs, hzs, rfl⟩
      rw [hy, hzs, List.map_cons]
    · intro h
      obtain ⟨y, zs, rfl, hy, hzs⟩ := List.map_eq_cons_iff.1 h.symm
      exact ⟨y, hy.symm, zs, hzs.symm, rfl⟩

theorem difference?_eq_some {a b : Nat} (h : b ≤ a) : difference? a b = some (a - b) := by
  rw [difference?, if_pos h]

namespace Mark

/-- Where a mark starts. -/
def start (m : Mark) : Position := ⟨m.line, m.column⟩

/-- Where a mark stops. -/
def stop (m : Mark) : Position := ⟨m.line, m.column + m.length⟩

/-- Whether marks show strokes, given the widths of the lines. -/
structure Shows (widths : Array Nat) (strokes : List Stroke) (ms : List Mark) : Prop where
  ordered : ms.Pairwise fun m m' => m.stop ≤ m'.start
  sound : ∀ m ∈ ms, ∃ s ∈ strokes, m.category = s.category ∧ s.start ≤ m.start ∧ m.stop ≤ s.stop
  complete : ∀ s ∈ strokes, ∀ {n x y w}, x < y → s.start ≤ ⟨n, x⟩ → ⟨n, y⟩ ≤ s.stop →
    widths[n]? = some w → y ≤ w →
    ∃ m ∈ ms, m.category = s.category ∧ m.start ≤ ⟨n, x⟩ ∧ ⟨n, y⟩ ≤ m.stop

section

variable {widths : Array Nat}

/-! ## Several strokes -/

/-- Marks that show strokes and marks that show later ones, taken together, show all of them. -/
theorem Shows.append {strokes strokes' : List Stroke} {ms ms' : List Mark}
    (h : Shows widths strokes ms) (h' : Shows widths strokes' ms')
    (hord : ∀ s ∈ strokes, ∀ s' ∈ strokes', s.stop ≤ s'.start) :
    Shows widths (strokes ++ strokes') (ms ++ ms') where
  ordered := by
    refine List.pairwise_append.2 ⟨h.ordered, h'.ordered, fun m hm m' hm' => ?_⟩
    obtain ⟨s, hs, -, -, hstop⟩ := h.sound m hm
    obtain ⟨s', hs', -, hstart, -⟩ := h'.sound m' hm'
    exact le_trans hstop (le_trans (hord s hs s' hs') hstart)
  sound m hm := by
    rcases List.mem_append.1 hm with hm | hm
    · obtain ⟨s, hs, hsm⟩ := h.sound m hm
      exact ⟨s, List.mem_append_left _ hs, hsm⟩
    · obtain ⟨s, hs, hsm⟩ := h'.sound m hm
      exact ⟨s, List.mem_append_right _ hs, hsm⟩
  complete s hs n x y w hxy hx hy hw hyw := by
    rcases List.mem_append.1 hs with hs | hs
    · obtain ⟨m, hm, hmxy⟩ := h.complete s hs hxy hx hy hw hyw
      exact ⟨m, List.mem_append_left _ hm, hmxy⟩
    · obtain ⟨m, hm, hmxy⟩ := h'.complete s hs hxy hx hy hw hyw
      exact ⟨m, List.mem_append_right _ hm, hmxy⟩

/-- The marks of strokes that follow one another, taken together, show all of them. -/
theorem exists_shows_mapM {α : Type} (stroke : α → Stroke) {f : α → Option (List Mark)}
    {l : List α} (hord : l.Pairwise fun x x' => (stroke x).stop ≤ (stroke x').start)
    (hshow : ∀ x ∈ l, ∃ ms, f x = some ms ∧ Shows widths [stroke x] ms) :
    ∃ mss, l.mapM f = some mss ∧ Shows widths (l.map stroke) mss.flatten := by
  induction l with
  | nil => exact ⟨[], rfl, .nil, by simp, by simp⟩
  | cons x l ih =>
    obtain ⟨hx, hl⟩ := List.pairwise_cons.1 hord
    obtain ⟨ms, hms, hfirst⟩ := hshow x List.mem_cons_self
    obtain ⟨mss, hmss, hrest⟩ := ih hl fun z hz => hshow z (List.mem_cons_of_mem x hz)
    refine ⟨ms :: mss, by rw [List.mapM_cons, hms, hmss]; rfl, hfirst.append hrest ?_⟩
    intro s hs s' hs'
    obtain ⟨z, hz, rfl⟩ := List.mem_map.1 hs'
    rw [List.mem_singleton.1 hs]
    exact hx z hz

/-! ## One stroke -/

variable {start stop : Position} {c : Category}

/-- Between two positions of one line lies one mark. -/
theorem shows_singleton (h : start ≤ stop) (hline : start.line = stop.line) :
    Shows widths [⟨start, stop, c⟩]
      [⟨start.line, start.column, stop.column - start.column, c⟩] := by
  have hcol := Position.column_le_column h hline
  have hstop : (⟨start.line, start.column + (stop.column - start.column)⟩ : Position) = stop := by
    rw [Nat.add_sub_cancel' hcol, hline]
  refine ⟨by simp, ?_, ?_⟩
  · intro m hm
    rw [List.mem_singleton.1 hm, Mark.stop, hstop]
    exact ⟨_, List.mem_singleton_self _, rfl, le_refl _, le_refl _⟩
  · intro s hs n x y w _ hx hy _ _
    rw [List.mem_singleton.1 hs] at hx hy ⊢
    exact ⟨_, List.mem_singleton_self _, rfl, hx, by rwa [Mark.stop, hstop]⟩

/-- The first column that is covered on line `n` of what starts at `start`. -/
def firstOn (start : Position) (n : Nat) : Nat := if n = start.line then start.column else 0

/-- The column after the last one that is covered on line `n` of what stops at `stop`. -/
def lastOn (widths : Array Nat) (stop : Position) (n : Nat) : Nat :=
  if n = stop.line then stop.column else widths[n]?.getD 0

/-- What a stroke covers of the content of line `n`. -/
def strokeOn (widths : Array Nat) (s : Stroke) (n : Nat) : Stroke :=
  ⟨⟨n, firstOn s.start n⟩, ⟨n, lastOn widths s.stop n⟩, s.category⟩

theorem firstOn_le_iff {n x : Nat} (hn : start.line ≤ n) :
    firstOn start n ≤ x ↔ start ≤ ⟨n, x⟩ := by
  rw [Position.le_def, firstOn]
  dsimp only
  split <;> omega

theorem mk_lastOn_le {n : Nat} (hn : n ≤ stop.line) : ⟨n, lastOn widths stop n⟩ ≤ stop := by
  rw [Position.le_def, lastOn]
  dsimp only
  split <;> omega

theorem le_lastOn {n y w : Nat} (hy : ⟨n, y⟩ ≤ stop) (hw : widths[n]? = some w) (hyw : y ≤ w) :
    y ≤ lastOn widths stop n := by
  rw [Position.le_def] at hy
  dsimp only at hy
  rw [lastOn, hw, Option.getD_some]
  split <;> omega

theorem onLine?_eq {n : Nat} (hn : n < widths.size) :
    onLine? widths start stop c n =
      if firstOn start n < lastOn widths stop n then
        some [⟨n, firstOn start n, lastOn widths stop n - firstOn start n, c⟩]
      else some [] := by
  have hlast : ∀ last, (if firstOn start n < last then do
        return [⟨n, firstOn start n, ← difference? last (firstOn start n), c⟩]
      else return [] : Option (List Mark)) =
      if firstOn start n < last then some [⟨n, firstOn start n, last - firstOn start n, c⟩]
      else some [] := by
    intro last
    split
    · rename_i h
      rw [difference?_eq_some (Nat.le_of_lt h)]
      rfl
    · rfl
  rw [onLine?, lastOn, Array.getElem?_eq_getElem hn, Option.getD_some]
  split
  · exact hlast stop.column
  · exact hlast widths[n]

/-- On one line that exists a stroke is shown by one mark, or by none if it covers nothing. -/
theorem exists_shows_onLine (start stop : Position) (c : Category) {n : Nat}
    (hn : n < widths.size) :
    ∃ ms, onLine? widths start stop c n = some ms ∧
      Shows widths [strokeOn widths ⟨start, stop, c⟩ n] ms := by
  rw [onLine?_eq hn]
  split
  · rename_i hlt
    exact ⟨_, rfl, shows_singleton (Position.mk_le_mk_iff.2 (Nat.le_of_lt hlt)) rfl⟩
  · rename_i hnot
    refine ⟨[], rfl, .nil, by simp, ?_⟩
    intro s hs m x y w hxy hx hy _ _
    rw [List.mem_singleton.1 hs] at hx hy
    obtain rfl : n = m := Nat.le_antisymm (Position.line_le_line hx) (Position.line_le_line hy)
    have hfirst : firstOn start n ≤ x := Position.mk_le_mk_iff.1 hx
    have hlast : y ≤ lastOn widths stop n := Position.mk_le_mk_iff.1 hy
    omega

/-- What a stroke covers on its lines makes up all of the stroke that is content. -/
theorem Shows.of_lines {ms : List Mark} {lines : List Nat}
    (hlines : ∀ n, n ∈ lines ↔ start.line ≤ n ∧ n ≤ stop.line)
    (h : Shows widths (lines.map (strokeOn widths ⟨start, stop, c⟩)) ms) :
    Shows widths [⟨start, stop, c⟩] ms where
  ordered := h.ordered
  sound m hm := by
    obtain ⟨s, hs, hcat, hstart, hstop⟩ := h.sound m hm
    obtain ⟨n, hn, rfl⟩ := List.mem_map.1 hs
    obtain ⟨hfirst, hlast⟩ := (hlines n).1 hn
    refine ⟨_, List.mem_singleton_self _, hcat, le_trans ?_ hstart, le_trans hstop ?_⟩
    · exact (firstOn_le_iff hfirst).1 (Nat.le_refl _)
    · exact mk_lastOn_le hlast
  complete s hs n x y w hxy hx hy hw hyw := by
    rw [List.mem_singleton.1 hs] at hx hy ⊢
    have hfirst : start.line ≤ n := Position.line_le_line hx
    have hlast : n ≤ stop.line := Position.line_le_line hy
    refine h.complete _ (List.mem_map_of_mem ((hlines n).2 ⟨hfirst, hlast⟩)) hxy ?_ ?_ hw hyw
    · exact Position.mk_le_mk_iff.2 ((firstOn_le_iff hfirst).2 hx)
    · exact Position.mk_le_mk_iff.2 (le_lastOn hy hw hyw)

/-- A stroke is shown by the marks of all lines from its first to its last one. -/
theorem exists_shows_lines (start : Position) (c : Category) (hwidths : stop.line < widths.size) :
    ∃ mss, (List.range' start.line (stop.line + 1 - start.line)).mapM
        (onLine? widths start stop c) = some mss ∧ Shows widths [⟨start, stop, c⟩] mss.flatten := by
  have hlines : ∀ n, n ∈ List.range' start.line (stop.line + 1 - start.line) ↔
      start.line ≤ n ∧ n ≤ stop.line := by
    intro n
    rw [List.mem_range'_1]
    omega
  have hlt : (List.range' start.line (stop.line + 1 - start.line)).Pairwise (· < ·) :=
    List.pairwise_lt_range'
  obtain ⟨mss, hmss, hshow⟩ := exists_shows_mapM (strokeOn widths ⟨start, stop, c⟩)
    (hlt.imp fun h => Or.inl h) fun n hn =>
      exists_shows_onLine start stop c (Nat.lt_of_le_of_lt ((hlines n).1 hn).2 hwidths)
  exact ⟨mss, hmss, hshow.of_lines hlines⟩

end

/-! ## Highlights -/

/-- A highlight that is not reversed has marks, and these show its stroke. -/
theorem exists_shows_ofHighlight? (t : Text) {q : Highlight}
    (hq : q.span.start ≤ q.span.stop) :
    ∃ ms, ofHighlight? t t.lineWidths q = some ms ∧ Shows t.lineWidths [q.stroke t] ms := by
  have hle := t.position_le_position hq
  rw [ofHighlight?]
  by_cases hline : (t.position q.span.start).line = (t.position q.span.stop).line
  · rw [if_pos hline, difference?_eq_some (Position.column_le_column hle hline)]
    exact ⟨_, rfl, shows_singleton hle hline⟩
  · have hsize : (t.position q.span.stop).line < t.lineWidths.size := by
      simpa using t.line_position_lt q.span.stop
    obtain ⟨mss, hmss, hshow⟩ :=
      exists_shows_lines (t.position q.span.start) q.category hsize
    rw [if_neg hline]
    dsimp only
    rw [hmss]
    exact ⟨_, rfl, hshow⟩

/-- All highlights have marks, and these show their strokes. -/
theorem exists_shows_ofHighlights? (t : Text) (hs : List Highlight) :
    ∃ ms, ofHighlights? t hs = some ms ∧ Shows t.lineWidths (Highlight.strokes t hs) ms := by
  obtain ⟨mss, hmss, hshow⟩ := exists_shows_mapM (Highlight.stroke t)
    ((Highlight.pairwise_flatten hs).imp fun h => t.position_le_position h) fun q hq =>
      exists_shows_ofHighlight? t (Nat.le_of_lt (Highlight.start_lt_stop_of_mem_flatten hq))
  exact ⟨mss.flatten, by rw [ofHighlights?, hmss]; rfl, hshow⟩

end Mark

end PromqlEditor
