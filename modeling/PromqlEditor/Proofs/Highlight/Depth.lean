import Mathlib.Data.List.Lex
import PromqlEditor.Proofs.Highlight.Runs
import PromqlEditor.Proofs.Tree.Ancestry

/-!
# The highlight of the deepest node

In a well-nested tree the nodes over an offset are ancestors of one another, and a highlighter
wants the deepest of those that have a category to be seen. That is what being in front comes to:
a deeper node comes later in the walk, and its span lies within that of each of its ancestors, so
its highlight is in front of theirs, also where the spans are equal (`isDeepest_of_isFront`). So a
piece of the flattened highlights has the category of the deepest node
(`exists_isDeepest_of_piece`).
-/

namespace PromqlEditor

namespace Node

/-- Whether a tree has, at an address, a node of category `c` that contains a span. -/
def HasOver (table : Table) (root : Node) (s : Span) (a : List Nat) (c : Category) : Prop :=
  ∃ n, root.at? a = some n ∧ table.category? n.kind = some c ∧ s.IsWithin n.span

/-- Whether the deepest node with a category that contains a span is at address `a` and has
category `c`. -/
def IsDeepest (table : Table) (root : Node) (s : Span) (a : List Nat) (c : Category) : Prop :=
  root.HasOver table s a c ∧ ∀ a' c', root.HasOver table s a' c' → a'.length ≤ a.length

/-- In a well-nested tree at most one node with a category is the deepest over a span. -/
theorem IsDeepest.unique {table : Table} {root : Node} (hroot : root.WellNested) {s : Span}
    (hs : s.start < s.stop) {a a' : List Nat} {c c' : Category}
    (h : root.IsDeepest table s a c) (h' : root.IsDeepest table s a' c') : a' = a ∧ c' = c := by
  have ⟨⟨n, hn, hc, hin⟩, hdeep⟩ := h
  have ⟨⟨n', hn', hc', hin'⟩, hdeep'⟩ := h'
  have hlen : a'.length = a.length := Nat.le_antisymm (hdeep a' c' h'.1) (hdeep' a c h.1)
  have heq : a' = a := by
    rcases lt_trichotomy a' a with hlt | heq | hlt
    · exact (hroot.prefix_of_isWithin hn' hn hs hin' hin hlt).eq_of_length hlen
    · exact heq
    · exact ((hroot.prefix_of_isWithin hn hn' hs hin hin' hlt).eq_of_length hlen.symm).symm
  subst heq
  cases hn.symm.trans hn'
  exact ⟨rfl, Option.some.inj (hc'.symm.trans hc)⟩

end Node

namespace Highlight

/-! ## Highlights and their nodes -/

/-- The highlights of a tree, each with the address of its node. -/
def located (table : Table) (root : Node) : List (List Nat × Highlight) :=
  root.located fun n => (table.category? n.kind).map fun c => ⟨n.span, c⟩

variable {table : Table} {root : Node}

theorem map_snd_located : (located table root).map Prod.snd = ofTree table root :=
  Node.map_snd_located

/-- A highlight of the tree is that of a node at the same place among the located ones. -/
theorem getElem?_ofTree_iff {i : Nat} {h : Highlight} :
    (ofTree table root)[i]? = some h ↔ ∃ a, (located table root)[i]? = some (a, h) := by
  rw [← map_snd_located, List.getElem?_map, Option.map_eq_some_iff]
  constructor
  · rintro ⟨⟨a, h⟩, hi, rfl⟩
    exact ⟨a, hi⟩
  · rintro ⟨a, hi⟩
    exact ⟨(a, h), hi, rfl⟩

theorem mem_located {a : List Nat} {h : Highlight} :
    (a, h) ∈ located table root ↔
      ∃ n, root.at? a = some n ∧ table.category? n.kind = some h.category ∧ n.span = h.span := by
  rw [located, Node.mem_located]
  constructor
  · rintro ⟨n, hn, hh⟩
    obtain ⟨c, hc, rfl⟩ := Option.map_eq_some_iff.1 hh
    exact ⟨n, hn, hc, rfl⟩
  · rintro ⟨n, hn, hc, hspan⟩
    exact ⟨n, hn, by rw [hc, hspan, Option.map_some]⟩

/-- Highlights come in the order of their addresses. -/
theorem pairwise_located (table : Table) (root : Node) :
    (located table root).Pairwise fun x y => x.1 < y.1 :=
  Node.pairwise_located

/-- Of two highlights of a well-nested tree that cover the same offset, the one that comes first
is that of an ancestor and lies behind the other. -/
theorem isBehind_of_lt (hroot : root.WellNested) {p i j : Nat} {a a' : List Nat}
    {g h : Highlight} (hj : (located table root)[j]? = some (a', g))
    (hi : (located table root)[i]? = some (a, h)) (hg : g.Covers p) (hh : h.Covers p)
    (hlt : j < i) : a' <+: a ∧ IsBehind (ofTree table root) j i := by
  obtain ⟨m, hm, -, hmspan⟩ := mem_located.1 (List.mem_of_getElem? hj)
  obtain ⟨n, hn, -, hnspan⟩ := mem_located.1 (List.mem_of_getElem? hi)
  have haddr : a' < a := by
    have hord := List.pairwise_iff_getElem.1 (pairwise_located table root)
    obtain ⟨hjl, hj⟩ := List.getElem?_eq_some_iff.1 hj
    obtain ⟨hil, hi⟩ := List.getElem?_eq_some_iff.1 hi
    have hlt' := hord j i hjl hil hlt
    rwa [hj, hi] at hlt'
  obtain ⟨hg₁, hg₂⟩ := hg
  obtain ⟨hh₁, hh₂⟩ := hh
  rcases hroot.nested_or_apart hm hn haddr with ⟨hpre, hstart, hstop⟩ | hle
  · rw [hmspan, hnspan] at hstart hstop
    refine ⟨hpre, g, h, getElem?_ofTree_iff.2 ⟨a', hj⟩, getElem?_ofTree_iff.2 ⟨a, hi⟩, ?_⟩
    omega
  · rw [hmspan, hnspan] at hle
    omega

/-- What is in front in a well-nested tree is the highlight of the deepest node. -/
theorem isDeepest_of_isFront (hroot : root.WellNested) {s : Span} {p : Nat}
    (hs : ∀ n ∈ root.walk, s.IsWithin n.span ↔ n.span.Contains p) {i : Nat} {a : List Nat}
    {h : Highlight} (hi : (located table root)[i]? = some (a, h))
    (hfront : IsFront (ofTree table root) p i) : root.IsDeepest table s a h.category := by
  obtain ⟨⟨h', hi', hp⟩, hbehind⟩ := hfront
  cases (getElem?_ofTree_iff.2 ⟨a, hi⟩).symm.trans hi'
  constructor
  · obtain ⟨n, hn, hc, hspan⟩ := mem_located.1 (List.mem_of_getElem? hi)
    exact ⟨n, hn, hc, (hs n (Node.mem_walk_iff.2 ⟨a, hn⟩)).2 (hspan ▸ hp)⟩
  · rintro a' c' ⟨n', hn', hc', hin'⟩
    have hmem : (a', ⟨n'.span, c'⟩) ∈ located table root := mem_located.2 ⟨n', hn', hc', rfl⟩
    obtain ⟨j, hj⟩ := List.getElem?_of_mem hmem
    have hp' : (⟨n'.span, c'⟩ : Highlight).Covers p :=
      (hs n' (Node.mem_walk_iff.2 ⟨a', hn'⟩)).1 hin'
    rcases Nat.lt_trichotomy j i with hlt | rfl | hlt
    · exact (isBehind_of_lt hroot hj hi hp' hp hlt).1.length_le
    · cases hj.symm.trans hi
      exact Nat.le_refl _
    · have hback := (isBehind_of_lt hroot hi hj hp hp' hlt).2
      have hj := getElem?_ofTree_iff.2 ⟨a', hj⟩
      exact absurd (hbehind j _ hj hp' (Nat.ne_of_gt hlt)) hback.asymm

/-! ## Pieces and their nodes -/

section

variable {s : Span} {p : Nat}

/-- A piece has the category of the deepest node over its offsets. -/
theorem exists_isDeepest_of_piece (hroot : root.WellNested)
    (hs : ∀ n ∈ root.walk, s.IsWithin n.span ↔ n.span.Contains p) {q : Highlight}
    (hq : q ∈ flatten (ofTree table root)) (hp : q.Covers p) :
    ∃ a, root.IsDeepest table s a q.category := by
  obtain ⟨i, h, hfront, hi, hcat⟩ := exists_piece_iff.1 ⟨q, hq, hp, rfl⟩
  obtain ⟨a, ha⟩ := getElem?_ofTree_iff.1 hi
  exact ⟨a, hcat ▸ isDeepest_of_isFront hroot hs ha hfront⟩

/-- Where a node has a category there is a piece. -/
theorem exists_piece_of_hasOver
    (hs : ∀ n ∈ root.walk, s.IsWithin n.span ↔ n.span.Contains p) {a : List Nat} {c : Category}
    (h : root.HasOver table s a c) : ∃ q ∈ flatten (ofTree table root), q.Covers p := by
  obtain ⟨n, hn, hc, hin⟩ := h
  have hmem : (⟨n.span, c⟩ : Highlight) ∈ ofTree table root := by
    rw [← map_snd_located]
    exact List.mem_map.2 ⟨(a, _), mem_located.2 ⟨n, hn, hc, rfl⟩, rfl⟩
  obtain ⟨i, h, hfront, hi⟩ := exists_isFront hmem ((hs n (Node.mem_walk_iff.2 ⟨a, hn⟩)).1 hin)
  obtain ⟨q, hq, hp, -⟩ := exists_piece_iff.2 ⟨i, h, hfront, hi, rfl⟩
  exact ⟨q, hq, hp⟩

end

end Highlight

end PromqlEditor
