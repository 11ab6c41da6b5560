import PromqlEditor.Tree.Nesting

/-!
# Ancestry

The addresses of a tree are those at which it has a node (`mem_addresses_iff`), and they come in
lexicographic order (`pairwise_addresses`), so a node comes before what lies below it and that
before its next sibling. Whatever is made of the nodes of a tree comes in the order of their
addresses too (`pairwise_located`).

In a well-nested tree this decides how two nodes lie: the node that comes first is an ancestor
whose span contains that of the other one, or it stops where the other one starts, or before
(`nested_or_apart`).
-/

namespace PromqlEditor.Node

/-! ## The order of addresses -/

theorem mem_addressesFrom {ns : List Node} {i : Nat} {a : List Nat} :
    a ∈ addressesFrom i ns ↔
      ∃ j n b, ns[j]? = some n ∧ b ∈ n.addresses ∧ a = (i + j) :: b := by
  induction ns generalizing i with
  | nil => simp [addressesFrom]
  | cons n ns ih =>
    rw [addressesFrom, List.mem_append, List.mem_map, ih]
    constructor
    · rintro (⟨b, hb, rfl⟩ | ⟨j, m, b, hj, hb, rfl⟩)
      · exact ⟨0, n, b, rfl, hb, rfl⟩
      · exact ⟨j + 1, m, b, hj, hb, by rw [Nat.add_right_comm, Nat.add_assoc]⟩
    · rintro ⟨_ | j, m, b, hj, hb, rfl⟩
      · cases hj
        exact Or.inl ⟨b, hb, rfl⟩
      · exact Or.inr ⟨j, m, b, hj, hb, by rw [Nat.add_right_comm, Nat.add_assoc]⟩

theorem addresses_eq (n : Node) : n.addresses = [] :: addressesFrom 0 n.children := by
  cases n
  rfl

/-- The addresses of a tree are those at which it has a node. -/
theorem mem_addresses_iff {n : Node} {a : List Nat} :
    a ∈ n.addresses ↔ ∃ m, n.at? a = some m := by
  induction a generalizing n with
  | nil => simp [addresses_eq]
  | cons i a ih =>
    rw [addresses_eq, List.mem_cons, mem_addressesFrom, at?_cons]
    constructor
    · rintro (h | ⟨j, c, b, hc, hb, heq⟩)
      · exact absurd h (by simp)
      · obtain ⟨rfl, rfl⟩ : i = j ∧ a = b := by simpa using heq
        rw [hc]
        exact ih.1 hb
    · rintro ⟨m, hm⟩
      obtain ⟨c, hc, hm⟩ := Option.bind_eq_some_iff.1 hm
      exact Or.inr ⟨i, c, a, hc, ih.2 ⟨m, hm⟩, by simp⟩

mutual
/-- The addresses of a tree are in lexicographic order. -/
theorem pairwise_addresses : ∀ n : Node, n.addresses.Pairwise (· < ·)
  | ⟨_, _, children⟩ => by
    rw [addresses]
    refine List.pairwise_cons.2 ⟨fun a ha => ?_, pairwise_addressesFrom 0 children⟩
    obtain ⟨j, n, b, -, -, rfl⟩ := mem_addressesFrom.1 ha
    exact List.nil_lt_cons _ _

/-- The same for the addresses of several trees, since they start with different indices. -/
theorem pairwise_addressesFrom : ∀ (i : Nat) (ns : List Node),
    (addressesFrom i ns).Pairwise (· < ·)
  | _, [] => .nil
  | i, n :: ns => by
    rw [addressesFrom]
    refine List.pairwise_append.2 ⟨?_, pairwise_addressesFrom (i + 1) ns, ?_⟩
    · exact List.pairwise_map.2 ((pairwise_addresses n).imp List.cons_lt_cons_self.2)
    · intro a ha a' ha'
      obtain ⟨b, -, rfl⟩ := List.mem_map.1 ha
      obtain ⟨j, m, b', -, -, rfl⟩ := mem_addressesFrom.1 ha'
      exact List.cons_lt_cons_iff.2 (Or.inl (by omega))
end

/-- The nodes of a walk are those at the addresses. -/
theorem walk_eq_filterMap (n : Node) : n.walk = n.addresses.filterMap n.at? := by
  have h := congrArg (List.filterMap id) n.map_at?_addresses
  rw [List.filterMap_map, List.filterMap_map] at h
  simpa using h.symm

theorem mem_walk_iff {n m : Node} : m ∈ n.walk ↔ ∃ a, n.at? a = some m := by
  rw [walk_eq_filterMap, List.mem_filterMap]
  exact ⟨fun ⟨a, _, h⟩ => ⟨a, h⟩, fun ⟨a, h⟩ => ⟨a, mem_addresses_iff.2 ⟨m, h⟩, h⟩⟩

/-- What lies at the end of a longer way lies below the node at the end of a beginning of it. -/
theorem at?_append (n : Node) (a b : List Nat) :
    n.at? (a ++ b) = (n.at? a).bind fun m => m.at? b := by
  induction a generalizing n with
  | nil => rfl
  | cons i a ih =>
    rw [List.cons_append, at?_cons, at?_cons, Option.bind_assoc]
    congr
    funext c
    exact ih c

/-! ## Nodes with their addresses -/

/-- What is made of the nodes of a tree, each with the address of its node. -/
def located {β : Type} (f : Node → Option β) (root : Node) : List (List Nat × β) :=
  root.addresses.filterMap fun a => (root.at? a).bind fun n => (f n).map fun b => (a, b)

section

variable {β : Type} {f : Node → Option β} {root : Node}

/-- Without the addresses this is what is made on the walk. -/
theorem map_snd_located : (root.located f).map Prod.snd = root.walk.filterMap f := by
  rw [walk_eq_filterMap, List.filterMap_filterMap, located, List.map_filterMap]
  congr
  funext a
  cases root.at? a with
  | none => rfl
  | some n => simp [Option.map_map, Function.comp_def]

theorem mem_located {a : List Nat} {b : β} :
    (a, b) ∈ root.located f ↔ ∃ n, root.at? a = some n ∧ f n = some b := by
  rw [located, List.mem_filterMap]
  constructor
  · rintro ⟨a', -, ha'⟩
    obtain ⟨n, hn, ha'⟩ := Option.bind_eq_some_iff.1 ha'
    obtain ⟨b', hb', heq⟩ := Option.map_eq_some_iff.1 ha'
    cases heq
    exact ⟨n, hn, hb'⟩
  · rintro ⟨n, hn, hb⟩
    refine ⟨a, mem_addresses_iff.2 ⟨n, hn⟩, ?_⟩
    rw [hn, Option.bind_some, hb, Option.map_some]

/-- What is made of the nodes comes in the order of their addresses. -/
theorem pairwise_located : (root.located f).Pairwise fun x y => x.1 < y.1 := by
  refine List.Pairwise.filterMap _ (fun a a' hlt x hx y hy => ?_) root.pairwise_addresses
  obtain ⟨n, -, hx⟩ := Option.bind_eq_some_iff.1 hx
  obtain ⟨n', -, hy⟩ := Option.bind_eq_some_iff.1 hy
  obtain ⟨b, -, rfl⟩ := Option.map_eq_some_iff.1 hx
  obtain ⟨b', -, rfl⟩ := Option.map_eq_some_iff.1 hy
  exact hlt

end

/-! ## Nodes of a well-nested tree -/

theorem wellNested_iff {n : Node} :
    n.WellNested ↔ n.span.start ≤ n.span.stop ∧ InOrder n.span n.children := by
  cases n
  rw [WellNested]

theorem InOrder.of_getElem? {room : Span} {ns : List Node} (h : InOrder room ns) {i : Nat}
    {c : Node} (hc : ns[i]? = some c) : c.WellNested ∧ c.span.IsWithin room := by
  induction ns generalizing room i with
  | nil => simp at hc
  | cons n ns ih =>
    rw [InOrder] at h
    obtain ⟨hroom, hn, hns⟩ := h
    cases i with
    | zero =>
      cases hc
      exact ⟨hn, hroom⟩
    | succ i =>
      obtain ⟨hwell, hstart, hstop⟩ := ih hns hc
      have hle := (wellNested_iff.1 hn).1
      exact ⟨hwell, Nat.le_trans hroom.1 (Nat.le_trans hle hstart), hstop⟩

theorem InOrder.stop_le_start {room : Span} {ns : List Node} (h : InOrder room ns) {i j : Nat}
    {c d : Node} (hc : ns[i]? = some c) (hd : ns[j]? = some d) (hij : i < j) :
    c.span.stop ≤ d.span.start := by
  induction ns generalizing room i j with
  | nil => simp at hc
  | cons n ns ih =>
    rw [InOrder] at h
    obtain ⟨-, -, hns⟩ := h
    cases j with
    | zero => exact absurd hij (Nat.not_lt_zero i)
    | succ j =>
      cases i with
      | zero =>
        cases hc
        exact (hns.of_getElem? hd).2.1
      | succ i => exact ih hns hc hd (Nat.lt_of_succ_lt_succ hij)

/-- What lies below a well-nested node lies within it. -/
theorem WellNested.isWithin {n m : Node} (h : n.WellNested) {a : List Nat}
    (hm : n.at? a = some m) : m.span.IsWithin n.span := by
  induction a generalizing n with
  | nil =>
    cases hm
    exact ⟨Nat.le_refl _, Nat.le_refl _⟩
  | cons i a ih =>
    obtain ⟨c, hc, hm⟩ := Option.bind_eq_some_iff.1 hm
    obtain ⟨hwell, hin⟩ := (wellNested_iff.1 h).2.of_getElem? hc
    have hcm := ih hwell hm
    exact ⟨Nat.le_trans hin.1 hcm.1, Nat.le_trans hcm.2 hin.2⟩

/-- The trees below a well-nested node are well nested. -/
theorem WellNested.of_at? {n m : Node} (h : n.WellNested) {a : List Nat} (hm : n.at? a = some m) :
    m.WellNested := by
  induction a generalizing n with
  | nil =>
    cases hm
    exact h
  | cons i a ih =>
    obtain ⟨c, hc, hm⟩ := Option.bind_eq_some_iff.1 hm
    exact ih ((wellNested_iff.1 h).2.of_getElem? hc).1 hm

/-- A node lies within each of its ancestors. -/
theorem WellNested.isWithin_of_prefix {n m m' : Node} (h : n.WellNested) {a a' : List Nat}
    (hm : n.at? a = some m) (hm' : n.at? a' = some m') (hpre : a <+: a') :
    m'.span.IsWithin m.span := by
  obtain ⟨b, rfl⟩ := hpre
  rw [at?_append, hm, Option.bind_some] at hm'
  exact (h.of_at? hm).isWithin hm'

/-- Of two nodes of a well-nested tree the one that comes first is an ancestor of the other and
contains it, or it stops before the other starts. -/
theorem WellNested.nested_or_apart {n m m' : Node} (h : n.WellNested) {a a' : List Nat}
    (hm : n.at? a = some m) (hm' : n.at? a' = some m') (hlt : a < a') :
    (a <+: a' ∧ m'.span.IsWithin m.span) ∨ m.span.stop ≤ m'.span.start := by
  induction a generalizing n a' with
  | nil =>
    cases hm
    exact Or.inl ⟨List.nil_prefix, h.isWithin hm'⟩
  | cons i a ih =>
    cases a' with
    | nil => exact absurd hlt (List.not_lt_nil _)
    | cons j a' =>
      obtain ⟨c, hc, hm⟩ := Option.bind_eq_some_iff.1 hm
      obtain ⟨d, hd, hm'⟩ := Option.bind_eq_some_iff.1 hm'
      have hin := (wellNested_iff.1 h).2
      obtain ⟨hwellc, -⟩ := hin.of_getElem? hc
      obtain ⟨hwelld, -⟩ := hin.of_getElem? hd
      rcases List.cons_lt_cons_iff.1 hlt with hij | ⟨rfl, haa⟩
      · right
        calc m.span.stop ≤ c.span.stop := (hwellc.isWithin hm).2
          _ ≤ d.span.start := hin.stop_le_start hc hd hij
          _ ≤ m'.span.start := (hwelld.isWithin hm').1
      · cases hc.symm.trans hd
        rcases ih hwellc hm hm' haa with ⟨hpre, hspan⟩ | hapart
        · exact Or.inl ⟨List.cons_prefix_cons.2 ⟨rfl, hpre⟩, hspan⟩
        · exact Or.inr hapart

/-- Of two nodes that contain the same stretch the one that comes first is an ancestor of the
other. -/
theorem WellNested.prefix_of_isWithin {n m m' : Node} (h : n.WellNested) {a a' : List Nat}
    (hm : n.at? a = some m) (hm' : n.at? a' = some m') {s : Span} (hs : s.start < s.stop)
    (hin : s.IsWithin m.span) (hin' : s.IsWithin m'.span) (hlt : a < a') : a <+: a' := by
  rcases h.nested_or_apart hm hm' hlt with ⟨hpre, -⟩ | hapart
  · exact hpre
  · have hle : s.stop ≤ s.start := Nat.le_trans hin.2 (Nat.le_trans hapart hin'.1)
    exact absurd hs (Nat.not_lt.2 hle)

end PromqlEditor.Node
