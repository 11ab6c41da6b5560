import Mathlib.Data.List.Sort
import PromqlEditor.Highlight.Basic
import PromqlEditor.Proofs.Tree.Ancestry

/-!
# The nodes of a walk

A walk visits every node of a tree once. Said by addresses, it visits those at which the tree has a
node, each of them once and in lexicographic order, so a node before all that lie below it
(`count_addresses`, `pairwise_addresses`). Nodes that look alike cannot be told apart in what a walk
gives, so a tree may have its nodes named by their addresses first (`labelled`): the names then come
in the same order (`map_kind_walk_labelled`).

What is found on a walk, or made of its nodes, is in that order too and leaves no node out
(`Collects`, `collects_iff`). No node, whatever its kind, keeps a walk from what lies below it: the
walk below a node is a stretch of the walk through the whole tree (`walk_infix_of_at?`).
-/

namespace PromqlEditor.Node

/-! ## Visits -/

theorem nodup_addresses (root : Node) : root.addresses.Nodup :=
  root.pairwise_addresses.nodup

/-- The addresses of a tree are those at which it has a node, each of them once. -/
theorem count_addresses (root : Node) (a : List Nat) :
    root.addresses.count a = if (root.at? a).isSome then 1 else 0 := by
  rw [root.nodup_addresses.count]
  congr 1
  rw [mem_addresses_iff, Option.isSome_iff_exists]

/-- What lies below a node is visited after it. -/
theorem pairwise_not_prefix (root : Node) :
    root.addresses.Pairwise fun a b => ¬ b <+: a := by
  refine root.pairwise_addresses.imp fun hlt hpre => ?_
  exact List.not_lt.2 hpre.le hlt

/-! ## Labelled trees -/

mutual
/-- The tree in which the kind of every node is the name of its address. -/
def labelled (name : List Nat → String) : Node → Node
  | ⟨_, span, children⟩ => ⟨name [], span, labelledFrom name 0 children⟩

/-- The same for several trees, of which the first is child number `i`. -/
def labelledFrom (name : List Nat → String) (i : Nat) : List Node → List Node
  | [] => []
  | n :: ns => labelled (fun a => name (i :: a)) n :: labelledFrom name (i + 1) ns
end

theorem getElem?_labelledFrom (name : List Nat → String) (i : Nat) (ns : List Node) (j : Nat) :
    (labelledFrom name i ns)[j]? = ns[j]?.map (labelled fun a => name ((i + j) :: a)) := by
  induction ns generalizing i j with
  | nil => rfl
  | cons n ns ih =>
    rw [labelledFrom]
    cases j with
    | zero => rfl
    | succ j =>
      rw [List.getElem?_cons_succ, List.getElem?_cons_succ, ih, Nat.add_right_comm, Nat.add_assoc]

theorem kind_labelled (name : List Nat → String) (n : Node) : (n.labelled name).kind = name [] := by
  cases n
  rw [labelled]

/-- A labelled tree has a node where the tree has one, and its kind names the address. -/
theorem kind_at?_labelled (name : List Nat → String) (root : Node) (a : List Nat) :
    ((root.labelled name).at? a).map kind = (root.at? a).map fun _ => name a := by
  induction a generalizing name root with
  | nil => simp [kind_labelled]
  | cons i a ih =>
    have hchild : (root.labelled name).children[i]? =
        root.children[i]?.map (labelled fun b => name (i :: b)) := by
      cases root
      rw [labelled, getElem?_labelledFrom, Nat.zero_add]
    rw [at?_cons, at?_cons, hchild]
    cases root.children[i]? with
    | none => rfl
    | some c => exact ih (fun b => name (i :: b)) c

mutual
/-- A walk through a labelled tree gives the names of the addresses in order. -/
theorem map_kind_walk_labelled : ∀ (name : List Nat → String) (n : Node),
    (n.labelled name).walk.map kind = n.addresses.map name
  | name, ⟨_, _, children⟩ => by
    rw [labelled, walk, addresses, List.map_cons, List.map_cons,
      map_kind_walkAll_labelledFrom name 0 children]

/-- The same for several trees. -/
theorem map_kind_walkAll_labelledFrom : ∀ (name : List Nat → String) (i : Nat) (ns : List Node),
    (walkAll (labelledFrom name i ns)).map kind = (addressesFrom i ns).map name
  | _, _, [] => rfl
  | name, i, n :: ns => by
    rw [labelledFrom, walkAll, addressesFrom, List.map_append, List.map_append, List.map_map,
      map_kind_walk_labelled _ n, map_kind_walkAll_labelledFrom name (i + 1) ns]
    rfl
end

/-! ## The order of visits -/

/-- Whether addresses are those of the nodes that a walk visits, in order: they increase, so none
comes after one below it, each address at which the tree has a node is there once, and no other is.
The walk gives the nodes at these addresses, and with every node named by its address it gives the
names. -/
structure IsVisitOrder (root : Node) (as : List (List Nat)) : Prop where
  increasing : as.Pairwise (· < ·)
  ancestors_first : as.Pairwise fun a b => ¬ b <+: a
  once : ∀ a, as.count a = if (root.at? a).isSome then 1 else 0
  visited : root.walk.map some = as.map root.at?
  named : ∀ name : List Nat → String,
    (∀ a, ((root.labelled name).at? a).map kind = (root.at? a).map fun _ => name a) ∧
      (root.labelled name).walk.map kind = as.map name

theorem isVisitOrder_addresses (root : Node) : root.IsVisitOrder root.addresses where
  increasing := root.pairwise_addresses
  ancestors_first := root.pairwise_not_prefix
  once := root.count_addresses
  visited := root.map_at?_addresses.symm
  named name := ⟨root.kind_at?_labelled name, map_kind_walk_labelled name root⟩

/-! ## What is found on a walk -/

/-- Whether a list holds all that `R` says is made of the nodes of a tree, and nothing else: one
member for each node of which something is made, in the order of their addresses. -/
def Collects {β : Type} (root : Node) (R : Node → β → Prop) (xs : List β) : Prop :=
  ∃ located : List (List Nat × β), located.map Prod.snd = xs ∧
    (∀ a b, (a, b) ∈ located ↔ ∃ n, root.at? a = some n ∧ R n b) ∧
    located.Pairwise fun x y => x.1 < y.1

section

variable {β : Type} {root : Node} {R : Node → β → Prop} {f : Node → Option β} {xs : List β}

/-- Two lists in the order of addresses are the same if they have the same members. -/
theorem eq_of_pairwise_lt {ys zs : List (List Nat × β)} (hys : ys.Pairwise fun x y => x.1 < y.1)
    (hzs : zs.Pairwise fun x y => x.1 < y.1) (hmem : ∀ x, x ∈ ys ↔ x ∈ zs) : ys = zs := by
  have : Std.Irrefl fun x y : List Nat × β => x.1 < y.1 := ⟨fun x => List.lt_irrefl x.1⟩
  have : Std.Antisymm fun x y : List Nat × β => x.1 < y.1 :=
    ⟨fun x y hxy hyx => absurd hyx (List.lt_asymm hxy)⟩
  exact hys.eq_of_mem_iff hzs hmem

/-- What is made on a walk is all that is made of the nodes, and only that in only that order. -/
theorem collects_iff (hf : ∀ n b, R n b ↔ f n = some b) :
    root.Collects R xs ↔ xs = root.walk.filterMap f := by
  have hmem (a : List Nat) (b : β) :
      (a, b) ∈ root.located f ↔ ∃ n, root.at? a = some n ∧ R n b := by
    simp only [mem_located, hf]
  constructor
  · rintro ⟨located, rfl, hlocated, hordered⟩
    rw [← map_snd_located, eq_of_pairwise_lt hordered pairwise_located fun x => ?_]
    exact (hlocated x.1 x.2).trans (hmem x.1 x.2).symm
  · rintro rfl
    exact ⟨root.located f, map_snd_located, hmem, pairwise_located⟩

end

/-- The nodes that are found are those with the property. -/
theorem collects_findAll_iff {root : Node} {p : Node → Bool} {ns : List Node} :
    root.Collects (fun n m => m = n ∧ p n = true) ns ↔ ns = root.findAll p := by
  rw [collects_iff (f := Option.guard p), findAll, List.filterMap_eq_filter]
  intro n m
  rw [Option.guard_eq_some_iff, eq_comm]

/-- There is one highlight for each node whose kind the table knows. -/
theorem collects_ofTree_iff {root : Node} {table : Table} {hs : List Highlight} :
    root.Collects (fun n h => h.span = n.span ∧ table.category? n.kind = some h.category) hs ↔
      hs = Highlight.ofTree table root := by
  refine collects_iff fun n h => ?_
  rw [Option.map_eq_some_iff]
  constructor
  · rintro ⟨hspan, hc⟩
    exact ⟨h.category, hc, hspan ▸ rfl⟩
  · rintro ⟨c, hc, rfl⟩
    exact ⟨rfl, hc⟩

/-- A walk below a node is a stretch of the walk through the whole tree. -/
theorem walk_infix_of_at? {root n : Node} {a : List Nat} (h : root.at? a = some n) :
    n.walk <:+: root.walk := by
  induction a generalizing root with
  | nil =>
    cases h
    exact List.infix_refl _
  | cons i a ih =>
    obtain ⟨c, hc, hn⟩ := Option.bind_eq_some_iff.1 h
    have hchild : c.walk <:+: walkAll root.children := by
      rw [walkAll_eq_flatMap, List.flatMap]
      exact List.infix_of_mem_flatten (List.mem_map_of_mem (List.mem_of_getElem? hc))
    rw [walk_eq root]
    exact ((ih hn).trans hchild).trans (List.infix_cons (List.infix_refl _))

/-! ## The main result -/

/-- A walk visits every node of a tree once, in the lexicographic order of the addresses. So for
every property the nodes that are found are those with the property, and for every table there is
one highlight for each node whose kind the table knows, both in that order. Whatever a node of the
tree is, what is visited, found and highlighted below it is a stretch of what is visited, found and
highlighted in the whole tree. -/
theorem nodes_visited_in_order (root : Node) :
    (∃ as, root.IsVisitOrder as) ∧
      (∀ (p : Node → Bool) (ns : List Node),
        root.Collects (fun n m => m = n ∧ p n = true) ns ↔ ns = root.findAll p) ∧
      (∀ (table : Table) (hs : List Highlight),
        root.Collects (fun n h => h.span = n.span ∧ table.category? n.kind = some h.category) hs ↔
          hs = Highlight.ofTree table root) ∧
      ∀ a n, root.at? a = some n → n.walk <:+: root.walk ∧
        (∀ p, n.findAll p <:+: root.findAll p) ∧
          ∀ table, Highlight.ofTree table n <:+: Highlight.ofTree table root := by
  refine ⟨⟨root.addresses, root.isVisitOrder_addresses⟩, fun p ns => collects_findAll_iff,
    fun table hs => collects_ofTree_iff, fun a n hn => ?_⟩
  have hwalk := walk_infix_of_at? hn
  exact ⟨hwalk, fun p => hwalk.filter p, fun table => hwalk.filterMap _⟩

end PromqlEditor.Node
