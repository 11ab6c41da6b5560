import PromqlEditor.Tree.Basic

/-!
# Addresses in a tree

The address of a node is the way to it from the root: at every step the index of the child that is
taken. Addresses tell apart nodes that look alike. `Node.addresses` lists those of a tree so that
the nodes at them are the nodes of the walk (`map_at?_addresses`).
-/

namespace PromqlEditor.Node

/-- The node at an address. -/
def at? : Node → List Nat → Option Node
  | n, [] => some n
  | n, i :: a => n.children[i]?.bind fun c => at? c a

mutual
/-- The addresses of all nodes of a tree, every node before its children. -/
def addresses : Node → List (List Nat)
  | ⟨_, _, children⟩ => [] :: addressesFrom 0 children

/-- The addresses of all nodes of several trees, of which the first is child number `i`. -/
def addressesFrom (i : Nat) : List Node → List (List Nat)
  | [] => []
  | n :: ns => (addresses n).map (i :: ·) ++ addressesFrom (i + 1) ns
end

@[simp] theorem at?_nil (n : Node) : n.at? [] = some n := rfl

@[simp] theorem at?_cons (n : Node) (i : Nat) (a : List Nat) :
    n.at? (i :: a) = n.children[i]?.bind fun c => c.at? a := rfl

mutual
/-- The nodes at the addresses of a tree are those of its walk, in the same order. -/
theorem map_at?_addresses : ∀ n : Node, n.addresses.map n.at? = n.walk.map some
  | ⟨kind, span, children⟩ => by
    simp only [addresses, walk, List.map_cons, at?_nil]
    exact congrArg _ (map_at?_addressesFrom ⟨kind, span, children⟩ [] children rfl)

/-- The same for the trees among the children of a node that follow the trees `done`. -/
theorem map_at?_addressesFrom (n : Node) (done : List Node) :
    ∀ rest : List Node, n.children = done ++ rest →
      (addressesFrom done.length rest).map n.at? = (walkAll rest).map some
  | [], _ => rfl
  | c :: rest, h => by
    have hc : n.children[done.length]? = some c := by simp [h]
    have hrest := map_at?_addressesFrom n (done ++ [c]) rest (by simp [h])
    simp only [List.length_append, List.length_cons, List.length_nil] at hrest
    simp only [addressesFrom, walkAll, List.map_append, List.map_map, hrest]
    refine congrArg (· ++ _) ?_
    rw [← map_at?_addresses c]
    exact List.map_congr_left fun a _ => by simp [hc]
end

end PromqlEditor.Node
