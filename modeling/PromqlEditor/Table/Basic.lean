import PromqlEditor.Category
import PromqlEditor.Text.Blank

/-!
# Classification tables

A classification table says which category each kind of syntax-tree node has. It is declared as a
list of groups, each a text of names separated by white space together with the category that they
share. A declaration is turned down if one of its groups names nothing or if a name occurs twice,
be it in two groups or in one, and the first fault that a reader meets is the one reported.

A `Table` carries what a declaration was checked for: its names are distinct and none of its
groups is empty.
-/

namespace PromqlEditor

/-! ## Tables -/

/-- One declared group: names separated by white space and the category they share. -/
structure Declaration where
  names : String
  category : Category
deriving DecidableEq, Repr

/-- The names that a declaration lists, in order. -/
def Declaration.listed (d : Declaration) : List String :=
  (Text.words d.names.toList).map String.ofList

/-- One group of a table: the names of node kinds that share a category. -/
structure Group where
  names : List String
  category : Category
deriving DecidableEq, Repr

/-- A classification table. -/
structure Table where
  groups : List Group
  names_nodup : (groups.flatMap Group.names).Nodup
  names_ne_nil : ∀ g ∈ groups, g.names ≠ []

namespace Table

/-- Why a declaration makes no table. -/
inductive Error where
  /-- A group of this category names nothing. -/
  | emptyGroup (category : Category)
  /-- A name has been declared before: the category it had and the one it was now given. -/
  | duplicateName (name : String) (first second : Category)
deriving DecidableEq, Repr

/-- The text of an error. -/
def Error.message : Error → String
  | .emptyGroup c => "empty node group declared for '" ++ c.tag ++ "'"
  | .duplicateName name first second =>
    "node type '" ++ name ++ "' is declared for both '" ++ first.tag ++ "' and '" ++ second.tag ++
      "'"

/-- All names of a table, in the order of their declaration. -/
def names (t : Table) : List String := t.groups.flatMap Group.names

/-- The category of a node kind, if the table names it. -/
def category? (t : Table) (name : String) : Option Category :=
  (t.groups.find? (·.names.contains name)).map Group.category

/-- The number of names in the table. -/
def size (t : Table) : Nat := t.names.length

/-- Whether the table names nothing. -/
def isEmpty (t : Table) : Bool := t.names.isEmpty

/-- The table that names nothing. -/
def empty : Table := ⟨[], by simp, by simp⟩

/-- A table has no category for exactly the names that it does not list. -/
theorem category?_eq_none_iff {t : Table} {name : String} :
    t.category? name = none ↔ name ∉ t.names := by
  simp [category?, names, List.find?_eq_none]

/-- A table gives a name the category of the group that has it. -/
theorem category?_eq_some_iff {t : Table} {name : String} {c : Category} :
    t.category? name = some c ↔ ∃ g ∈ t.groups, name ∈ g.names ∧ g.category = c := by
  rw [category?, Option.map_eq_some_iff]
  constructor
  · rintro ⟨g, hfind, hc⟩
    exact ⟨g, List.mem_of_find?_eq_some hfind, by simpa using List.find?_some hfind, hc⟩
  · rintro ⟨g, hg, hname, hc⟩
    refine ⟨g, ?_, hc⟩
    obtain ⟨before, later, hgroups⟩ := List.append_of_mem hg
    have hnodup := t.names_nodup
    rw [hgroups, List.flatMap_append, List.flatMap_cons] at hnodup
    rw [List.find?_eq_some_iff_append]
    refine ⟨by simpa using hname, before, later, hgroups, fun g' hg' => ?_⟩
    -- a name of two groups would be listed twice
    have hne : name ∉ g'.names := fun hname' =>
      (List.nodup_append.1 hnodup).2.2 name (List.mem_flatMap.2 ⟨g', hg', hname'⟩) name
        (List.mem_append_left _ hname) rfl
    simpa using hne

/-! ## Building a table -/

/-- The first of the given names that the table or the names seen before it already have, as the
error of declaring it again with category `c`. -/
def firstRepeat? (t : Table) (c : Category) (seen : List String) : List String → Option Error
  | [] => none
  | name :: rest =>
    match t.category? name with
    | some first => some (.duplicateName name first c)
    | none =>
      if seen.contains name then some (.duplicateName name c c)
      else firstRepeat? t c (name :: seen) rest

/-- Without a first repeat the names are distinct and new. -/
theorem nodup_of_firstRepeat?_eq_none {t : Table} {c : Category} {seen ns : List String}
    (h : t.firstRepeat? c seen ns = none) :
    ns.Nodup ∧ ∀ n ∈ ns, n ∉ seen ∧ n ∉ t.names := by
  induction ns generalizing seen with
  | nil => simp
  | cons n ns ih =>
    unfold firstRepeat? at h
    split at h
    · exact absurd h (by simp)
    · rename_i hn
      split at h
      · exact absurd h (by simp)
      · rename_i hs
        obtain ⟨hd, hm⟩ := ih h
        refine ⟨List.nodup_cons.2 ⟨fun hmem => (hm n hmem).1 (by simp), hd⟩, ?_⟩
        intro m hmem
        rcases List.mem_cons.1 hmem with rfl | hmem
        · exact ⟨by simpa using hs, category?_eq_none_iff.1 hn⟩
        · exact ⟨fun hseen => (hm m hmem).1 (by simp [hseen]), (hm m hmem).2⟩

/-- The table with one more group at its end. -/
def addGroup (t : Table) (d : Declaration) : Except Error Table :=
  let ns := d.listed
  if hne : ns = [] then .error (.emptyGroup d.category)
  else match h : t.firstRepeat? d.category [] ns with
    | some e => .error e
    | none => .ok
      { groups := t.groups ++ [⟨ns, d.category⟩]
        names_nodup := by
          have ⟨hd, hm⟩ := nodup_of_firstRepeat?_eq_none h
          simp only [List.flatMap_append, List.flatMap_cons, List.flatMap_nil, List.append_nil]
          refine List.nodup_append.2 ⟨t.names_nodup, hd, ?_⟩
          rintro a ha b hb rfl
          exact (hm a hb).2 ha
        names_ne_nil := by
          intro g hg
          rcases List.mem_append.1 hg with hg | hg
          · exact t.names_ne_nil g hg
          · rw [List.mem_singleton.1 hg]
            exact hne }

/-- The table of a declaration, or the first fault in it. -/
def ofDeclarations (ds : List Declaration) : Except Error Table := ds.foldlM addGroup empty

/-- The declaration that lists the groups of a table, with one blank between two names. -/
def toDeclarations (t : Table) : List Declaration :=
  t.groups.map fun g => ⟨" ".intercalate g.names, g.category⟩

end Table

end PromqlEditor
