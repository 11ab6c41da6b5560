import PromqlEditor.Proofs.Table.Declared

/-!
# Tables from their own declarations

The groups of a table can be written as a declaration again, each group as its names with one blank
between two of them. The names are read back from that (`Declaration.listed_intercalate`), and as
they are distinct and no group is empty, the declaration declares the table that it was written
from (`Table.ofDeclarations_toDeclarations`). The names have to be words, as all declared ones are.
-/

namespace PromqlEditor

/-- A declaration that lists words with blanks between them lists these words. -/
theorem Declaration.listed_intercalate {names : List String}
    (h : ∀ n ∈ names, Text.IsWord n.toList) (c : Category) :
    listed ⟨" ".intercalate names, c⟩ = names := by
  have hwords : ∀ w ∈ names.map String.toList, Text.IsWord w := by
    intro w hw
    obtain ⟨n, hn, rfl⟩ := List.mem_map.1 hw
    exact h n hn
  have hblank : " ".toList = [' '] := rfl
  rw [listed, String.toList_intercalate, hblank, Text.words_intercalate hwords, List.map_map]
  simp [Function.comp_def]

namespace Table

variable {t : Table}

/-- Each group of a table is declared as what it is. -/
theorem map_group_toDeclarations (h : ∀ n ∈ t.names, Text.IsWord n.toList) :
    t.toDeclarations.map Declaration.group = t.groups := by
  have hgroup : ∀ g ∈ t.groups, Declaration.group ⟨" ".intercalate g.names, g.category⟩ = g := by
    intro g hg
    have hlisted : Declaration.listed ⟨" ".intercalate g.names, g.category⟩ = g.names :=
      Declaration.listed_intercalate (fun n hn => h n (List.mem_flatMap.2 ⟨g, hg, hn⟩)) g.category
    exact congrArg (Group.mk · g.category) hlisted
  rw [toDeclarations, List.map_map]
  calc t.groups.map _ = t.groups.map id := List.map_congr_left hgroup
    _ = t.groups := List.map_id _

/-- A table whose names are words is what its own declaration declares. -/
theorem ofDeclarations_toDeclarations (h : ∀ n ∈ t.names, Text.IsWord n.toList) :
    ofDeclarations t.toDeclarations = .ok t := by
  have hgroups := map_group_toDeclarations h
  have hne : ∀ d ∈ t.toDeclarations, d.listed ≠ [] := by
    intro d hd
    have hmem : d.group ∈ t.groups := hgroups ▸ List.mem_map_of_mem hd
    exact t.names_ne_nil d.group hmem
  have hnodup : (t.toDeclarations.flatMap Declaration.listed).Nodup := by
    have hnames : t.toDeclarations.flatMap Declaration.listed = t.names := by
      rw [names, ← hgroups, List.flatMap_map]
      rfl
    rw [hnames]
    exact t.names_nodup
  obtain ⟨t', ht'⟩ := exists_ofDeclarations_iff.2 ⟨hne, hnodup⟩
  rw [ht', ext_groups ((groups_ofDeclarations ht').trans hgroups)]

end Table

end PromqlEditor
