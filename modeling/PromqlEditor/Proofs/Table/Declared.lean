import PromqlEditor.Proofs.Text.Words
import PromqlEditor.Table.Basic

/-!
# Tables hold what was declared

A declaration lists the names of which its text consists (`Declaration.Lists`), and these are found
by splitting the text (`Declaration.lists_iff`). A table is built group by group, and a group is
turned down if it names nothing or if one of its names is known. So building comes to an end just if
no group is empty and no name is declared twice (`Table.exists_foldlM_addGroup_iff`), and then the
groups of the table are the declared ones (`Table.groups_of_foldlM_addGroup`). From these two
everything else is read off: what the table calls a name, for every name there is, and how many it
has (`Table.table_as_declared`).
-/

namespace PromqlEditor

/-- The group that is declared. -/
def Declaration.group (d : Declaration) : Group := ⟨d.listed, d.category⟩

/-- Whether a declaration lists names, in the given order: its text consists of them, with white
space between any two. -/
def Declaration.Lists (d : Declaration) (names : List String) : Prop :=
  Text.Lists d.names.toList (names.map String.toList)

/-- The names that a declaration lists are found by splitting its text. -/
theorem Declaration.lists_iff {d : Declaration} {names : List String} :
    d.Lists names ↔ names = d.listed := by
  rw [Lists, Text.lists_iff, listed]
  constructor
  · intro hwords
    rw [← hwords, List.map_map]
    simp [Function.comp_def]
  · rintro rfl
    rw [List.map_map]
    simp [Function.comp_def]

/-- A name is declared if it stands in the text, with white space or nothing on either side. -/
theorem Declaration.mem_listed_iff {d : Declaration} {n : String} :
    n ∈ d.listed ↔ Text.HasWord d.names.toList n.toList := by
  rw [listed, List.mem_map, ← Text.mem_words_iff]
  constructor
  · rintro ⟨w, hw, rfl⟩
    rwa [String.toList_ofList]
  · intro hn
    exact ⟨n.toList, hn, String.ofList_toList⟩

namespace Table

/-- A table is known by its groups. -/
theorem ext_groups {t t' : Table} (h : t.groups = t'.groups) : t = t' := by
  cases t
  cases t'
  cases h
  rfl

/-! ## One group -/

section Step

variable {t t' : Table} {c : Category} {seen ns : List String} {d : Declaration}

/-- Nothing is repeated if the names are distinct and neither the table nor what was seen has one of
them. -/
theorem firstRepeat?_eq_none_iff :
    t.firstRepeat? c seen ns = none ↔ ns.Nodup ∧ ∀ n ∈ ns, n ∉ seen ∧ n ∉ t.names := by
  refine ⟨nodup_of_firstRepeat?_eq_none, ?_⟩
  rintro ⟨hnodup, hnew⟩
  induction ns generalizing seen with
  | nil => rfl
  | cons n ns ih =>
    obtain ⟨hn, hnodup⟩ := List.nodup_cons.1 hnodup
    obtain ⟨hseen, hnames⟩ := hnew n List.mem_cons_self
    have hrest : ∀ m ∈ ns, m ∉ n :: seen ∧ m ∉ t.names := by
      intro m hm
      obtain ⟨hmseen, hmnames⟩ := hnew m (List.mem_cons_of_mem n hm)
      refine ⟨fun hmem => ?_, hmnames⟩
      rcases List.mem_cons.1 hmem with rfl | hmem
      · exact hn hm
      · exact hmseen hmem
    simp [firstRepeat?, category?_eq_none_iff.2 hnames, hseen, ih hnodup hrest]

/-- The names of a group are distinct and new to the table if all names together are distinct. -/
theorem firstRepeat?_listed_eq_none_iff :
    t.firstRepeat? c [] ns = none ↔ (t.names ++ ns).Nodup := by
  have hnames : t.names.Nodup := t.names_nodup
  rw [firstRepeat?_eq_none_iff, List.nodup_append]
  constructor
  · rintro ⟨hnodup, hnew⟩
    refine ⟨hnames, hnodup, ?_⟩
    rintro n hn m hm rfl
    exact (hnew n hm).2 hn
  · rintro ⟨-, hnodup, hdisjoint⟩
    exact ⟨hnodup, fun n hn => ⟨List.not_mem_nil, fun hmem => hdisjoint n hmem n hn rfl⟩⟩

/-- A group is added if it names something, and nothing that has been named. -/
theorem exists_addGroup_iff :
    (∃ t', t.addGroup d = .ok t') ↔ d.listed ≠ [] ∧ (t.names ++ d.listed).Nodup := by
  rw [← firstRepeat?_listed_eq_none_iff (c := d.category)]
  simp only [addGroup]
  by_cases hne : d.listed = []
  · simp [hne]
  · rw [dif_neg hne]
    split
    · simp [*]
    · simp [*]

/-- A group that is added is the last one of the new table. -/
theorem groups_of_addGroup (h : t.addGroup d = .ok t') : t'.groups = t.groups ++ [d.group] := by
  simp only [addGroup] at h
  by_cases hne : d.listed = []
  · rw [dif_pos hne] at h
    cases h
  · rw [dif_neg hne] at h
    split at h
    · cases h
    · cases h
      rfl

theorem names_of_addGroup (h : t.addGroup d = .ok t') : t'.names = t.names ++ d.listed := by
  rw [names, groups_of_addGroup h, List.flatMap_append, names]
  simp [Declaration.group]

end Step

/-! ## Many groups -/

section Run

variable {t t' : Table} {ds : List Declaration}

/-- Groups are added one after the other if none of them is empty and all names, those of the table
included, are distinct. -/
theorem exists_foldlM_addGroup_iff :
    (∃ t', ds.foldlM addGroup t = .ok t') ↔
      (∀ d ∈ ds, d.listed ≠ []) ∧ (t.names ++ ds.flatMap Declaration.listed).Nodup := by
  induction ds generalizing t with
  | nil =>
    refine iff_of_true ⟨t, rfl⟩ ⟨by simp, ?_⟩
    rw [List.flatMap_nil, List.append_nil]
    exact t.names_nodup
  | cons d ds ih =>
    rw [List.foldlM_cons, List.forall_mem_cons, List.flatMap_cons, ← List.append_assoc]
    cases hadd : t.addGroup d with
    | error e =>
      refine iff_of_false (by rintro ⟨t', ⟨⟩⟩) ?_
      rintro ⟨⟨hne, -⟩, hnodup⟩
      obtain ⟨t₁, hok⟩ := exists_addGroup_iff.2 ⟨hne, (List.nodup_append.1 hnodup).1⟩
      cases hadd.symm.trans hok
    | ok t₁ =>
      have hne : d.listed ≠ [] := (exists_addGroup_iff.1 ⟨t₁, hadd⟩).1
      rw [← names_of_addGroup hadd, and_iff_right hne]
      exact ih

/-- The groups that are added stand behind those of the table, in order. -/
theorem groups_of_foldlM_addGroup (h : ds.foldlM addGroup t = .ok t') :
    t'.groups = t.groups ++ ds.map Declaration.group := by
  induction ds generalizing t with
  | nil =>
    cases h
    rw [List.map_nil, List.append_nil]
  | cons d ds ih =>
    rw [List.foldlM_cons] at h
    cases hadd : t.addGroup d with
    | error e =>
      rw [hadd] at h
      cases h
    | ok t₁ =>
      rw [hadd] at h
      rw [ih h, groups_of_addGroup hadd, List.append_assoc, List.map_cons, List.singleton_append]

end Run

/-! ## Whole declarations -/

section Declarations

variable {t : Table} {ds : List Declaration}

theorem exists_ofDeclarations_iff :
    (∃ t, ofDeclarations ds = .ok t) ↔
      (∀ d ∈ ds, d.listed ≠ []) ∧ (ds.flatMap Declaration.listed).Nodup :=
  exists_foldlM_addGroup_iff

theorem groups_ofDeclarations (h : ofDeclarations ds = .ok t) :
    t.groups = ds.map Declaration.group := groups_of_foldlM_addGroup h

theorem names_ofDeclarations (h : ofDeclarations ds = .ok t) :
    t.names = ds.flatMap Declaration.listed := by
  rw [names, groups_ofDeclarations h, List.flatMap_map]
  rfl

/-- The categories of a table are those of the groups that list the names. -/
theorem category?_ofDeclarations (h : ofDeclarations ds = .ok t) {n : String} {c : Category} :
    t.category? n = some c ↔ ∃ d ∈ ds, d.category = c ∧ n ∈ d.listed := by
  rw [category?_eq_some_iff, groups_ofDeclarations h]
  constructor
  · rintro ⟨g, hg, hn, hc⟩
    obtain ⟨d, hd, rfl⟩ := List.mem_map.1 hg
    exact ⟨d, hd, hc, hn⟩
  · rintro ⟨d, hd, hc, hn⟩
    exact ⟨d.group, List.mem_map_of_mem hd, hn, hc⟩

/-- Whether a table is what declarations declare. -/
structure IsDeclaredBy (t : Table) (ds : List Declaration) : Prop where
  /-- A name has a category if it stands in the text of a group of this category. -/
  category_iff : ∀ n c, t.category? n = some c ↔
    ∃ d ∈ ds, d.category = c ∧ Text.HasWord d.names.toList n.toList
  /-- It has none if it stands nowhere. -/
  no_category_iff : ∀ n, t.category? n = none ↔
    ∀ d ∈ ds, ¬ Text.HasWord d.names.toList n.toList
  size_eq : t.size = (ds.flatMap Declaration.listed).length
  isEmpty_iff : t.isEmpty = true ↔ ds = []
  groups_eq : t.groups = ds.map fun d => ⟨d.listed, d.category⟩

theorem isDeclaredBy_ofDeclarations (h : ofDeclarations ds = .ok t) : t.IsDeclaredBy ds where
  category_iff n c := by
    simp only [category?_ofDeclarations h, Declaration.mem_listed_iff]
  no_category_iff n := by
    simp only [category?_eq_none_iff, names_ofDeclarations h, List.mem_flatMap, not_exists, not_and,
      Declaration.mem_listed_iff]
  size_eq := by rw [size, names_ofDeclarations h]
  isEmpty_iff := by
    have hne : ∀ d ∈ ds, d.listed ≠ [] := (exists_ofDeclarations_iff.1 ⟨t, h⟩).1
    rw [isEmpty, names_ofDeclarations h, List.isEmpty_iff, List.flatMap_eq_nil_iff]
    constructor
    · intro hnil
      exact List.eq_nil_iff_forall_not_mem.2 fun d hd => hne d hd (hnil d hd)
    · rintro rfl
      simp
  groups_eq := groups_ofDeclarations h

/-! ## The main result -/

/-- Declarations make a table just if each of them lists a name and no name is listed twice, be it
in one group or in two. The table then has the declared groups in order, and it gives a category to
the names that stand in them and to no others. What a declaration lists are the names of which its
text consists, with white space between them. -/
theorem table_as_declared (ds : List Declaration) :
    (∀ d ∈ ds, ∀ names, d.Lists names ↔ names = d.listed) ∧
    ((∃ t, ofDeclarations ds = .ok t) ↔
      (∀ d ∈ ds, d.listed ≠ []) ∧ (ds.flatMap Declaration.listed).Nodup) ∧
    ∀ t, ofDeclarations ds = .ok t → t.IsDeclaredBy ds :=
  ⟨fun _ _ _ => Declaration.lists_iff, exists_ofDeclarations_iff,
    fun _ => isDeclaredBy_ofDeclarations⟩

/-- Names may be separated by any white space. A name is not declared twice, not even with the same
category. -/
theorem spaced_names_as_declared :
    (∃ t, ofDeclarations [⟨"a\u00A0 b", .number⟩, ⟨"c\u2003d ", .number⟩] = .ok t ∧
      t.IsDeclaredBy [⟨"a\u00A0 b", .number⟩, ⟨"c\u2003d ", .number⟩]) ∧
    ¬ ∃ t, ofDeclarations [⟨"a\u00A0 b", .number⟩, ⟨"c\u2003b ", .number⟩] = .ok t := by
  refine ⟨⟨_, rfl, (table_as_declared _).2.2 _ rfl⟩, fun hok => ?_⟩
  have hnodup := ((table_as_declared _).2.1.1 hok).2
  revert hnodup
  decide

end Declarations

end Table

end PromqlEditor
