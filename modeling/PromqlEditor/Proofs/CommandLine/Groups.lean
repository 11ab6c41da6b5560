import Mathlib.Data.List.Basic
import PromqlEditor.CommandLine.Report
import PromqlEditor.Proofs.Table.Rebuilding

/-!
# The lines on groups determine the table

The program prints the groups of a table line by line: the tag of the category, a tabulator, and the
names with a blank between two of them. Names are words, so none of them holds a character that
separates, and what was printed falls apart where it was put together: a line at its tabulator and
at its blanks (`groupLine_inj`), the text at its line feeds (`output_inj`).

So nothing of a table is lost, however its declarations were spaced. Its groups declare it again,
and what is printed of them is printed of no other table (`table_rebuilt_from_its_groups`).
-/

namespace PromqlEditor

/-! ## What holds white space -/

/-- White space does not stand in a word. -/
theorem Text.IsWord.not_mem {w : Text} (hw : IsWord w) {b : Char} (hb : isBlank b = true) :
    b ∉ w := by
  intro hmem
  rw [hw.2 b hmem] at hb
  exact Bool.false_ne_true hb

/-- The only white space in words with blanks between them is those blanks. -/
theorem Text.not_mem_intercalate {ws : List Text} (h : ∀ w ∈ ws, IsWord w) {b : Char}
    (hb : isBlank b = true) (hne : b ≠ ' ') : b ∉ [' '].intercalate ws := by
  induction ws with
  | nil => simp
  | cons w ws ih =>
    have hw : b ∉ w := (h w List.mem_cons_self).not_mem hb
    have hws : b ∉ [' '].intercalate ws := ih fun v hv => h v (List.mem_cons_of_mem w hv)
    cases ws with
    | nil => simpa using hw
    | cons v ws =>
      rw [List.intercalate_cons_cons]
      simp [hw, hws, hne]

theorem Category.isWord_tag (c : Category) : Text.IsWord c.tag.toList := by
  cases c <;> decide

/-- A category is known by its tag. -/
theorem Category.tag_inj {c c' : Category} : c.tag = c'.tag ↔ c = c' := by
  refine ⟨fun h => ?_, congrArg tag⟩
  have hfound : ofTag? c.tag = ofTag? c'.tag := congrArg ofTag? h
  rw [ofTag?_tag, ofTag?_tag] at hfound
  exact Option.some.inj hfound

/-- Whether the names of a group are words. -/
def Group.HasWords (g : Group) : Prop := ∀ n ∈ g.names, Text.IsWord n.toList

/-- The names of the groups that are declared are words. -/
theorem Table.hasWords_of_mem_groups {ds : List Declaration} {t : Table}
    (h : ofDeclarations ds = .ok t) : ∀ g ∈ t.groups, g.HasWords := by
  intro g hg n hn
  rw [groups_ofDeclarations h] at hg
  obtain ⟨d, -, rfl⟩ := List.mem_map.1 hg
  exact (Declaration.mem_listed_iff.1 hn).1

namespace CommandLine

/-! ## One line -/

section Line

variable {g g' : Group}

theorem toList_groupLine (g : Group) : (groupLine g).toList =
    g.category.tag.toList ++ '\t' :: (" ".intercalate g.names).toList := by
  have htab : "\t".toList = ['\t'] := rfl
  unfold groupLine
  simp [htab]

theorem not_mem_joinedNames (hg : g.HasWords) {b : Char} (hb : Text.isBlank b = true)
    (hne : b ≠ ' ') : b ∉ (" ".intercalate g.names).toList := by
  rw [String.toList_intercalate]
  refine Text.not_mem_intercalate ?_ hb hne
  intro w hw
  obtain ⟨n, hn, rfl⟩ := List.mem_map.1 hw
  exact hg n hn

theorem lineFeed_not_mem_groupLine (hg : g.HasWords) : '\n' ∉ (groupLine g).toList := by
  have htag : '\n' ∉ g.category.tag.toList := g.category.isWord_tag.not_mem (by decide)
  have hnames : '\n' ∉ (" ".intercalate g.names).toList :=
    not_mem_joinedNames hg (by decide) (by decide)
  rw [toList_groupLine, List.mem_append, List.mem_cons, not_or, not_or]
  exact ⟨htag, by decide, hnames⟩

/-- A group whose names are words is known by its line. -/
theorem groupLine_inj (hg : g.HasWords) (hg' : g'.HasWords) (h : groupLine g = groupLine g') :
    g = g' := by
  -- there is one tabulator in a line, so this is where both lines fall apart
  have htag : '\t' ∉ g.category.tag.toList := g.category.isWord_tag.not_mem (by decide)
  have hnames : '\t' ∉ (" ".intercalate g.names).toList :=
    not_mem_joinedNames hg (by decide) (by decide)
  have hparts := congrArg String.toList h
  rw [toList_groupLine, toList_groupLine, List.append_cons_inj_of_notMem htag hnames] at hparts
  have hcategory : g.category = g'.category := Category.tag_inj.1 (String.toList_inj.1 hparts.1)
  have hjoined : " ".intercalate g.names = " ".intercalate g'.names :=
    String.toList_inj.1 hparts.2.2
  have hread : g.names = g'.names := by
    calc g.names = Declaration.listed ⟨" ".intercalate g.names, g.category⟩ :=
          (Declaration.listed_intercalate hg g.category).symm
      _ = Declaration.listed ⟨" ".intercalate g'.names, g.category⟩ := by rw [hjoined]
      _ = g'.names := Declaration.listed_intercalate hg' g.category
  cases g
  cases g'
  cases hcategory
  cases hread
  rfl

end Line

/-! ## All lines -/

/-- Groups whose names are words are known by their lines. -/
theorem map_groupLine_inj {gs gs' : List Group} (hgs : ∀ g ∈ gs, g.HasWords)
    (hgs' : ∀ g ∈ gs', g.HasWords) (h : gs.map groupLine = gs'.map groupLine) : gs = gs' := by
  induction gs generalizing gs' with
  | nil => exact (List.map_eq_nil_iff.1 h.symm).symm
  | cons g gs ih =>
    cases gs' with
    | nil => simp at h
    | cons g' gs' =>
      rw [List.forall_mem_cons] at hgs hgs'
      obtain ⟨hline, hlines⟩ := List.cons.inj h
      rw [groupLine_inj hgs.1 hgs'.1 hline, ih hgs.2 hgs'.2 hlines]

theorem toList_output (lines : List String) :
    (Report.output { lines }).toList = ['\n'].intercalate (lines.map String.toList ++ [[]]) := by
  have hfeed : "\n".toList = ['\n'] := rfl
  unfold Report.output
  rw [String.toList_join]
  induction lines with
  | nil => simp
  | cons line lines ih =>
    have hrest : lines.map String.toList ++ [[]] ≠ [] := by simp
    obtain ⟨next, rest, hnext⟩ := List.exists_cons_of_ne_nil hrest
    simp only [List.map_cons, List.flatMap_cons, List.cons_append]
    rw [ih, hnext, List.intercalate_cons_cons]
    simp [hfeed]

/-- Lines without line feeds are read back from the text that is printed of them. -/
theorem splitOn_output {lines : List String} (h : ∀ l ∈ lines, '\n' ∉ l.toList) :
    (Report.output { lines }).toList.splitOn '\n' = lines.map String.toList ++ [[]] := by
  rw [toList_output, List.splitOn_intercalate]
  · intro w hw
    rcases List.mem_append.1 hw with hw | hw
    · obtain ⟨l, hl, rfl⟩ := List.mem_map.1 hw
      exact h l hl
    · rw [List.mem_singleton.1 hw]
      exact List.not_mem_nil
  · simp

theorem output_inj {lines lines' : List String} (h : ∀ l ∈ lines, '\n' ∉ l.toList)
    (h' : ∀ l ∈ lines', '\n' ∉ l.toList)
    (heq : Report.output { lines } = Report.output { lines := lines' }) : lines = lines' := by
  have hparts := splitOn_output h
  rw [heq, splitOn_output h', List.append_cancel_right_eq] at hparts
  exact (List.map_injective_iff.2 (fun _ _ => String.toList_inj.1) hparts).symm

theorem output_groupLine_inj {gs gs' : List Group} (hgs : ∀ g ∈ gs, g.HasWords)
    (hgs' : ∀ g ∈ gs', g.HasWords)
    (h : Report.output { lines := gs.map groupLine } =
      Report.output { lines := gs'.map groupLine }) : gs = gs' := by
  have hfeed (gs : List Group) (hgs : ∀ g ∈ gs, g.HasWords) :
      ∀ l ∈ gs.map groupLine, '\n' ∉ l.toList := by
    intro l hl
    obtain ⟨g, hg, rfl⟩ := List.mem_map.1 hl
    exact lineFeed_not_mem_groupLine (hgs g hg)
  exact map_groupLine_inj hgs hgs' (output_inj (hfeed gs hgs) (hfeed gs' hgs') h)

/-! ## The main result -/

/-- Let declarations make a table, with any white space between their names. Its groups, each
declared as its names with one blank between two of them, make a table again that has the same
groups and names and says the same of every name. What is printed of the groups is printed of no
other table. -/
theorem table_rebuilt_from_its_groups {ds : List Declaration} {t : Table}
    (h : Table.ofDeclarations ds = .ok t) :
    (∃ t', Table.ofDeclarations t.toDeclarations = .ok t' ∧ t'.groups = t.groups ∧
        t'.size = t.size ∧ ∀ n, t'.category? n = t.category? n) ∧
      ∀ ds' t', Table.ofDeclarations ds' = .ok t' →
        Report.output { lines := t'.groups.map groupLine } =
          Report.output { lines := t.groups.map groupLine } → t' = t := by
  have hwords := Table.hasWords_of_mem_groups h
  constructor
  · have hrebuilt : Table.ofDeclarations t.toDeclarations = .ok t := by
      refine Table.ofDeclarations_toDeclarations ?_
      intro n hn
      obtain ⟨g, hg, hn⟩ := List.mem_flatMap.1 hn
      exact hwords g hg n hn
    exact ⟨t, hrebuilt, rfl, rfl, fun n => rfl⟩
  · intro ds' t' h' hprinted
    exact Table.ext_groups (output_groupLine_inj (Table.hasWords_of_mem_groups h') hwords hprinted)

/-- Two groups with white space of several kinds around and between their names. -/
theorem widely_spaced_table_rebuilt :
    ∃ t, Table.ofDeclarations [⟨"\u2003a\u00A0 b\t", .number⟩, ⟨"c\n", .paren⟩] = .ok t ∧
      t.toDeclarations = [⟨"a b", .number⟩, ⟨"c", .paren⟩] ∧
      (∃ t', Table.ofDeclarations [⟨"a b", .number⟩, ⟨"c", .paren⟩] = .ok t' ∧
        t'.groups = t.groups ∧ t'.size = t.size ∧ ∀ n, t'.category? n = t.category? n) ∧
      ∀ ds' t', Table.ofDeclarations ds' = .ok t' →
        Report.output { lines := t'.groups.map groupLine } = "number\ta b\nparen\tc\n" → t' = t := by
  have hmade : Table.ofDeclarations [⟨"\u2003a\u00A0 b\t", .number⟩, ⟨"c\n", .paren⟩] =
      .ok ⟨[⟨["a", "b"], .number⟩, ⟨["c"], .paren⟩], by decide, by decide⟩ := rfl
  exact ⟨_, hmade, rfl, table_rebuilt_from_its_groups hmade⟩

end CommandLine

end PromqlEditor
