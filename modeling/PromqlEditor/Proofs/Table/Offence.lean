import PromqlEditor.Proofs.Table.Declared

/-!
# The first offence in a declaration

Declarations are read group by group: first comes what a group lists as a whole, then each of its
names (`Table.Meets`). An offence is a group that lists nothing, or the second occurrence of a name
(`Table.Offence`), and the error of a declaration is that of the first offence in it, whatever comes
later (`Table.first_offence_reported`).

There are two halves. Building a table stops in a group at the first name that is known
(`exists_of_addGroup_eq_error`), and in the first group that is at fault
(`exists_of_foldlM_addGroup_eq_error`); the groups before it make a table, so there is no offence in
what has been read (`blameless_readUpTo`). And there is only one first offence
(`IsFirstOffence.unique`).
-/

namespace PromqlEditor

namespace Table

/-! ## Reading -/

/-- What a reader of declarations meets: a group as a whole, and each name in it. -/
inductive Entry where
  | group (names : List String) (category : Category)
  | name (n : String) (category : Category)

/-- The name that an entry declares, if it is a name. -/
def Entry.declared? : Entry → Option String
  | .group .. => none
  | .name n _ => some n

/-- What is met in one group. -/
def entries (d : Declaration) : List Entry :=
  .group d.listed d.category :: d.listed.map (.name · d.category)

/-- What is met in declarations, in order. -/
def reading (ds : List Declaration) : List Entry := ds.flatMap entries

/-- Whether entries are met in declarations, in the given order: for each declaration the group that
it lists, and then the names of that. -/
inductive Meets : List Declaration → List Entry → Prop
  | nil : Meets [] []
  | cons {d : Declaration} {names : List String} {ds : List Declaration} {l : List Entry}
      (hnames : d.Lists names) (hds : Meets ds l) :
      Meets (d :: ds) (.group names d.category :: names.map (.name · d.category) ++ l)

theorem meets_iff {ds : List Declaration} {l : List Entry} : Meets ds l ↔ l = reading ds := by
  constructor
  · intro h
    induction h with
    | nil => rfl
    | cons hnames _ ih =>
      rw [Declaration.lists_iff] at hnames
      rw [hnames, ih]
      rfl
  · rintro rfl
    induction ds with
    | nil => exact .nil
    | cons d ds ih => exact .cons (Declaration.lists_iff.2 rfl) ih

/-- Whether an entry is an offence when others have been read before it, and the error that says
so. A name is one if it has been declared just once before. -/
inductive Offence (read : List Entry) : Entry → Error → Prop
  | emptyGroup (c : Category) : Offence read (.group [] c) (.emptyGroup c)
  | duplicateName {n : String} {first : Category} (second : Category)
      (honce : read.filter (·.declared? == some n) = [.name n first]) :
      Offence read (.name n second) (.duplicateName n first second)

/-- Whether nothing that is read is an offence. -/
def Blameless (l : List Entry) : Prop :=
  ∀ read x rest e, l = read ++ x :: rest → ¬ Offence read x e

/-- Whether an error is that of the first offence. -/
def IsFirstOffence (l : List Entry) (e : Error) : Prop :=
  ∃ read x rest, l = read ++ x :: rest ∧ Blameless read ∧ Offence read x e

/-! ## What is declared -/

/-- The names that have been declared, in order. -/
def declared (l : List Entry) : List String := l.filterMap Entry.declared?

section Declared

variable {l k : List Entry} {n : String} {c : Category}

@[simp] theorem declared_append : declared (l ++ k) = declared l ++ declared k :=
  List.filterMap_append

@[simp] theorem declared_group {names : List String} :
    declared (.group names c :: l) = declared l := rfl

@[simp] theorem declared_name : declared (.name n c :: l) = n :: declared l := rfl

@[simp] theorem declared_map_name {ns : List String} : declared (ns.map (.name · c)) = ns := by
  induction ns with
  | nil => rfl
  | cons n ns ih => rw [List.map_cons, declared_name, ih]

theorem declared_reading (ds : List Declaration) :
    declared (reading ds) = ds.flatMap Declaration.listed := by
  induction ds with
  | nil => rfl
  | cons d ds ih =>
    rw [reading, List.flatMap_cons, declared_append, ← reading, ih, entries, declared_group,
      declared_map_name, List.flatMap_cons]

theorem mem_declared (h : .name n c ∈ l) : n ∈ declared l := List.mem_filterMap.2 ⟨_, h, rfl⟩

theorem filter_declared_eq_nil (h : n ∉ declared l) : l.filter (·.declared? == some n) = [] := by
  refine List.filter_eq_nil_iff.2 fun x hx heq => h ?_
  exact List.mem_filterMap.2 ⟨x, hx, eq_of_beq heq⟩

/-- Where names are distinct, a name that has been declared was declared once. -/
theorem filter_declared_eq_singleton (hnodup : (declared l).Nodup) (h : .name n c ∈ l) :
    l.filter (·.declared? == some n) = [.name n c] := by
  obtain ⟨before, after, rfl⟩ := List.append_of_mem h
  rw [declared_append, declared_name, List.nodup_append, List.nodup_cons] at hnodup
  obtain ⟨-, ⟨hafter, -⟩, hdisjoint⟩ := hnodup
  have hbefore : n ∉ declared before := fun hn => hdisjoint n hn n List.mem_cons_self rfl
  rw [List.filter_append, filter_declared_eq_nil hbefore,
    List.filter_cons_of_pos (by simp [Entry.declared?]), filter_declared_eq_nil hafter,
    List.nil_append]

/-- There is no offence if no group is empty and no name is declared twice. -/
theorem blameless_of_nodup (hgroups : ∀ c, .group [] c ∉ l) (hnodup : (declared l).Nodup) :
    Blameless l := by
  rintro read x rest e rfl hoffence
  cases hoffence with
  | emptyGroup c => exact hgroups c (by simp)
  | @duplicateName n first second honce =>
    have hfirst : .name n first ∈ read := (List.mem_filter.1 (honce ▸ List.mem_singleton_self _)).1
    rw [declared_append, declared_name, List.nodup_append] at hnodup
    exact hnodup.2.2 n (mem_declared hfirst) n List.mem_cons_self rfl

end Declared

/-! ## There is only one first offence -/

section Unique

variable {l read read' rest rest' : List Entry} {x x' : Entry} {e e' : Error}

/-- An offence is reported in one way. -/
theorem Offence.unique (h : Offence read x e) (h' : Offence read x e') : e = e' := by
  cases h with
  | emptyGroup c => cases h'; rfl
  | duplicateName second honce =>
    cases h' with
    | duplicateName _ honce' => cases honce.symm.trans honce'; rfl

/-- What is read without offence does not reach beyond an offence. -/
theorem Blameless.length_le (hblameless : Blameless read') (hoffence : Offence read x e)
    (h : read ++ x :: rest = read' ++ rest') : read'.length ≤ read.length := by
  rcases List.append_eq_append_iff.1 h with ⟨between, hread', hx⟩ | ⟨between, hread, -⟩
  · cases between with
    | nil => simp [hread']
    | cons y between =>
      obtain ⟨rfl, -⟩ := List.cons_eq_cons.1 hx
      exact absurd hoffence (hblameless read x between e hread')
  · simp [hread]

theorem IsFirstOffence.unique (h : IsFirstOffence l e) (h' : IsFirstOffence l e') : e = e' := by
  obtain ⟨read, x, rest, rfl, hblameless, hoffence⟩ := h
  obtain ⟨read', x', rest', heq, hblameless', hoffence'⟩ := h'
  have hlength : read.length = read'.length :=
    Nat.le_antisymm (hblameless.length_le hoffence' heq.symm) (hblameless'.length_le hoffence heq)
  obtain ⟨rfl, hx⟩ := List.append_inj heq hlength
  obtain ⟨rfl, -⟩ := List.cons_eq_cons.1 hx
  exact hoffence.unique hoffence'

end Unique

/-! ## Where building stops -/

section Stop

variable {t : Table} {ds : List Declaration} {d : Declaration} {e : Error}

/-- The first repeated name of a group has been declared before, in the table or in the group. -/
theorem exists_of_firstRepeat?_eq_some {c : Category} {seen ns : List String}
    (h : t.firstRepeat? c seen ns = some e) :
    ∃ before n after first, ns = before ++ n :: after ∧ t.firstRepeat? c seen before = none ∧
      (t.category? n = some first ∨ (n ∈ seen ∨ n ∈ before) ∧ first = c) ∧
      e = .duplicateName n first c := by
  fun_induction firstRepeat? t c seen ns with
  | case1 => cases h
  | case2 seen n ns first hfirst =>
    cases h
    exact ⟨[], n, ns, first, rfl, rfl, Or.inl hfirst, rfl⟩
  | case3 seen n ns hnew hseen =>
    cases h
    exact ⟨[], n, ns, c, rfl, rfl, Or.inr ⟨Or.inl (by simpa using hseen), rfl⟩, rfl⟩
  | case4 seen n ns hnew hseen ih =>
    obtain ⟨before, m, after, first, rfl, hnone, hm, rfl⟩ := ih h
    refine ⟨n :: before, m, after, first, rfl, ?_, ?_, rfl⟩
    · rw [firstRepeat?, hnew, if_neg hseen, hnone]
    · simpa only [List.mem_cons, or_assoc, or_left_comm] using hm

/-- What is wrong with a group that is not added: it is empty, or one of its names is the first that
has been declared before. -/
theorem exists_of_addGroup_eq_error (h : t.addGroup d = .error e) :
    d.listed = [] ∧ e = .emptyGroup d.category ∨
      ∃ before n after first, d.listed = before ++ n :: after ∧ (t.names ++ before).Nodup ∧
        (t.category? n = some first ∨ n ∈ before ∧ first = d.category) ∧
        e = .duplicateName n first d.category := by
  simp only [addGroup] at h
  by_cases hne : d.listed = []
  · rw [dif_pos hne] at h
    cases h
    exact Or.inl ⟨hne, rfl⟩
  · rw [dif_neg hne] at h
    split at h
    next e' hsome =>
      cases h
      obtain ⟨before, n, after, first, hlisted, hnone, hn, he⟩ :=
        exists_of_firstRepeat?_eq_some hsome
      rw [firstRepeat?_listed_eq_none_iff] at hnone
      refine Or.inr ⟨before, n, after, first, hlisted, hnone, ?_, he⟩
      simpa using hn
    next => cases h

/-- Building stops at the first group that cannot be added to those before it. -/
theorem exists_of_foldlM_addGroup_eq_error (h : ds.foldlM addGroup t = .error e) :
    ∃ before d after t', ds = before ++ d :: after ∧ before.foldlM addGroup t = .ok t' ∧
      t'.addGroup d = .error e := by
  induction ds generalizing t with
  | nil => cases h
  | cons d ds ih =>
    rw [List.foldlM_cons] at h
    cases hadd : t.addGroup d with
    | error e' =>
      rw [hadd] at h
      cases h
      exact ⟨[], d, ds, t, rfl, rfl, hadd⟩
    | ok t₁ =>
      rw [hadd] at h
      obtain ⟨before, d', after, t', rfl, hbefore, hd'⟩ := ih h
      refine ⟨d :: before, d', after, t', rfl, ?_, hd'⟩
      rw [List.foldlM_cons, hadd]
      exact hbefore

/-! ## The first offence of declarations -/

theorem group_mem_reading {names : List String} {c : Category} (h : .group names c ∈ reading ds) :
    ∃ d ∈ ds, d.listed = names := by
  obtain ⟨d, hd, hentry⟩ := List.mem_flatMap.1 h
  rcases List.mem_cons.1 hentry with hgroup | hname
  · exact ⟨d, hd, (Entry.group.inj hgroup).1.symm⟩
  · simp at hname

theorem name_mem_reading {n : String} (hd : d ∈ ds) (hn : n ∈ d.listed) :
    .name n d.category ∈ reading ds :=
  List.mem_flatMap.2 ⟨d, hd, List.mem_cons_of_mem _ (List.mem_map_of_mem hn)⟩

theorem group_nil_not_mem_reading (h : ofDeclarations ds = .ok t) (c : Category) :
    .group [] c ∉ reading ds := by
  intro hc
  obtain ⟨d, hd, hnil⟩ := group_mem_reading hc
  exact (exists_ofDeclarations_iff.1 ⟨t, h⟩).1 d hd hnil

/-- What makes a table is read without offence. -/
theorem blameless_of_ofDeclarations (h : ofDeclarations ds = .ok t) : Blameless (reading ds) := by
  refine blameless_of_nodup (group_nil_not_mem_reading h) ?_
  rw [declared_reading]
  exact (exists_ofDeclarations_iff.1 ⟨t, h⟩).2

/-- What has been read when building stops in a group: the groups before it, the group as a whole
and some of its names. -/
def readUpTo (ds : List Declaration) (d : Declaration) (before : List String) : List Entry :=
  reading ds ++ .group d.listed d.category :: before.map (.name · d.category)

theorem reading_append_cons (ds : List Declaration) (d : Declaration) (more : List Declaration) :
    reading (ds ++ d :: more) = readUpTo ds d d.listed ++ reading more := by
  rw [reading, List.flatMap_append, List.flatMap_cons, ← List.append_assoc]
  rfl

section UpTo

variable {before : List String}

theorem declared_readUpTo (h : ofDeclarations ds = .ok t) :
    declared (readUpTo ds d before) = t.names ++ before := by
  simp [readUpTo, declared_reading, names_ofDeclarations h]

theorem blameless_readUpTo (h : ofDeclarations ds = .ok t) (hne : d.listed ≠ [])
    (hnodup : (t.names ++ before).Nodup) : Blameless (readUpTo ds d before) := by
  refine blameless_of_nodup (fun c hc => ?_) (declared_readUpTo h ▸ hnodup)
  rcases List.mem_append.1 hc with hc | hc
  · exact group_nil_not_mem_reading h c hc
  · simp [hne.symm] at hc

/-- A name that the table knows, or the group so far, has been read. -/
theorem name_mem_readUpTo (h : ofDeclarations ds = .ok t) {n : String} {first : Category}
    (hn : t.category? n = some first ∨ n ∈ before ∧ first = d.category) :
    .name n first ∈ readUpTo ds d before := by
  rcases hn with hfirst | ⟨hn, rfl⟩
  · obtain ⟨d', hd', rfl, hn⟩ := (category?_ofDeclarations h).1 hfirst
    exact List.mem_append_left _ (name_mem_reading hd' hn)
  · exact List.mem_append_right _ (List.mem_cons_of_mem _ (List.mem_map_of_mem hn))

end UpTo

/-- The error is that of the first offence: what is read before it are the groups that make a table,
and the names of the current group up to the one at which building stops. -/
theorem isFirstOffence_of_ofDeclarations (h : ofDeclarations ds = .error e) :
    IsFirstOffence (reading ds) e := by
  obtain ⟨ds, d, more, t, rfl, ht, hd⟩ := exists_of_foldlM_addGroup_eq_error h
  rw [reading_append_cons]
  rcases exists_of_addGroup_eq_error hd with ⟨hnil, rfl⟩ | ⟨before, n, after, first, hlisted, hnodup,
    hfirst, rfl⟩
  · refine ⟨reading ds, .group [] d.category, reading more, ?_, blameless_of_ofDeclarations ht,
      .emptyGroup d.category⟩
    simp [readUpTo, hnil]
  · -- the names read so far are distinct, so the name in question is among them just once
    have honce : (readUpTo ds d before).filter (·.declared? == some n) = [.name n first] :=
      filter_declared_eq_singleton (declared_readUpTo ht ▸ hnodup) (name_mem_readUpTo ht hfirst)
    refine ⟨readUpTo ds d before, .name n d.category,
      after.map (.name · d.category) ++ reading more, ?_, blameless_readUpTo ht ?_ hnodup,
      .duplicateName d.category honce⟩
    · simp [readUpTo, hlisted]
    · simp [hlisted]

theorem ofDeclarations_eq_error_iff :
    ofDeclarations ds = .error e ↔ IsFirstOffence (reading ds) e := by
  refine ⟨isFirstOffence_of_ofDeclarations, fun hfirst => ?_⟩
  cases hds : ofDeclarations ds with
  | ok t =>
    obtain ⟨read, x, rest, heq, -, hoffence⟩ := hfirst
    exact absurd hoffence (blameless_of_ofDeclarations hds read x rest e heq)
  | error e' => rw [hfirst.unique (isFirstOffence_of_ofDeclarations hds)]

end Stop

/-! ## The main result -/

/-- Declarations make no table just if there is an offence in what is met in them, and the error is
that of the first one. More declarations behind them make no difference. -/
theorem first_offence_reported (ds : List Declaration) (e : Error) :
    (ofDeclarations ds = .error e ↔ ∃ l, Meets ds l ∧ IsFirstOffence l e) ∧
      (ofDeclarations ds = .error e → ∀ more, ofDeclarations (ds ++ more) = .error e) := by
  simp only [meets_iff, exists_eq_left]
  refine ⟨ofDeclarations_eq_error_iff, fun h more => ?_⟩
  rw [ofDeclarations, List.foldlM_append, ← ofDeclarations, h]
  rfl

/-- A group without names does not count where a name is declared twice before it. -/
theorem duplicate_before_empty_group :
    ofDeclarations [⟨"a b", .number⟩, ⟨"c\u2003b b", .string⟩, ⟨"", .brace⟩] =
        .error (.duplicateName "b" .number .string) ∧
      (∃ l, Meets [⟨"a b", .number⟩, ⟨"c\u2003b b", .string⟩, ⟨"", .brace⟩] l ∧
        IsFirstOffence l (.duplicateName "b" .number .string)) ∧
      ∀ more, ofDeclarations ([⟨"a b", .number⟩, ⟨"c\u2003b b", .string⟩, ⟨"", .brace⟩] ++ more) =
        .error (.duplicateName "b" .number .string) := by
  have herror : ofDeclarations [⟨"a b", .number⟩, ⟨"c\u2003b b", .string⟩, ⟨"", .brace⟩] =
      .error (.duplicateName "b" .number .string) := rfl
  exact ⟨herror, (first_offence_reported _ _).1.1 herror, (first_offence_reported _ _).2 herror⟩

end Table

end PromqlEditor
