import PromqlEditor.Proofs.Json.Reading

/-!
# Texts are read as what they write

The reader of texts gives a value just if the text writes this value (`Value.ofText_eq_ok_iff`), so
no text writes two values (`Writes.unique`). Whatever is read of a text writes what is read, by
recursion along the reader; and a text that writes a value is read as this value, by induction on
how it is put together, whatever follows it that cannot belong to a number at its end.
-/

namespace PromqlEditor.Json

/-! ## Items and members -/

section Parts

variable {depth : Nat} {t u : Text} {v : Value} {vs : List Value} {ms : List (String × Value)}

/-- Whether a text is that of one or more items of a list, with commas between them. -/
def WritesItems (depth : Nat) (t : Text) (vs : List Value) : Prop :=
  ∃ items : List (Text × Value), items ≠ [] ∧ (∀ item ∈ items, Writes depth item.1 item.2) ∧
    [','].intercalate (items.map Prod.fst) = t ∧ items.map Prod.snd = vs

/-- Whether a text is that of one or more members of an object, with commas between them. -/
def WritesMembers (depth : Nat) (t : Text) (ms : List (String × Value)) : Prop :=
  ∃ members : List Member, members ≠ [] ∧ (∀ m ∈ members, WritesKey m.keyText m.key) ∧
    (∀ m ∈ members, Writes depth m.valueText m.value) ∧
    [','].intercalate (members.map Member.text) = t ∧ members.map (fun m => (m.key, m.value)) = ms

theorem intercalate_cons {texts : List Text} (h : texts ≠ []) :
    [','].intercalate (t :: texts) = t ++ ',' :: [','].intercalate texts := by
  obtain ⟨u, texts, rfl⟩ := List.exists_cons_of_ne_nil h
  rw [List.intercalate_cons_cons, List.append_assoc]
  rfl

theorem Writes.writesItems (h : Writes depth t v) : WritesItems depth t [v] :=
  ⟨[(t, v)], nofun, List.forall_mem_singleton.2 h, List.intercalate_singleton, rfl⟩

theorem WritesItems.cons (h : WritesItems depth u vs) (hv : Writes depth t v) :
    WritesItems depth (t ++ ',' :: u) (v :: vs) := by
  obtain ⟨items, hne, hitems, rfl, rfl⟩ := h
  exact ⟨(t, v) :: items, nofun, List.forall_mem_cons.2 ⟨hv, hitems⟩,
    intercalate_cons (mt List.map_eq_nil_iff.1 hne), rfl⟩

theorem WritesItems.writes (h : WritesItems depth t vs) :
    Writes (depth + 1) ('[' :: t ++ [']']) (.list vs) := by
  obtain ⟨items, hne, hitems, rfl, rfl⟩ := h
  exact .list hne hitems

theorem Writes.writesMembers {key : String} (hkey : WritesKey u key) (h : Writes depth t v) :
    WritesMembers depth (u ++ ':' :: t) [(key, v)] :=
  ⟨[⟨u, key, t, v⟩], nofun, List.forall_mem_singleton.2 hkey, List.forall_mem_singleton.2 h,
    List.intercalate_singleton, rfl⟩

theorem WritesMembers.cons {key : String} {w : Text} (h : WritesMembers depth w ms)
    (hkey : WritesKey u key) (hv : Writes depth t v) :
    WritesMembers depth (u ++ ':' :: t ++ ',' :: w) ((key, v) :: ms) := by
  obtain ⟨members, hne, hkeys, hvalues, rfl, rfl⟩ := h
  exact ⟨⟨u, key, t, v⟩ :: members, nofun, List.forall_mem_cons.2 ⟨hkey, hkeys⟩,
    List.forall_mem_cons.2 ⟨hv, hvalues⟩, intercalate_cons (mt List.map_eq_nil_iff.1 hne), rfl⟩

theorem WritesMembers.writes (h : WritesMembers depth t ms) :
    Writes (depth + 1) ('{' :: t ++ ['}']) (.ofMembers ms) := by
  obtain ⟨members, hne, hkeys, hvalues, rfl, rfl⟩ := h
  exact .object hne hkeys hvalues

theorem isGap_nil : IsGap [] := nofun

theorem Writes.gap_append {gap : Text} (h : Writes depth t v) (hgap : IsGap gap) :
    Writes depth (gap ++ t) v := by
  rw [← List.append_nil (gap ++ t)]
  exact .padded hgap isGap_nil h

theorem Writes.append_gap {gap : Text} (h : Writes depth t v) (hgap : IsGap gap) :
    Writes depth (t ++ gap) v := .padded isGap_nil hgap h

end Parts

/-! ## What is read is written -/

section Sound

theorem length_lt_of_skipSpaces {c : Char} {s t : Text} (h : (skipSpaces s).1 = c :: t) :
    t.length < s.length := by
  have hle := (skipSpaces s).2
  rw [h, List.length_cons] at hle
  exact hle

theorem Reads.length_lt {α : Type} {r s : Text} {x : Except Fault (α × Rest s)} {a : α}
    (h : Reads x a r) : r.length < s.length := h.1

mutual

theorem exists_writes_of_readValue {depth : Nat} {s r : Text} {v : Value}
    (h : Reads (readValue depth s) v r) :
    ∃ t, s = t ++ r ∧ Writes depth t v := by
  obtain ⟨c, s, hstart, -, hfrom⟩ := exists_of_reads_readValue h
  -- the readers of what is inside go on with less text, which is why they may be called on
  have hlt := length_lt_of_skipSpaces hstart
  obtain ⟨gap, hgap, rfl⟩ := exists_gap_of_skipSpaces hstart
  suffices hfront : ∃ t, c :: s = t ++ r ∧ Writes depth t v by
    obtain ⟨t, hs, ht⟩ := hfront
    exact ⟨gap ++ t, by rw [hs, List.append_assoc], ht.gap_append hgap⟩
  cases hfrom with
  | null => exact ⟨"null".toList, rfl, .null⟩
  | isTrue => exact ⟨"true".toList, rfl, .isTrue⟩
  | isFalse => exact ⟨"false".toList, rfl, .isFalse⟩
  | negative hread =>
    obtain ⟨t, rfl, ht⟩ := exists_of_reads_readNegative hread
    exact ⟨'-' :: t, rfl, .negative ht⟩
  | number hc hread =>
    obtain ⟨t, hs, ht⟩ := exists_of_reads_readNumber hc hread
    exact ⟨t, hs, .number ht⟩
  | @text _ _ _ cs hread =>
    obtain ⟨body, rfl, hbody⟩ := exists_of_reads_readString hread
    have hbody : WritesString body (String.ofList cs).toList := by rwa [String.toList_ofList]
    exact ⟨'"' :: body ++ ['"'], by simp, .text hbody⟩
  | list hread =>
    obtain ⟨t, rfl, ht⟩ := exists_writes_of_readList hread
    exact ⟨'[' :: t ++ [']'], by simp, ht⟩
  | object hread =>
    obtain ⟨t, rfl, ht⟩ := exists_writes_of_readObject hread
    exact ⟨'{' :: t ++ ['}'], by simp, ht⟩
termination_by (s.length, 0)

theorem exists_writes_of_readList {depth : Nat} {s r : Text} {vs : List Value}
    (h : Reads (readList depth s) vs r) :
    ∃ t, s = t ++ ']' :: r ∧ Writes (depth + 1) ('[' :: t ++ [']']) (.list vs) := by
  rcases reads_readList_iff.1 h with ⟨hclose, rfl⟩ | hitems
  · obtain ⟨gap, hgap, rfl⟩ := exists_gap_of_skipSpaces hclose
    exact ⟨gap, rfl, .emptyList hgap⟩
  · obtain ⟨t, hs, ht⟩ := exists_writes_of_readItems hitems
    exact ⟨t, hs, ht.writes⟩
termination_by (s.length, 2)

theorem exists_writes_of_readItems {depth : Nat} {s r : Text} {vs : List Value}
    (h : Reads (readItems depth s) vs r) :
    ∃ t, s = t ++ ']' :: r ∧ WritesItems depth t vs := by
  obtain ⟨v, left, more, hvalue, hend, rfl⟩ := exists_of_reads_readItems h
  have hleft := hvalue.length_lt
  obtain ⟨t, rfl, ht⟩ := exists_writes_of_readValue hvalue
  cases hend with
  | close hclose =>
    obtain ⟨gap, hgap, rfl⟩ := exists_gap_of_skipSpaces hclose
    exact ⟨t ++ gap, by simp, (ht.append_gap hgap).writesItems⟩
  | next hcomma hmore =>
    have hlt := length_lt_of_skipSpaces hcomma
    obtain ⟨gap, hgap, rfl⟩ := exists_gap_of_skipSpaces hcomma
    obtain ⟨u, rfl, hu⟩ := exists_writes_of_readItems hmore
    exact ⟨t ++ gap ++ ',' :: u, by simp, hu.cons (ht.append_gap hgap)⟩
termination_by (s.length, 1)

theorem exists_writes_of_readObject {depth : Nat} {s r : Text} {ms : List (String × Value)}
    (h : Reads (readObject depth s) ms r) :
    ∃ t, s = t ++ '}' :: r ∧ Writes (depth + 1) ('{' :: t ++ ['}']) (.ofMembers ms) := by
  rcases reads_readObject_iff.1 h with ⟨hclose, rfl⟩ | ⟨u, hquote, hmembers⟩
  · obtain ⟨gap, hgap, rfl⟩ := exists_gap_of_skipSpaces hclose
    exact ⟨gap, rfl, .emptyObject hgap⟩
  · have hlt := length_lt_of_skipSpaces hquote
    obtain ⟨gap, hgap, rfl⟩ := exists_gap_of_skipSpaces hquote
    obtain ⟨t, hs, ht⟩ := exists_writes_of_readMembers hgap hmembers
    exact ⟨t, hs, ht.writes⟩
termination_by (s.length, 0)

/-- The blanks before a key belong to it. -/
theorem exists_writes_of_readMembers {depth : Nat} {s r gap : Text}
    {ms : List (String × Value)} (hgap : IsGap gap)
    (h : Reads (readMembers depth s) ms r) :
    ∃ t, gap ++ '"' :: s = t ++ '}' :: r ∧ WritesMembers depth t ms := by
  obtain ⟨key, left, u, v, left', more, hkey, hcolon, hvalue, hend, rfl⟩ :=
    exists_of_reads_readMembers h
  have hleft : u.length < s.length := (length_lt_of_skipSpaces hcolon).trans hkey.length_lt
  have hleft' : left'.length < s.length := hvalue.length_lt.trans hleft
  obtain ⟨body, hs, hbody⟩ := exists_of_reads_readString hkey
  obtain ⟨gap₁, hgap₁, hu⟩ := exists_gap_of_skipSpaces hcolon
  obtain ⟨t, ht, hvalue⟩ := exists_writes_of_readValue hvalue
  have hkey : WritesKey (gap ++ '"' :: body ++ '"' :: gap₁) (String.ofList key) :=
    .mk hgap hgap₁ (by rwa [String.toList_ofList])
  cases hend with
  | close hclose =>
    obtain ⟨gap₂, hgap₂, hleft'⟩ := exists_gap_of_skipSpaces hclose
    refine ⟨_, ?_, (hvalue.append_gap hgap₂).writesMembers hkey⟩
    simp [hs, hu, ht, hleft']
  | @next w w' _ _ hcomma hquote hmore =>
    have hw : w'.length < s.length := (length_lt_of_skipSpaces hquote).trans
      ((length_lt_of_skipSpaces hcomma).trans hleft')
    obtain ⟨gap₂, hgap₂, hleft'⟩ := exists_gap_of_skipSpaces hcomma
    obtain ⟨gap₃, hgap₃, hw'⟩ := exists_gap_of_skipSpaces hquote
    obtain ⟨t', ht', hmembers⟩ := exists_writes_of_readMembers hgap₃ hmore
    refine ⟨_, ?_, hmembers.cons hkey (hvalue.append_gap hgap₂)⟩
    simp [hs, hu, ht, hleft', hw', ht']
termination_by (s.length, 0)

end

end Sound

/-! ## What is written is read -/

section Complete

variable {depth : Nat} {c : Char} {r s t : Text} {v : Value}

theorem endsNumber_nil : EndsNumber [] := nofun

theorem endsNumber_cons (hdigit : c.isDigit = false) (hpoint : c ≠ '.') (he : c ≠ 'e')
    (hE : c ≠ 'E') : EndsNumber (c :: r) := by
  rintro _ ⟨⟩
  exact ⟨hdigit, hpoint, he, hE⟩

theorem endsNumber_comma : EndsNumber (',' :: r) :=
  endsNumber_cons rfl (by decide) (by decide) (by decide)

theorem endsNumber_bracket : EndsNumber (']' :: r) :=
  endsNumber_cons rfl (by decide) (by decide) (by decide)

theorem endsNumber_brace : EndsNumber ('}' :: r) :=
  endsNumber_cons rfl (by decide) (by decide) (by decide)

theorem isSpace_eq_true_iff :
    isSpace c = true ↔ c = ' ' ∨ c = '\n' ∨ c = '\t' ∨ c = '\r' := by
  simp [isSpace, or_assoc]

/-- A blank belongs to no number. -/
theorem IsGap.endsNumber_append {gap : Text} (hgap : IsGap gap) (hr : EndsNumber r) :
    EndsNumber (gap ++ r) := by
  cases gap with
  | nil => exact hr
  | cons c gap =>
    rcases isSpace_eq_true_iff.1 (hgap c List.mem_cons_self) with rfl | rfl | rfl | rfl <;>
      exact endsNumber_cons rfl (by decide) (by decide) (by decide)

theorem isSpace_of_isDigit (hc : c.isDigit = true) : isSpace c = false := by
  refine Bool.eq_false_iff.2 fun hspace => ?_
  rcases isSpace_eq_true_iff.1 hspace with rfl | rfl | rfl | rfl <;> cases hc

/-- Whether a text is read as a value, whatever follows it that cannot belong to a number. Blanks
behind the text may be left for what comes next. -/
def IsReadAs (depth : Nat) (t : Text) (v : Value) : Prop :=
  ∀ r, EndsNumber r →
    ∃ left, Reads (readValue depth (t ++ r)) v left ∧ (skipSpaces left).1 = (skipSpaces r).1

theorem isReadAs_of_readsFrom (hc : isSpace c = false)
    (h : ∀ r, EndsNumber r → ReadsFrom depth c (t ++ r) v r) : IsReadAs depth (c :: t) v :=
  fun r hr => ⟨r, (reads_readValue_iff (skipSpaces_cons hc _)).2 (h r hr), rfl⟩

theorem IsReadAs.padded {gap gap' : Text} (h : IsReadAs depth t v) (hgap : IsGap gap)
    (hgap' : IsGap gap') : IsReadAs depth (gap ++ t ++ gap') v := by
  intro r hr
  obtain ⟨left, hread, hleft⟩ := h (gap' ++ r) (hgap'.endsNumber_append hr)
  obtain ⟨c, s, hstart, -, hfrom⟩ := exists_of_reads_readValue hread
  have hpadded : (skipSpaces (gap ++ t ++ gap' ++ r)).1 = c :: s := by
    rw [List.append_assoc, List.append_assoc, skipSpaces_gap_append hgap, hstart]
  exact ⟨left, (reads_readValue_iff hpadded).2 hfrom, hleft.trans (skipSpaces_gap_append hgap' r)⟩

theorem WritesNumber.isReadAs (h : WritesNumber false t v) : IsReadAs depth t v := by
  intro r hr
  obtain ⟨first, s, hs, hfirst, hread⟩ := h.reads hr
  rw [hs]
  exact ⟨r, (reads_readValue_iff (skipSpaces_cons (isSpace_of_isDigit hfirst) s)).2
    (.number hfirst hread), rfl⟩

theorem ReadsItemsEnd.congr {vs : List Value} (h : ReadsItemsEnd depth s vs r)
    (hs : (skipSpaces t).1 = (skipSpaces s).1) : ReadsItemsEnd depth t vs r := by
  cases h with
  | close hclose => exact .close (hs.trans hclose)
  | next hcomma hmore => exact .next (hs.trans hcomma) hmore

theorem ReadsMembersEnd.congr {ms : List (String × Value)} (h : ReadsMembersEnd depth s ms r)
    (hs : (skipSpaces t).1 = (skipSpaces s).1) : ReadsMembersEnd depth t ms r := by
  cases h with
  | close hclose => exact .close (hs.trans hclose)
  | next hcomma hquote hmore => exact .next (hs.trans hcomma) hquote hmore

theorem IsReadAs.reads_readItems {vs : List Value} (h : IsReadAs depth t v) (hs : EndsNumber s)
    (hend : ReadsItemsEnd depth s vs r) : Reads (readItems depth (t ++ s)) (v :: vs) r := by
  obtain ⟨left, hread, hleft⟩ := h s hs
  exact reads_readItems_of_readValue hread (hend.congr hleft)

/-- A member is read from behind the opening quote of its key. -/
theorem IsReadAs.reads_readMembers {ms : List (String × Value)} {u : Text} {key : String}
    (hkey : WritesKey u key) (h : IsReadAs depth t v) (hs : EndsNumber s)
    (hend : ReadsMembersEnd depth s ms r) :
    ∃ w, (skipSpaces (u ++ ':' :: t ++ s)).1 = '"' :: w ∧
      Reads (readMembers depth w) ((key, v) :: ms) r := by
  obtain ⟨left, hread, hleft⟩ := h s hs
  obtain @⟨gap, body, gap', _, hgap, hgap', hbody⟩ := hkey
  have hcolon : (skipSpaces (gap' ++ ':' :: (t ++ s))).1 = ':' :: (t ++ s) := by
    rw [skipSpaces_gap_append hgap', skipSpaces_cons rfl]
  have hmembers := reads_readMembers_of_readValue hbody.reads hcolon hread (hend.congr hleft)
  rw [String.ofList_toList] at hmembers
  refine ⟨body ++ '"' :: (gap' ++ ':' :: (t ++ s)), ?_, hmembers⟩
  rw [show gap ++ '"' :: body ++ '"' :: gap' ++ ':' :: t ++ s =
    gap ++ '"' :: (body ++ '"' :: (gap' ++ ':' :: (t ++ s))) by simp,
    skipSpaces_gap_append hgap, skipSpaces_cons rfl]

theorem reads_readItems {items : List (Text × Value)} (hne : items ≠ [])
    (h : ∀ item ∈ items, IsReadAs depth item.1 item.2) :
    Reads (readItems depth ([','].intercalate (items.map Prod.fst) ++ ']' :: r))
      (items.map Prod.snd) r := by
  induction items with
  | nil => exact absurd rfl hne
  | cons item items ih =>
    obtain ⟨hitem, hitems⟩ := List.forall_mem_cons.1 h
    rw [List.map_cons, List.map_cons]
    by_cases hmore : items = []
    · subst hmore
      rw [List.map_nil, List.intercalate_singleton]
      exact hitem.reads_readItems endsNumber_bracket (.close (skipSpaces_cons rfl r))
    · rw [intercalate_cons (mt List.map_eq_nil_iff.1 hmore), List.append_assoc]
      exact hitem.reads_readItems endsNumber_comma
        (.next (skipSpaces_cons rfl _) (ih hmore hitems))

theorem reads_readMembers {members : List Member} (hne : members ≠ [])
    (hkeys : ∀ m ∈ members, WritesKey m.keyText m.key)
    (hvalues : ∀ m ∈ members, IsReadAs depth m.valueText m.value) :
    ∃ s, (skipSpaces ([','].intercalate (members.map Member.text) ++ '}' :: r)).1 = '"' :: s ∧
      Reads (readMembers depth s) (members.map fun m => (m.key, m.value)) r := by
  induction members with
  | nil => exact absurd rfl hne
  | cons m members ih =>
    obtain ⟨hkey, hkeys⟩ := List.forall_mem_cons.1 hkeys
    obtain ⟨hvalue, hvalues⟩ := List.forall_mem_cons.1 hvalues
    rw [List.map_cons, List.map_cons]
    by_cases hmore : members = []
    · subst hmore
      rw [List.map_nil, List.intercalate_singleton]
      exact hvalue.reads_readMembers hkey endsNumber_brace (.close (skipSpaces_cons rfl r))
    · obtain ⟨s, hquote, hread⟩ := ih hmore hkeys hvalues
      rw [intercalate_cons (mt List.map_eq_nil_iff.1 hmore), List.append_assoc]
      exact hvalue.reads_readMembers hkey endsNumber_comma
        (.next (skipSpaces_cons rfl _) hquote hread)

theorem Writes.isReadAs (h : Writes depth t v) : IsReadAs depth t v := by
  induction h with
  | null => exact isReadAs_of_readsFrom rfl fun _ _ => .null
  | isTrue => exact isReadAs_of_readsFrom rfl fun _ _ => .isTrue
  | isFalse => exact isReadAs_of_readsFrom rfl fun _ _ => .isFalse
  | number ht => exact ht.isReadAs
  | negative ht =>
    exact isReadAs_of_readsFrom rfl fun r hr => .negative (ht.reads_readNegative hr)
  | @text _ body s hbody =>
    refine isReadAs_of_readsFrom (t := body ++ ['"']) rfl fun r _ => ?_
    rw [List.append_assoc, ← String.ofList_toList (s := s)]
    exact .text hbody.reads
  | @emptyList _ gap hgap =>
    refine isReadAs_of_readsFrom (t := gap ++ [']']) rfl fun r _ =>
      .list (reads_readList_iff.2 (Or.inl ⟨?_, rfl⟩))
    rw [List.append_assoc, skipSpaces_gap_append hgap]
    exact skipSpaces_cons rfl r
  | @list _ items hne _ ih =>
    refine isReadAs_of_readsFrom (t := [','].intercalate (items.map Prod.fst) ++ [']']) rfl
      fun r _ => .list (reads_readList_iff.2 (Or.inr ?_))
    rw [List.append_assoc]
    exact reads_readItems hne ih
  | @emptyObject _ gap hgap =>
    refine isReadAs_of_readsFrom (t := gap ++ ['}']) rfl fun r _ =>
      .object (reads_readObject_iff.2 (Or.inl ⟨?_, rfl⟩))
    rw [List.append_assoc, skipSpaces_gap_append hgap]
    exact skipSpaces_cons rfl r
  | @object _ members hne hkeys _ ih =>
    refine isReadAs_of_readsFrom (t := [','].intercalate (members.map Member.text) ++ ['}']) rfl
      fun r _ => .object (reads_readObject_iff.2 (Or.inr ?_))
    rw [List.append_assoc]
    exact reads_readMembers hne hkeys ih
  | padded hgap hgap' _ ih => exact ih.padded hgap hgap'

end Complete

/-- A text is read as a value just if it writes this value. -/
theorem Value.ofText_eq_ok_iff {s : Text} {v : Value} :
    Value.ofText s = .ok v ↔ Writes depthLimit s v := by
  unfold Value.ofText
  constructor
  · intro h
    cases hread : readValue depthLimit s with
    | error e =>
      rw [hread] at h
      cases h
    | ok y =>
      obtain ⟨v', r, hr⟩ := y
      rw [hread] at h
      dsimp only [bind, Except.bind] at h
      split at h
      · rename_i hend
        cases h
        obtain ⟨t, rfl, ht⟩ := exists_writes_of_readValue ⟨hr, hread⟩
        obtain ⟨gap, hgap, rfl⟩ := exists_gap_of_skipSpaces hend
        rw [List.append_nil]
        exact ht.append_gap hgap
      · cases h
  · intro h
    obtain ⟨left, hread, hend⟩ := h.isReadAs [] endsNumber_nil
    rw [List.append_nil] at hread
    obtain ⟨hleft, hread⟩ := hread
    rw [hread]
    dsimp only [bind, Except.bind]
    rw [hend]
    rfl

theorem Writes.unique {s : Text} {v w : Value} (hv : Writes depthLimit s v)
    (hw : Writes depthLimit s w) : v = w :=
  Except.ok.inj ((Value.ofText_eq_ok_iff.2 hv).symm.trans (Value.ofText_eq_ok_iff.2 hw))

end PromqlEditor.Json
