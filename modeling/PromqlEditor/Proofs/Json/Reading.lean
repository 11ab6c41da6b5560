import PromqlEditor.Proofs.Json.String

/-!
# How values are read

What is read as a value is decided by its first character (`ReadsFrom`), and a list or an object is
read item by item or member by member (`ReadsItemsEnd`, `ReadsMembersEnd`). Each reader is opened
here once, and not again.
-/

namespace PromqlEditor.Json

/-! ## Blanks and words -/

section Blanks

variable {c : Char} {gap r s t : Text}

theorem exists_gap_of_skipSpaces (h : (skipSpaces s).1 = t) : ∃ gap, IsGap gap ∧ s = gap ++ t := by
  refine ⟨s.takeWhile isSpace, fun c hc => ?_, ?_⟩
  · exact List.all_eq_true.1 List.all_takeWhile c hc
  · rw [← h]
    exact List.takeWhile_append_dropWhile.symm

theorem skipSpaces_gap_append (hgap : IsGap gap) (t : Text) :
    (skipSpaces (gap ++ t)).1 = (skipSpaces t).1 := List.dropWhile_append_of_pos hgap

theorem skipSpaces_cons (hc : isSpace c = false) (t : Text) : (skipSpaces (c :: t)).1 = c :: t :=
  List.dropWhile_cons_of_neg (by simp [hc])

theorem readWord_cons (w c : Char) (word s : Text) : readWord (w :: word) (c :: s) =
    if w = c then readWord word s >>= fun left => pure ⟨left.1, Nat.le_succ_of_le left.2⟩
    else .error (.within .expectedWord (c :: s)) := rfl

/-- A word is read if the text starts with it. -/
theorem readWord_eq_ok_iff {word : Text} {left : Tail s} :
    readWord word s = .ok left ↔ s = word ++ left.1 := by
  induction word generalizing s with
  | nil =>
    show Except.ok ⟨s, Nat.le_refl _⟩ = Except.ok left ↔ s = left.1
    rw [Except.ok.injEq, Subtype.ext_iff]
  | cons w word ih =>
    cases s with
    | nil =>
      refine iff_of_false (fun h => ?_) (List.cons_ne_nil _ _).symm
      cases h
    | cons c s =>
      rw [readWord_cons]
      by_cases hw : w = c
      · subst hw
        rw [if_pos rfl, List.cons_append, List.cons_inj_right]
        constructor
        · intro h
          cases hrest : readWord word s with
          | error e =>
            rw [hrest] at h
            cases h
          | ok rest =>
            rw [hrest] at h
            cases h
            exact ih.1 hrest
        · intro hs
          have hle : left.1.length ≤ s.length := by simp [hs]
          have hrest : readWord word s = .ok ⟨left.1, hle⟩ := ih.2 hs
          rw [hrest]
          rfl
      · rw [if_neg hw]
        simp [Ne.symm hw]

theorem reads_readWord_iff {word : Text} {v v' : Value} (ht : t.length < s.length) :
    Reads (readWord word t >>= fun left => pure (v', left.rest ht)) v r ↔
      t = word ++ r ∧ v' = v := by
  rw [reads_bind_iff]
  constructor
  · rintro ⟨left, hword, hread⟩
    obtain ⟨rfl, rfl⟩ := reads_pure_iff.1 hread
    exact ⟨readWord_eq_ok_iff.1 hword, rfl⟩
  · rintro ⟨rfl, rfl⟩
    exact ⟨⟨r, by simp⟩, readWord_eq_ok_iff.2 rfl, reads_pure_iff.2 ⟨rfl, rfl⟩⟩

end Blanks

/-! ## The front of a value -/

section Fronts

variable {depth : Nat} {c : Char} {v : Value} {r s t : Text}

/-- What is read from a text behind its first character, which says what kind of value comes. -/
inductive ReadsFrom : Nat → Char → Text → Value → Text → Prop
  | null {depth : Nat} {r : Text} : ReadsFrom depth 'n' ("ull".toList ++ r) .null r
  | isTrue {depth : Nat} {r : Text} : ReadsFrom depth 't' ("rue".toList ++ r) (.boolean true) r
  | isFalse {depth : Nat} {r : Text} : ReadsFrom depth 'f' ("alse".toList ++ r) (.boolean false) r
  | negative {depth : Nat} {t r : Text} {v : Value} (h : Reads (readNegative t) v r) :
      ReadsFrom depth '-' t v r
  | number {depth : Nat} {c : Char} {t r : Text} {v : Value} (hc : c.isDigit = true)
      (h : Reads (readNumber false c t) v r) : ReadsFrom depth c t v r
  | text {depth : Nat} {t r cs : Text} (h : Reads (readString t) cs r) :
      ReadsFrom depth '"' t (.text (String.ofList cs)) r
  | list {depth : Nat} {t r : Text} {vs : List Value} (h : Reads (readList depth t) vs r) :
      ReadsFrom (depth + 1) '[' t (.list vs) r
  | object {depth : Nat} {t r : Text} {ms : List (String × Value)}
      (h : Reads (readObject depth t) ms r) : ReadsFrom (depth + 1) '{' t (.ofMembers ms) r

theorem reads_readValue_iff (h : (skipSpaces s).1 = c :: t) :
    Reads (readValue depth s) v r ↔ ReadsFrom depth c t v r := by
  unfold readValue
  dsimp only
  split
  · rename_i hnil
    cases h.symm.trans hnil
  · rename_i c' t' hcons
    cases h.symm.trans hcons
    constructor
    · intro hread
      split at hread
      · rename_i hc
        subst hc
        obtain ⟨rfl, rfl⟩ := (reads_readWord_iff _).1 hread
        exact .null
      split at hread
      · rename_i hc
        subst hc
        obtain ⟨rfl, rfl⟩ := (reads_readWord_iff _).1 hread
        exact .isTrue
      split at hread
      · rename_i hc
        subst hc
        obtain ⟨rfl, rfl⟩ := (reads_readWord_iff _).1 hread
        exact .isFalse
      split at hread
      · rename_i hc
        subst hc
        exact .negative (hread.of_keep fun _ _ _ => ⟨_, rfl⟩)
      split at hread
      · rename_i hc
        exact .number hc (hread.of_keep fun _ _ _ => ⟨_, rfl⟩)
      split at hread
      · rename_i hc
        subst hc
        obtain ⟨cs, hcs, rfl⟩ := hread.of_map (g := fun cs => .text (String.ofList cs))
          fun _ _ _ => ⟨_, rfl⟩
        exact .text hcs
      split at hread
      · rename_i hc
        subst hc
        cases depth with
        | zero => exact absurd hread not_reads_error
        | succ d =>
          obtain ⟨vs, hvs, rfl⟩ := hread.of_map (g := .list) fun _ _ _ => ⟨_, rfl⟩
          exact .list hvs
      split at hread
      · rename_i hc
        subst hc
        cases depth with
        | zero => exact absurd hread not_reads_error
        | succ d =>
          obtain ⟨ms, hms, rfl⟩ := hread.of_map (g := .ofMembers) fun _ _ _ => ⟨_, rfl⟩
          exact .object hms
      · exact absurd hread not_reads_error
    · intro hread
      cases hread with
      | null => exact (reads_readWord_iff _).2 ⟨rfl, rfl⟩
      | isTrue => exact (reads_readWord_iff _).2 ⟨rfl, rfl⟩
      | isFalse => exact (reads_readWord_iff _).2 ⟨rfl, rfl⟩
      | negative hread => exact hread.keep fun _ _ _ => ⟨_, rfl⟩
      | number hc hread =>
        have hne {x : Char} (hx : x.isDigit = false) : c ≠ x := by
          rintro rfl
          exact Bool.false_ne_true (hx.symm.trans hc)
        rw [if_neg (hne (by decide)), if_neg (hne (by decide)), if_neg (hne (by decide)),
          if_neg (hne (by decide)), if_pos hc]
        exact hread.keep fun _ _ _ => ⟨_, rfl⟩
      | text hread =>
        exact hread.map (g := fun cs => Value.text (String.ofList cs)) fun _ _ _ => ⟨_, rfl⟩
      | list hread => exact hread.map (g := Value.list) fun _ _ _ => ⟨_, rfl⟩
      | object hread => exact hread.map (g := Value.ofMembers) fun _ _ _ => ⟨_, rfl⟩

/-- There is no value in front of a closing bracket, and none where the text ends. -/
theorem exists_of_reads_readValue (h : Reads (readValue depth s) v r) :
    ∃ c t, (skipSpaces s).1 = c :: t ∧ c ≠ ']' ∧ ReadsFrom depth c t v r := by
  cases hstart : (skipSpaces s).1 with
  | nil =>
    unfold readValue at h
    dsimp only at h
    split at h
    · exact absurd h not_reads_error
    · rename_i hcons
      cases hstart.symm.trans hcons
  | cons c t =>
    have hfrom := (reads_readValue_iff hstart).1 h
    refine ⟨c, t, rfl, ?_, hfrom⟩
    rintro rfl
    cases hfrom with
    | number hc _ => cases hc

end Fronts

/-! ## Lists and objects -/

section Lists

variable {depth : Nat} {vs : List Value} {ms : List (String × Value)} {r s : Text}

/-- No item of a list starts with a closing bracket. -/
theorem front_of_reads_readItems (h : Reads (readItems depth s) vs r) :
    ∃ c t, (skipSpaces s).1 = c :: t ∧ c ≠ ']' := by
  rw [readItems, reads_bind_iff] at h
  obtain ⟨⟨v, left, hleft⟩, hvalue, -⟩ := h
  obtain ⟨c, t, hfront, hc, -⟩ := exists_of_reads_readValue ⟨hleft, hvalue⟩
  exact ⟨c, t, hfront, hc⟩

/-- How a list goes on behind an item: it is closed, or more items are read behind a comma. -/
inductive ReadsItemsEnd (depth : Nat) (s : Text) : List Value → Text → Prop
  | close {r : Text} (hclose : (skipSpaces s).1 = ']' :: r) : ReadsItemsEnd depth s [] r
  | next {t r : Text} {vs : List Value} (hcomma : (skipSpaces s).1 = ',' :: t)
      (hmore : Reads (readItems depth t) vs r) : ReadsItemsEnd depth s vs r

theorem exists_of_reads_readItems (h : Reads (readItems depth s) vs r) :
    ∃ v left more, Reads (readValue depth s) v left ∧ ReadsItemsEnd depth left more r ∧
      v :: more = vs := by
  rw [readItems, reads_bind_iff] at h
  obtain ⟨⟨v, left, hleft⟩, hvalue, h⟩ := h
  dsimp only at h
  split at h
  · exact absurd h not_reads_error
  · rename_i c t hnext
    split at h
    · rename_i hc
      subst hc
      obtain ⟨rfl, rfl⟩ := reads_pure_iff.1 h
      exact ⟨v, left, [], ⟨hleft, hvalue⟩, .close hnext, rfl⟩
    · split at h
      · rename_i hc
        subst hc
        split at h
        · exact absurd h not_reads_error
        · exact absurd h not_reads_error
        · obtain ⟨more, hmore, rfl⟩ := h.of_map (g := (v :: ·)) fun _ _ _ => ⟨_, rfl⟩
          exact ⟨v, left, more, ⟨hleft, hvalue⟩, .next hnext hmore, rfl⟩
      · exact absurd h not_reads_error

theorem reads_readItems_of_readValue {v : Value} {left : Text}
    (hvalue : Reads (readValue depth s) v left) (hend : ReadsItemsEnd depth left vs r) :
    Reads (readItems depth s) (v :: vs) r := by
  obtain ⟨hleft, hvalue⟩ := hvalue
  rw [readItems, reads_bind_iff]
  refine ⟨_, hvalue, ?_⟩
  dsimp only
  cases hend with
  | close hclose =>
    split
    · rename_i hnil
      cases hclose.symm.trans hnil
    · rename_i hcons
      cases hclose.symm.trans hcons
      exact reads_pure_iff.2 ⟨rfl, rfl⟩
  | next hcomma hmore =>
    split
    · rename_i hnil
      cases hcomma.symm.trans hnil
    · rename_i hcons
      cases hcomma.symm.trans hcons
      obtain ⟨c, u, hfront, hc⟩ := front_of_reads_readItems hmore
      rw [if_neg (by decide), if_pos rfl]
      split
      · rename_i hnil
        cases hfront.symm.trans hnil
      · rename_i hclose
        cases hfront.symm.trans hclose
        exact absurd rfl hc
      · exact hmore.map (g := (v :: ·)) fun _ _ _ => ⟨_, rfl⟩

theorem reads_readList_iff : Reads (readList depth s) vs r ↔
    (skipSpaces s).1 = ']' :: r ∧ [] = vs ∨ Reads (readItems depth s) vs r := by
  rw [readList]
  split
  · rename_i hnil
    refine iff_of_false not_reads_error ?_
    rintro (⟨hclose, -⟩ | hitems)
    · cases hnil.symm.trans hclose
    · obtain ⟨c, t, hfront, -⟩ := front_of_reads_readItems hitems
      cases hnil.symm.trans hfront
  · rename_i t hclose
    rw [reads_ok_iff]
    constructor
    · rintro ⟨rfl, rfl⟩
      exact Or.inl ⟨hclose, rfl⟩
    · rintro (⟨hr, rfl⟩ | hitems)
      · cases hclose.symm.trans hr
        exact ⟨rfl, rfl⟩
      · obtain ⟨c, t, hfront, hc⟩ := front_of_reads_readItems hitems
        cases hclose.symm.trans hfront
        exact absurd rfl hc
  · rename_i hopen
    rw [or_iff_right]
    rintro ⟨hclose, -⟩
    exact hopen _ hclose

/-- How an object goes on behind a member: it is closed, or more members are read behind a comma
and the opening quote of a key. -/
inductive ReadsMembersEnd (depth : Nat) (s : Text) : List (String × Value) → Text → Prop
  | close {r : Text} (hclose : (skipSpaces s).1 = '}' :: r) : ReadsMembersEnd depth s [] r
  | next {t u r : Text} {ms : List (String × Value)} (hcomma : (skipSpaces s).1 = ',' :: t)
      (hquote : (skipSpaces t).1 = '"' :: u) (hmore : Reads (readMembers depth u) ms r) :
      ReadsMembersEnd depth s ms r

theorem exists_of_reads_readMembers (h : Reads (readMembers depth s) ms r) :
    ∃ key left t v left' more, Reads (readString s) key left ∧
      (skipSpaces left).1 = ':' :: t ∧ Reads (readValue depth t) v left' ∧
      ReadsMembersEnd depth left' more r ∧ (String.ofList key, v) :: more = ms := by
  rw [readMembers, reads_bind_iff] at h
  obtain ⟨⟨key, left, hleft⟩, hkey, h⟩ := h
  dsimp only at h
  split at h
  · exact absurd h not_reads_error
  · rename_i c t hcolon
    split at h
    · exact absurd h not_reads_error
    · rename_i hc
      obtain rfl : c = ':' := not_not.1 hc
      rw [reads_bind_iff] at h
      obtain ⟨⟨v, left', hleft'⟩, hvalue, h⟩ := h
      suffices hend : ∃ more, ReadsMembersEnd depth left' more r ∧
          (String.ofList key, v) :: more = ms by
        obtain ⟨more, hend, hms⟩ := hend
        exact ⟨key, left, t, v, left', more, ⟨hleft, hkey⟩, hcolon, ⟨hleft', hvalue⟩, hend, hms⟩
      dsimp only at h
      split at h
      · exact absurd h not_reads_error
      · rename_i c u hnext
        split at h
        · rename_i hc
          subst hc
          obtain ⟨rfl, rfl⟩ := reads_pure_iff.1 h
          exact ⟨[], .close hnext, rfl⟩
        · split at h
          · rename_i hc
            subst hc
            split at h
            · exact absurd h not_reads_error
            · rename_i c w hquote
              split at h
              · rename_i hc
                subst hc
                obtain ⟨more, hmore, rfl⟩ :=
                  h.of_map (g := ((String.ofList key, v) :: ·)) fun _ _ _ => ⟨_, rfl⟩
                exact ⟨more, .next hnext hquote hmore, rfl⟩
              · split at h
                · exact absurd h not_reads_error
                · exact absurd h not_reads_error
          · exact absurd h not_reads_error

theorem reads_readMembers_of_readValue {key left left' t : Text} {v : Value}
    (hkey : Reads (readString s) key left) (hcolon : (skipSpaces left).1 = ':' :: t)
    (hvalue : Reads (readValue depth t) v left') (hend : ReadsMembersEnd depth left' ms r) :
    Reads (readMembers depth s) ((String.ofList key, v) :: ms) r := by
  obtain ⟨hleft, hkey⟩ := hkey
  obtain ⟨hleft', hvalue⟩ := hvalue
  rw [readMembers, reads_bind_iff]
  refine ⟨_, hkey, ?_⟩
  dsimp only
  split
  · rename_i hnil
    cases hcolon.symm.trans hnil
  · rename_i hcons
    cases hcolon.symm.trans hcons
    rw [if_neg (not_not.2 rfl), reads_bind_iff]
    refine ⟨_, hvalue, ?_⟩
    dsimp only
    cases hend with
    | close hclose =>
      split
      · rename_i hnil
        cases hclose.symm.trans hnil
      · rename_i hcons
        cases hclose.symm.trans hcons
        exact reads_pure_iff.2 ⟨rfl, rfl⟩
    | next hcomma hquote hmore =>
      split
      · rename_i hnil
        cases hcomma.symm.trans hnil
      · rename_i hcons
        cases hcomma.symm.trans hcons
        rw [if_neg (by decide), if_pos rfl]
        split
        · rename_i hnil
          cases hquote.symm.trans hnil
        · rename_i hcons
          cases hquote.symm.trans hcons
          rw [if_pos rfl]
          exact hmore.map (g := ((String.ofList key, v) :: ·)) fun _ _ _ => ⟨_, rfl⟩

theorem reads_readObject_iff : Reads (readObject depth s) ms r ↔
    (skipSpaces s).1 = '}' :: r ∧ [] = ms ∨
      ∃ t, (skipSpaces s).1 = '"' :: t ∧ Reads (readMembers depth t) ms r := by
  rw [readObject]
  dsimp only
  split
  · rename_i hnil
    simp [hnil]
  · rename_i c t hcons
    constructor
    · intro h
      split at h
      · rename_i hc
        subst hc
        obtain ⟨rfl, rfl⟩ := reads_ok_iff.1 h
        exact Or.inl ⟨hcons, rfl⟩
      · split at h
        · rename_i hc
          subst hc
          exact Or.inr ⟨t, hcons, h.of_keep fun _ _ _ => ⟨_, rfl⟩⟩
        · exact absurd h not_reads_error
    · rintro (⟨hclose, rfl⟩ | ⟨u, hquote, hmembers⟩)
      · cases hcons.symm.trans hclose
        exact reads_ok_iff.2 ⟨rfl, rfl⟩
      · cases hcons.symm.trans hquote
        exact hmembers.keep fun _ _ _ => ⟨_, rfl⟩

end Lists

end PromqlEditor.Json
