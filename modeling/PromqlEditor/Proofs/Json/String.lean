import PromqlEditor.Proofs.Json.Number

/-!
# Strings are read as they are written

A string is read character by character up to its closing quote. What is read before the quote
stands for the string that is given (`exists_of_reads_readString`), and a text that stands for a
string and has a quote behind it is read as that string (`WritesString.reads`).
-/

namespace PromqlEditor.Json

/-! ## Hexadecimal digits -/

section Hexadecimal

variable {a b c d : Char} {n : Nat} {r s : Text}

theorem hexValue?_lt (h : hexValue? c = some n) : n < 16 := by
  simp only [hexValue?, Char.isDigit, ge_iff_le, Bool.and_eq_true, decide_eq_true_eq,
    Char.le_def, UInt32.le_iff_toNat_le, digitValue] at h
  have h9 : '9'.val.toNat = 57 := rfl
  have hf : 'f'.val.toNat = 102 := rfl
  have hF : 'F'.val.toNat = 70 := rfl
  have hc : c.toNat = c.val.toNat := rfl
  have h0 : '0'.toNat = 48 := rfl
  have ha : 'a'.toNat = 97 := rfl
  have hA : 'A'.toNat = 65 := rfl
  split at h
  · cases h
    omega
  · split at h
    · cases h
      omega
    · split at h
      · cases h
        omega
      · cases h

theorem hexQuad?_lt (h : hexQuad? a b c d = some n) : n < 0x10000 := by
  simp only [hexQuad?, Option.bind_eq_bind, Option.bind_eq_some_iff, Option.pure_def,
    Option.some.injEq] at h
  obtain ⟨w, hw, x, hx, y, hy, z, hz, rfl⟩ := h
  have hw := hexValue?_lt hw
  have hx := hexValue?_lt hx
  have hy := hexValue?_lt hy
  have hz := hexValue?_lt hz
  omega

theorem exists_of_reads_readHex (h : Reads (readHex s) n r) :
    ∃ a b c d, s = a :: b :: c :: d :: r ∧ hexQuad? a b c d = some n := by
  unfold readHex at h
  split at h
  · exact absurd h not_reads_error
  · split at h
    · rename_i a b c d t _
      split at h
      · rename_i m hm
        obtain ⟨rfl, rfl⟩ := reads_ok_iff.1 h
        exact ⟨a, b, c, d, rfl, hm⟩
      · exact absurd h not_reads_error
    · exact absurd h not_reads_error

theorem reads_readHex (h : hexQuad? a b c d = some n) :
    Reads (readHex (a :: b :: c :: d :: r)) n r := by
  have hsize : ¬ Text.size (a :: b :: c :: d :: r) < 4 := by
    have ha := a.utf8Size_pos
    have hb := b.utf8Size_pos
    have hc := c.utf8Size_pos
    have hd := d.utf8Size_pos
    simp only [Text.size_cons]
    omega
  rw [readHex, if_neg hsize, h]
  exact reads_ok_iff.2 ⟨rfl, rfl⟩

end Hexadecimal

/-! ## Escapes -/

section Escapes

variable {x : Char} {n : Nat} {r s t u : Text}

/-- A number that is not one of a surrogate is that of a character. -/
theorem toNat_ofNat (h : n < 0xD800 ∨ 0xDFFF < n ∧ n < 0x110000) : (Char.ofNat n).toNat = n := by
  delta Char.ofNat
  rw [dif_pos h]
  rfl

/-- A numbered escape is read as the character that it stands for. -/
theorem exists_of_reads_readNumbered (h : Reads (readNumbered s) x r) :
    ∃ u, s = u ++ r ∧ WritesNumbered u x := by
  unfold readNumbered at h
  rw [reads_bind_iff] at h
  obtain ⟨⟨n, left, hleft⟩, hhex, h⟩ := h
  obtain ⟨a, b, c, d, rfl, hquad⟩ := exists_of_reads_readHex ⟨hleft, hhex⟩
  have hn := hexQuad?_lt hquad
  dsimp only at h
  by_cases hlow : 0xDC00 ≤ n ∧ n ≤ 0xDFFF
  · rw [if_pos (by simpa using hlow)] at h
    exact absurd h not_reads_error
  · rw [if_neg (by simpa using hlow)] at h
    by_cases hplain : n < 0xD800 ∨ 0xDBFF < n
    · rw [if_pos (by simpa using hplain)] at h
      obtain ⟨rfl, rfl⟩ := reads_pure_iff.1 h
      refine ⟨[a, b, c, d], rfl, .unit ?_⟩
      rwa [toNat_ofNat (by omega)]
    · rw [if_neg (by simpa using hplain)] at h
      split at h
      · exact absurd h not_reads_error
      · exact absurd h not_reads_error
      · rename_i t
        rw [reads_bind_iff] at h
        obtain ⟨⟨m, left', hleft'⟩, hhex', h⟩ := h
        obtain ⟨a', b', c', d', rfl, hquad'⟩ := exists_of_reads_readHex ⟨hleft', hhex'⟩
        dsimp only at h
        by_cases hhigh : m < 0xDC00 ∨ 0xDFFF < m
        · rw [if_pos (by simpa using hhigh)] at h
          exact absurd h not_reads_error
        · rw [if_neg (by simpa using hhigh)] at h
          obtain ⟨rfl, rfl⟩ := reads_pure_iff.1 h
          refine ⟨[a, b, c, d, '\\', 'u', a', b', c', d'], rfl,
            .pair (n := 0x400 * (n - 0xD800) + (m - 0xDC00)) ?_ ?_ ?_⟩
          · rw [toNat_ofNat (by omega), Nat.add_assoc]
          · exact hquad.trans (congrArg some (by omega))
          · exact hquad'.trans (congrArg some (by omega))
      · exact absurd h not_reads_error
      · exact absurd h not_reads_error

/-- The number of a character is not one of a surrogate. -/
theorem toNat_lt_or_lt (x : Char) : x.toNat < 0xD800 ∨ 0xDFFF < x.toNat ∧ x.toNat < 0x110000 :=
  x.valid

theorem WritesNumbered.reads (h : WritesNumbered u x) : Reads (readNumbered (u ++ r)) x r := by
  have hvalid := toNat_lt_or_lt x
  cases h with
  | @unit a b c d _ hx =>
    obtain ⟨hle, hhex⟩ := reads_readHex (r := r) hx
    refine reads_bind_iff.2 ⟨_, hhex, ?_⟩
    dsimp only
    rw [if_neg (by simp; omega), if_pos (by simp; omega)]
    exact reads_pure_iff.2 ⟨Char.ofNat_toNat x, rfl⟩
  | @pair a b c d a' b' c' d' _ n hx hhigh hlow =>
    obtain ⟨hle, hhex⟩ := reads_readHex (r := '\\' :: 'u' :: a' :: b' :: c' :: d' :: r) hhigh
    obtain ⟨hle', hhex'⟩ := reads_readHex (r := r) hlow
    refine reads_bind_iff.2 ⟨_, hhex, ?_⟩
    dsimp only
    rw [if_neg (by simp; omega), if_neg (by simp; omega)]
    refine reads_bind_iff.2 ⟨_, hhex', ?_⟩
    dsimp only
    rw [if_neg (by simp; omega)]
    refine reads_pure_iff.2 ⟨?_, rfl⟩
    dsimp only
    rw [← Char.ofNat_toNat x, hx]
    exact congrArg Char.ofNat (by omega)

end Escapes

/-! ## Strings -/

section Strings

variable {cs r s t : Text}

theorem exists_of_reads_readString (h : Reads (readString s) cs r) :
    ∃ t, s = t ++ '"' :: r ∧ WritesString t cs := by
  induction hlen : s.length using Nat.strong_induction_on generalizing s cs with
  | _ n ih =>
    subst hlen
    unfold readString at h
    split at h
    · exact absurd h not_reads_error
    · obtain ⟨rfl, rfl⟩ := reads_ok_iff.1 h
      exact ⟨[], rfl, .nil⟩
    · exact absurd h not_reads_error
    · rename_i t
      rw [reads_bind_iff] at h
      obtain ⟨⟨x, left, hleft⟩, hnumbered, h⟩ := h
      obtain ⟨u, rfl, hu⟩ := exists_of_reads_readNumbered ⟨hleft, hnumbered⟩
      obtain ⟨cs, hread, rfl⟩ := h.of_map (g := (x :: ·)) fun _ _ _ => ⟨_, rfl⟩
      have hlt : left.length < ('\\' :: 'u' :: (u ++ left)).length := by
        simp only [List.length_cons, List.length_append]
        omega
      obtain ⟨t, rfl, ht⟩ := ih _ hlt hread rfl
      exact ⟨'\\' :: 'u' :: u ++ t, by simp, .numbered hu ht⟩
    · rename_i c t _
      split at h
      · exact absurd h not_reads_error
      · rename_i x hx
        obtain ⟨cs, hread, rfl⟩ := h.of_map (g := (x :: ·)) fun _ _ _ => ⟨_, rfl⟩
        obtain ⟨t, rfl, ht⟩ := ih _ (Nat.lt_succ_of_lt (Nat.lt_succ_self _)) hread rfl
        exact ⟨'\\' :: c :: t, rfl, .short hx ht⟩
    · rename_i c t hquote hend _ hescape
      have hplain : c ≠ '\\' := by
        intro hc
        cases t with
        | nil => exact hend hc rfl
        | cons d t => exact hescape d t hc rfl
      split at h
      · exact absurd h not_reads_error
      · rename_i hcontrol
        obtain ⟨cs, hread, rfl⟩ := h.of_map (g := (c :: ·)) fun _ _ _ => ⟨_, rfl⟩
        obtain ⟨t, rfl, ht⟩ := ih _ (by simp) hread rfl
        exact ⟨c :: t, rfl, .plain (Nat.not_lt.1 hcontrol) hquote hplain ht⟩

theorem WritesString.reads (h : WritesString t cs) : Reads (readString (t ++ '"' :: r)) cs r := by
  induction h with
  | nil =>
    rw [List.nil_append, readString]
    exact reads_ok_iff.2 ⟨rfl, rfl⟩
  | @plain c _ _ hcontrol hquote hescape _ ih =>
    rw [List.cons_append, readString, if_neg (Nat.not_lt.2 hcontrol)]
    · exact ih.map (g := (c :: ·)) fun _ _ _ => ⟨_, rfl⟩
    · exact hquote
    · exact fun hc => absurd hc hescape
    · exact fun _ hc => absurd hc hescape
    · exact fun _ _ hc => absurd hc hescape
  | @short c x _ _ hx _ ih =>
    have hc : c ≠ 'u' := by
      rintro rfl
      cases hx
    show Reads (readString ('\\' :: c :: _)) _ _
    rw [readString, hx]
    · exact ih.map (g := (x :: ·)) fun _ _ _ => ⟨_, rfl⟩
    · exact hc
  | @numbered u t _ x hx _ ih =>
    rw [show '\\' :: 'u' :: u ++ t ++ '"' :: r = '\\' :: 'u' :: (u ++ (t ++ '"' :: r)) by simp,
      readString]
    obtain ⟨hle, hnumbered⟩ := hx.reads
    exact reads_bind_iff.2 ⟨_, hnumbered, ih.map (g := (x :: ·)) fun _ _ _ => ⟨_, rfl⟩⟩

end Strings

end PromqlEditor.Json
