import Mathlib.Data.String.Basic
import PromqlEditor.Json.Grammar

/-!
# Values of texts are ordered

The members of an object may stand in any order in a text, and a key may be repeated. Putting them
one by one where they belong keeps the keys in increasing order (`Value.ordered_ofMembers`), so
every value that a text writes is ordered through and through (`Writes.ordered`).
-/

namespace PromqlEditor.Json

namespace Value

/-! ## Objects -/

variable {key : String} {v : Value} {ms : List (String × Value)}

theorem mem_insertMember {m : String × Value} (h : m ∈ insertMember key v ms) :
    m = (key, v) ∨ m ∈ ms := by
  fun_induction insertMember key v ms with
  | case1 => simpa using h
  | case2 k u rest hlt => simpa using h
  | case3 u rest hlt =>
    rcases List.mem_cons.1 h with rfl | h
    · exact Or.inl rfl
    · exact Or.inr (List.mem_cons_of_mem _ h)
  | case4 k u rest hlt hne ih =>
    rcases List.mem_cons.1 h with rfl | h
    · exact Or.inr List.mem_cons_self
    · exact (ih h).imp_right (List.mem_cons_of_mem _)

theorem pairwise_insertMember (h : (ms.map Prod.fst).Pairwise (· < ·)) :
    ((insertMember key v ms).map Prod.fst).Pairwise (· < ·) := by
  fun_induction insertMember key v ms with
  | case1 => simp
  | case2 k u rest hlt =>
    rw [List.map_cons, List.pairwise_cons]
    refine ⟨fun b hb => ?_, h⟩
    rcases List.mem_cons.1 hb with rfl | hb
    · exact hlt
    · exact hlt.trans ((List.pairwise_cons.1 h).1 b hb)
  | case3 u rest hlt => exact h
  | case4 k u rest hlt hne ih =>
    rw [List.map_cons, List.pairwise_cons, List.forall_mem_map] at h ⊢
    refine ⟨fun m hm => ?_, ih h.2⟩
    rcases mem_insertMember hm with rfl | hm
    · exact lt_of_le_of_ne (not_lt.1 hlt) (Ne.symm hne)
    · exact h.1 m hm

theorem ordered_insertMember (hms : (object ms).Ordered) (hv : v.Ordered) :
    (object (insertMember key v ms)).Ordered := by
  refine ⟨pairwise_insertMember hms.1, membersOrdered_iff.2 fun m hm => ?_⟩
  rcases mem_insertMember hm with rfl | hm
  · exact hv
  · exact membersOrdered_iff.1 hms.2 m hm

/-- An object with ordered members is ordered, however they come. -/
theorem ordered_ofMembers (h : MembersOrdered ms) : (ofMembers ms).Ordered := by
  have hempty : (object []).Ordered := ⟨List.Pairwise.nil, trivial⟩
  exact List.foldlRecOn (motive := fun members => (object members).Ordered) ms _ hempty
    fun _ hmembers m hm => ordered_insertMember hmembers (membersOrdered_iff.1 h m hm)

end Value

/-! ## Values -/

theorem ordered_wholeNumber (negative : Bool) (n : Nat) : (wholeNumber negative n).Ordered := by
  unfold wholeNumber
  split
  · trivial
  · split <;> trivial

section Written

variable {negative down : Bool} {significand n dropped : Nat} {exponent : Int} {t : Text}
  {v : Value}

theorem IsRaised.ordered (h : IsRaised negative significand exponent down n v) : v.Ordered := by
  cases h <;> trivial

theorem WritesScale.ordered (h : WritesScale negative significand exponent t v) : v.Ordered := by
  cases h with
  | none _ => trivial
  | exponent _ _ _ hv => exact hv.ordered

theorem WritesNumberEnd.ordered (h : WritesNumberEnd negative n dropped t v) : v.Ordered := by
  cases h with
  | whole _ => exact ordered_wholeNumber negative n
  | scale _ hscale => exact hscale.ordered
  | fraction _ _ hscale => exact hscale.ordered

theorem WritesNumber.ordered (h : WritesNumber negative t v) : v.Ordered := by
  cases h with
  | mk _ _ hend => exact hend.ordered

/-- A value that a text writes is ordered, and so is everything in it. -/
theorem Writes.ordered {depth : Nat} (h : Writes depth t v) : v.Ordered := by
  induction h with
  | null => trivial
  | isTrue => trivial
  | isFalse => trivial
  | number ht => exact ht.ordered
  | negative ht => exact ht.ordered
  | text _ => trivial
  | emptyList _ => trivial
  | list _ _ ih => exact Value.allOrdered_iff.2 (List.forall_mem_map.2 ih)
  | emptyObject _ => exact Value.ordered_ofMembers trivial
  | object _ _ _ ih =>
    exact Value.ordered_ofMembers (Value.membersOrdered_iff.2 (List.forall_mem_map.2 ih))
  | padded _ _ _ ih => exact ih

end Written

end PromqlEditor.Json
