import IndentLint.Storage.Path
import Mathlib.Data.List.Lex
import Mathlib.Data.List.Sort
import Mathlib.Data.String.Basic

/-! The order of places. A list of places in ascending order holds each of them once, and is known by
what it holds. -/
namespace IndentLint.Storage.Place

theorem precedesLess (p q : Place) : precedes p q = true ↔ p < q := by
  induction p generalizing q with
  | nil => cases q <;> simp [precedes]
  | cons a p ih =>
    cases q with
    | nil => simp [precedes]
    | cons b q => simp [precedes, ih, List.cons_lt_cons_iff]

theorem insertMember {p x : Place} {places : List Place} : x ∈ insert p places ↔ x = p ∨ x ∈ places := by
  induction places with
  | nil => simp [insert]
  | cons q rest ih =>
    rw [insert]
    split
    · rename_i same
      simp [same]
    · split
      · simp
      · rw [List.mem_cons, ih, List.mem_cons, or_left_comm]

theorem sortMember {x : Place} {places : List Place} : x ∈ sort places ↔ x ∈ places := by
  induction places with
  | nil => rfl
  | cons p rest ih =>
    rw [sort, List.foldr_cons, insertMember, List.mem_cons]
    exact or_congr_right ih

def Ascending (places : List Place) : Prop := places.Pairwise (· < ·)

theorem insertAscending {p : Place} {places : List Place} (ascending : Ascending places) :
    Ascending (insert p places) := by
  induction places with
  | nil => simp [insert, Ascending]
  | cons q rest ih =>
    obtain ⟨first, later⟩ := List.pairwise_cons.mp ascending
    rw [insert]
    split
    · exact ascending
    rename_i different
    split
    · rename_i before
      have before := (precedesLess p q).mp before
      refine List.pairwise_cons.mpr ⟨fun x member => ?_, ascending⟩
      rcases List.mem_cons.mp member with rfl | behind
      · exact before
      · exact before.trans (first x behind)
    · rename_i notBefore
      have after : q < p := by
        have other := mt (precedesLess p q).mpr notBefore
        exact lt_of_le_of_ne (not_lt.mp other) (Ne.symm different)
      refine List.pairwise_cons.mpr ⟨fun x member => ?_, ih later⟩
      rcases insertMember.mp member with rfl | behind
      · exact after
      · exact first x behind

theorem sortAscending (places : List Place) : Ascending (sort places) := by
  induction places with
  | nil => exact .nil
  | cons p rest ih => exact insertAscending ih

theorem ascendingSame {places others : List Place} (ascending : Ascending places)
    (also : Ascending others) (same : ∀ x, x ∈ places ↔ x ∈ others) : places = others :=
  ascending.eq_of_mem_iff also same

end IndentLint.Storage.Place
