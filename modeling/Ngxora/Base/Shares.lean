/-
Choosing by weight.
-/

import Mathlib.Algebra.BigOperators.Group.List.Basic
import Mathlib.Algebra.GroupWithZero.Nat
import Mathlib.Data.Nat.Count

namespace Ngxora.Shares

open List

/-- Consecutive slots are shared out in the order of the weights. -/
def place (slot : Nat) : List Nat → Option Nat
  | [] => none
  | weight :: rest =>
    if slot < weight then some 0 else (place (slot - weight) rest).map (· + 1)

variable {weights : List Nat} {index weight : Nat}

lemma exists_place {slot : Nat} (below : slot < weights.sum) :
    ∃ index weight, place slot weights = some index ∧ weights[index]? = some weight ∧
      0 < weight := by
  induction weights generalizing slot with
  | nil => simp at below
  | cons first rest ih =>
    rw [place]
    by_cases inside : slot < first
    · exact ⟨0, first, if_pos inside, rfl, by omega⟩
    · rw [sum_cons] at below
      obtain ⟨index, weight, chosen, found, pos⟩ := ih (show slot - first < rest.sum by omega)
      exact ⟨index + 1, weight, by rw [if_neg inside, chosen]; rfl, found, pos⟩

lemma count_place (found : weights[index]? = some weight) :
    Nat.count (fun slot => place slot weights = some index) weights.sum = weight := by
  induction weights generalizing index with
  | nil => cases found
  | cons first rest ih =>
    have later : ∀ slot, place (first + slot) (first :: rest) = (place slot rest).map (· + 1) := by
      intro slot
      rw [place, if_neg (by omega), Nat.add_sub_cancel_left]
    rw [sum_cons, Nat.count_add]
    simp only [later]
    cases index with
    | zero =>
      cases found
      have inside : Nat.count (fun slot => place slot (weight :: rest) = some 0) weight =
          weight :=
        Nat.count_iff_forall.mpr fun slot below => if_pos below
      rw [inside, Nat.count_iff_forall_not.mpr, Nat.add_zero]
      simp
    | succ index =>
      have outside : Nat.count (fun slot => place slot (first :: rest) = some (index + 1))
          first = 0 := by
        refine Nat.count_iff_forall_not.mpr fun slot below => ?_
        rw [place, if_pos below]
        simp
      have shifted : (fun slot => (place slot rest).map (· + 1) = some (index + 1)) =
          fun slot => place slot rest = some index := by
        funext slot
        simp
      simp only [outside, shifted, Nat.zero_add]
      exact ih found

lemma count_turn (holds : Nat → Prop) [DecidablePred holds] (start turn : Nat) :
    Nat.count (fun step => holds ((start + step) % turn)) turn = Nat.count holds turn := by
  have ahead := Nat.count_add (fun slot => holds (slot % turn)) start turn
  have around := Nat.count_add (fun slot => holds (slot % turn)) turn start
  simp only [Nat.add_mod_left] at around
  have residues : Nat.count (fun slot => holds (slot % turn)) turn = Nat.count holds turn :=
    countP_congr fun slot mem => by
      simp only [Nat.mod_eq_of_lt (mem_range.mp mem)]
  rw [Nat.add_comm turn start] at around
  omega

/-- In a full turn, from any start, every index is chosen as often as its weight says. -/
lemma count_place_turn (found : weights[index]? = some weight) (start : Nat) :
    Nat.count (fun step => place ((start + step) % weights.sum) weights = some index) weights.sum =
      weight :=
  (count_turn _ start weights.sum).trans (count_place found)

end Ngxora.Shares
