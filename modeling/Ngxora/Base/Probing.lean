/-
Probing for values that are not taken.
-/

import Mathlib.Data.List.Nodup
import Mathlib.Data.List.Perm.Subperm
import Mathlib.Data.List.Range

namespace Ngxora.Probing

open List

variable {α : Type} (next : α → α)

/-- The first value that is not used, from `start` on. -/
def IsFirstFree (used : List α) (start found : α) : Prop :=
  ∃ steps, found = next^[steps] start ∧ found ∉ used ∧
    ∀ earlier < steps, next^[earlier] start ∈ used

/-- Every item takes the first value from its own on that no item before it took. -/
inductive Probed : List α → List α → List α → Prop
  | nil (used : List α) : Probed used [] []
  | cons (used : List α) (start : α) (starts : List α) (found : α) (taken : List α)
      (free : IsFirstFree next used start found) (rest : Probed (found :: used) starts taken) :
      Probed used (start :: starts) (found :: taken)

variable {next}

variable {used : List α} {start : α}

lemma steps_le_length {steps : Nat} (unused : next^[steps] start ∉ used)
    (old : ∀ step < steps, next^[step] start ∈ used) : steps ≤ used.length := by
  have passed : ((List.range steps).map fun step => next^[step] start).Nodup := by
    rw [nodup_map_iff_inj_on nodup_range]
    have nodup : ∀ left right, left < right → right < steps →
        next^[left] start ≠ next^[right] start := by
      intro left right less small same
      -- A repeated value repeats what follows, and so the first free value was passed over.
      apply unused
      have ahead : next^[steps] start = next^[steps - right + left] start := by
        rw [Function.iterate_add_apply, same, ← Function.iterate_add_apply,
          Nat.sub_add_cancel small.le]
      rw [ahead]
      exact old _ (by omega)
    intro left leftSmall right rightSmall same
    rcases lt_trichotomy left right with less | equal | greater
    · exact absurd same (nodup left right less (mem_range.mp rightSmall))
    · exact equal
    · exact absurd same.symm (nodup right left greater (mem_range.mp leftSmall))
  have inUsed : (List.range steps).map (fun step => next^[step] start) ⊆ used := by
    intro value mem
    obtain ⟨step, small, rfl⟩ := mem_map.mp mem
    exact old step (mem_range.mp small)
  have few := (passed.subperm inUsed).length_le
  rwa [length_map, length_range] at few

end Ngxora.Probing
