/-
Scans that look for the best item.
-/

import Mathlib.Data.List.MinMax
import Mathlib.Data.List.Sort

namespace Ngxora.Ranking

open List

variable {α R : Type} [LinearOrder R]

def keepBetter (score : α → Option R) (best : Option (R × α)) (item : α) : Option (R × α) :=
  match score item with
  | none => best
  | some found =>
    match best with
    | none => some (found, item)
    | some (previous, _) => if previous < found then some (found, item) else best

def firstBest (score : α → Option R) (items : List α) : Option (R × α) :=
  items.foldl (keepBetter score) none

/-- The first item of the greatest score. -/
structure IsFirstBest (score : α → Option R) (items : List α) (found : R) (item : α) : Prop where
  scored : score item = some found
  splits : ∃ before after, items = before ++ item :: after ∧
    (∀ other ∈ before, ∀ otherFound, score other = some otherFound → otherFound < found) ∧
    (∀ other ∈ after, ∀ otherFound, score other = some otherFound → otherFound ≤ found)

variable {score : α → Option R} {items : List α} {found : R} {item : α}

lemma IsFirstBest.le (best : IsFirstBest score items found item) {other : α} (mem : other ∈ items)
    {otherFound : R} (scored : score other = some otherFound) : otherFound ≤ found := by
  obtain ⟨before, after, rfl, smaller, notGreater⟩ := best.splits
  rcases mem_append.mp mem with early | late
  · exact (smaller other early otherFound scored).le
  · rcases mem_cons.mp late with same | later
    · rw [same, best.scored] at scored
      exact (Option.some.inj scored).ge
    · exact notGreater other later otherFound scored

lemma IsFirstBest.mem (best : IsFirstBest score items found item) : item ∈ items := by
  obtain ⟨before, after, rfl, _, _⟩ := best.splits
  exact mem_append_right _ mem_cons_self

def Keeps (score : α → Option R) (items : List α) : Option (R × α) → Prop
  | none => ∀ item ∈ items, score item = none
  | some (found, item) => IsFirstBest score items found item

lemma IsFirstBest.snoc (best : IsFirstBest score items found item) {last : α}
    (notGreater : ∀ lastFound, score last = some lastFound → lastFound ≤ found) :
    IsFirstBest score (items ++ [last]) found item := by
  obtain ⟨before, after, rfl, smaller, later⟩ := best.splits
  refine ⟨best.scored, before, after ++ [last], by simp, smaller, ?_⟩
  intro other mem
  rcases mem_append.mp mem with early | here
  · exact later other early
  · rwa [mem_singleton.mp here]

lemma keeps_step {best : Option (R × α)} (keeps : Keeps score items best) (item : α) :
    Keeps score (items ++ [item]) (keepBetter score best item) := by
  unfold keepBetter
  cases scored : score item with
  | none =>
    cases best with
    | none =>
      intro other mem
      rcases mem_append.mp mem with early | here
      · exact keeps other early
      · rwa [mem_singleton.mp here]
    | some kept =>
      exact IsFirstBest.snoc keeps fun found isFound => by
        rw [scored] at isFound
        cases isFound
  | some found =>
    cases best with
    | none =>
      refine ⟨scored, items, [], rfl, ?_, fun other mem => absurd mem not_mem_nil⟩
      intro other mem otherFound isFound
      rw [keeps other mem] at isFound
      cases isFound
    | some kept =>
      obtain ⟨previous, previousItem⟩ := kept
      by_cases better : previous < found
      · simp only [if_pos better]
        refine ⟨scored, items, [], rfl, ?_, fun other mem => absurd mem not_mem_nil⟩
        intro other mem otherFound isFound
        exact (IsFirstBest.le keeps mem isFound).trans_lt better
      · simp only [if_neg better]
        refine IsFirstBest.snoc keeps fun lastFound isFound => ?_
        rw [scored] at isFound
        cases isFound
        exact not_lt.mp better

lemma keeps_firstBest (score : α → Option R) (items : List α) :
    Keeps score items (firstBest score items) := by
  induction items using List.reverseRecOn with
  | nil => exact fun item mem => absurd mem not_mem_nil
  | append_singleton items item ih =>
    rw [firstBest, foldl_append, foldl_cons, foldl_nil]
    exact keeps_step ih item

lemma firstBest_eq_none : firstBest score items = none ↔ ∀ item ∈ items, score item = none := by
  have keeps := keeps_firstBest score items
  constructor
  · intro none
    rwa [none] at keeps
  · intro unscored
    cases out : firstBest score items with
    | none => rfl
    | some kept =>
      rw [out] at keeps
      have impossible := unscored kept.2 keeps.mem
      rw [keeps.scored] at impossible
      cases impossible

lemma isFirstBest_of_firstBest (out : firstBest score items = some (found, item)) :
    IsFirstBest score items found item := by
  have keeps := keeps_firstBest score items
  rwa [out] at keeps

lemma exists_greatest {items : List (R × α)} {holds : R × α → Prop}
    (here : ∃ item ∈ items, holds item) :
    ∃ item ∈ items, holds item ∧ ∀ other ∈ items, holds other → other.1 ≤ item.1 := by
  classical
  let held := items.filter fun item => decide (holds item)
  have inHeld {other : R × α} : other ∈ held ↔ other ∈ items ∧ holds other := by simp [held]
  cases greatest : held.argmax Prod.fst with
  | none =>
    obtain ⟨item, mem, itemHolds⟩ := here
    have bad : item ∈ held := inHeld.mpr ⟨mem, itemHolds⟩
    rw [argmax_eq_none.mp greatest] at bad
    cases bad
  | some best =>
    obtain ⟨mem, bestHolds⟩ := inHeld.mp (argmax_mem greatest)
    exact ⟨best, mem, bestHolds, fun other otherMember otherHolds =>
      le_of_mem_argmax (inHeld.mpr ⟨otherMember, otherHolds⟩) greatest⟩

def descending (items : List (R × α)) : List (R × α) :=
  items.insertionSort fun left right => right.1 ≤ left.1

lemma mem_descending {items : List (R × α)} {item : R × α} :
    item ∈ descending items ↔ item ∈ items :=
  (perm_insertionSort _ items).mem_iff

lemma pairwise_descending {items : List (R × α)} (nodup : (items.map Prod.fst).Nodup) :
    (descending items).Pairwise fun left right => right.1 < left.1 := by
  let above : R × α → R × α → Prop := fun left right => right.1 ≤ left.1
  have : Std.Total above := ⟨fun left right => le_total right.1 left.1⟩
  have : IsTrans (R × α) above := ⟨fun _ _ _ first second => second.trans first⟩
  have sorted : (descending items).Pairwise above := pairwise_insertionSort above items
  have scores : ((descending items).map Prod.fst).Nodup :=
    ((perm_insertionSort _ items).map Prod.fst).nodup_iff.mpr nodup
  have ne : (descending items).Pairwise fun left right => left.1 ≠ right.1 := pairwise_map.mp scores
  exact (sorted.and ne).imp fun both => lt_of_le_of_ne both.1 (Ne.symm both.2)

/-- The first that is accepted in a list sorted by decreasing scores. -/
lemma exists_split_iff {items : List (R × α)}
    (sorted : items.Pairwise fun left right => right.1 < left.1) {passed ok : R × α → Prop} :
    (∃ before item after, items = before ++ item :: after ∧
        (∀ other ∈ before, passed other) ∧ ok item) ↔
      ∃ item ∈ items, ok item ∧ ∀ other ∈ items, item.1 < other.1 → passed other := by
  constructor
  · rintro ⟨before, item, after, rfl, allPassed, isAccepted⟩
    refine ⟨item, mem_append_right _ mem_cons_self, isAccepted, ?_⟩
    obtain ⟨_, fromItem, _⟩ := pairwise_append.mp sorted
    intro other mem greater
    rcases mem_append.mp mem with early | late
    · exact allPassed other early
    · rcases mem_cons.mp late with same | later
      · rw [same] at greater
        exact absurd greater (lt_irrefl _)
      · exact absurd greater (rel_of_pairwise_cons fromItem later).not_gt
  · rintro ⟨item, mem, isAccepted, greaterPassed⟩
    obtain ⟨before, after, rfl⟩ := append_of_mem mem
    refine ⟨before, item, after, rfl, ?_, isAccepted⟩
    obtain ⟨_, _, across⟩ := pairwise_append.mp sorted
    intro other early
    exact greaterPassed other (mem_append_left _ early) (across other early item mem_cons_self)

end Ngxora.Ranking
