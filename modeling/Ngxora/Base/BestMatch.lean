/-
The value under the key of the greatest rank.
-/

import Mathlib.Data.List.MinMax
import Ngxora.Base.Table

namespace Ngxora.Table

open List Option

variable {K V R : Type}

def ranked (rank : K → Option R) (table : Table K V) : List (R × V) :=
  table.entries.filterMap fun entry => (rank entry.1).map fun found => (found, entry.2)

def bestMatch [LinearOrder R] (rank : K → Option R) (table : Table K V) : Option V :=
  ((ranked rank table).reverse.argmax Prod.fst).map Prod.snd

variable [DecidableEq K] {rank : K → Option R} {table : Table K V}

variable {value : V}

lemma mem_ranked {found : R} : (found, value) ∈ ranked rank table ↔
    ∃ key, table.lookup key = some value ∧ rank key = some found := by
  simp only [ranked, mem_filterMap, map_eq_some_iff, Prod.mk.injEq]
  constructor
  · rintro ⟨⟨key, _⟩, mem, _, isRank, rfl, rfl⟩
    exact ⟨key, mem_entries_iff.mp mem, isRank⟩
  · rintro ⟨key, here, isRank⟩
    exact ⟨⟨key, value⟩, mem_entries_iff.mpr here, found, isRank, rfl, rfl⟩

omit [DecidableEq K] in
lemma ranked_distinct
    (nodup : ∀ left right found, rank left = some found → rank right = some found → left = right)
    (table : Table K V) : ((ranked rank table).map Prod.fst).Nodup := by
  rw [ranked, map_filterMap]
  have keys : (table.entries.map Sigma.fst).Nodup := table.keys_nodup
  have pairwise : table.entries.Pairwise fun left right => left.1 ≠ right.1 := pairwise_map.mp keys
  refine List.Pairwise.filterMap _ ?_ pairwise
  intro left right differ leftAt leftRank rightAt rightRank same
  simp only [Option.map_map, Option.map_eq_some_iff, Function.comp_apply] at leftRank rightRank
  obtain ⟨found, isRank, rfl⟩ := leftRank
  obtain ⟨other, otherRank, rfl⟩ := rightRank
  exact differ (nodup _ _ _ isRank (same ▸ otherRank))

variable [LinearOrder R]

/-- The key has the greatest rank of those that have one. -/
structure IsBest (rank : K → Option R) (table : Table K V) (key : K) (value : V) : Prop where
  present : table.lookup key = some value
  greatest : ∃ found, rank key = some found ∧
    ∀ other ∈ table, ∀ otherFound, rank other = some otherFound → otherFound ≤ found

lemma exists_isBest_of_bestMatch (best : bestMatch rank table = some value) :
    ∃ key, IsBest rank table key value := by
  obtain ⟨⟨found, _⟩, isMax, rfl⟩ := map_eq_some_iff.mp best
  obtain ⟨key, here, isRank⟩ := mem_ranked.mp (mem_reverse.mp (argmax_mem isMax))
  refine ⟨key, here, found, isRank, ?_⟩
  intro other otherPresent otherFound otherRank
  obtain ⟨otherValue, lookupOther⟩ := mem_iff_lookup.mp otherPresent
  exact le_of_mem_argmax (mem_reverse.mpr (mem_ranked.mpr ⟨other, lookupOther, otherRank⟩)) isMax

lemma bestMatch_eq_none : bestMatch rank table = none ↔ ∀ key ∈ table, rank key = none := by
  rw [bestMatch, map_eq_none_iff, argmax_eq_none, reverse_eq_nil_iff, eq_nil_iff_forall_not_mem]
  constructor
  · intro empty key here
    obtain ⟨value, found⟩ := mem_iff_lookup.mp here
    cases isRank : rank key with
    | none => rfl
    | some other => exact absurd (mem_ranked.mpr ⟨key, found, isRank⟩) (empty (other, value))
  · rintro unranked ⟨found, value⟩ mem
    obtain ⟨key, here, isRank⟩ := mem_ranked.mp mem
    rw [unranked key (mem_iff_lookup.mpr ⟨value, here⟩)] at isRank
    cases isRank

lemma IsBest.unique
    (nodup : ∀ left right found, rank left = some found → rank right = some found → left = right)
    {left right : K} {leftValue rightValue : V} (leftBest : IsBest rank table left leftValue)
    (rightBest : IsBest rank table right rightValue) : left = right ∧ leftValue = rightValue := by
  obtain ⟨leftFound, leftRank, leftGreatest⟩ := leftBest.greatest
  obtain ⟨rightFound, rightRank, rightGreatest⟩ := rightBest.greatest
  have same : leftFound = rightFound := le_antisymm
    (rightGreatest left (mem_iff_lookup.mpr ⟨_, leftBest.present⟩) _ leftRank)
    (leftGreatest right (mem_iff_lookup.mpr ⟨_, rightBest.present⟩) _ rightRank)
  have keys := nodup left right leftFound leftRank (same ▸ rightRank)
  subst keys
  exact ⟨rfl, Option.some.inj (leftBest.present.symm.trans rightBest.present)⟩

/-- When ranks tell keys apart the iteration order does not matter. -/
lemma bestMatch_eq_some
    (nodup : ∀ left right found, rank left = some found → rank right = some found → left = right) :
    bestMatch rank table = some value ↔ ∃ key, IsBest rank table key value := by
  constructor
  · exact exists_isBest_of_bestMatch
  · rintro ⟨key, best⟩
    cases out : bestMatch rank table with
    | none =>
      obtain ⟨found, isRank, _⟩ := best.greatest
      rw [bestMatch_eq_none.mp out key (mem_iff_lookup.mpr ⟨_, best.present⟩)] at isRank
      cases isRank
    | some other =>
      obtain ⟨otherKey, otherBest⟩ := exists_isBest_of_bestMatch out
      rw [(otherBest.unique nodup best).2]

end Ngxora.Table
