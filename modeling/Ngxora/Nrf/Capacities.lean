/-
Capacities as weights of a balancer: a share of 65535 by largest remainders.
-/

import Mathlib.Algebra.Order.Field.Basic
import Mathlib.Tactic.FieldSimp
import Ngxora.Base.Apportion
import Ngxora.Nrf.Topology

namespace Ngxora.Nrf

open Apportion List Option Results

/-- What an operation of fixed width ends with when its result does not fit. -/
inductive Fault where
  | overflow
  | underflow
  | saturation
  | outOfBounds
  deriving DecidableEq

def u64 (value : Nat) : Except Fault Nat :=
  if value < 2 ^ 64 then .ok value else .error .overflow

def subU64 (left right : Nat) : Except Fault Nat :=
  if right ≤ left then .ok (left - right) else .error .underflow

def narrowU16 (value : Nat) : Except Fault UInt16 :=
  if value < 2 ^ 16 then .ok (UInt16.ofNat value) else .error .saturation

def succU16 (value : UInt16) : Except Fault UInt16 :=
  if value.toNat + 1 < 2 ^ 16 then .ok (UInt16.ofNat (value.toNat + 1)) else .error .saturation

structure Shares where
  weights : List UInt16 := []
  remainders : List (Nat ×ₗ Nat) := []
  assigned : Nat := 0

def shareStep (remaining total : Nat) (shares : Shares) (entry : UInt16 × Nat) :
    Except Fault Shares := do
  let scaled ← u64 (entry.1.toNat * remaining)
  let weight ← u64 (1 + scaled / total)
  let narrow ← narrowU16 weight
  let assigned ← u64 (shares.assigned + weight)
  pure
    { weights := shares.weights ++ [narrow]
      remainders := shares.remainders ++ [toLex (scaled % total, entry.2)]
      assigned }

def raiseStep (weights : List UInt16) (entry : Nat ×ₗ Nat) : Except Fault (List UInt16) := do
  let weight ← orFail weights[(ofLex entry).2]? .outOfBounds
  pure (weights.set (ofLex entry).2 (← succU16 weight))

def normalizedCapacitiesChecked (capacities : List UInt16) :
    Except Fault (Except String (List UInt16)) :=
  let limit := 65535
  if capacities = [] then .ok (.ok [])
  else if (0 : UInt16) ∈ capacities then
    .ok (.error "positive-capacity NRF pool contains a zero capacity")
  else if capacities.length > limit then
    .ok (.error s!"NRF priority tier contains more than {limit} services")
  else do
    let total ← capacities.foldlM (fun sum capacity => u64 (sum + capacity.toNat)) 0
    if total ≤ limit then pure (.ok capacities)
    else do
      let remaining ← subU64 limit capacities.length
      let shares ← capacities.zipIdx.foldlM (shareStep remaining total) {}
      let spare ← subU64 limit shares.assigned
      let weights ← ((shares.remainders.insertionSort (· ≥ ·)).take spare).foldlM raiseStep
        shares.weights
      pure (.ok weights)

example : normalizedCapacitiesChecked [65535, 65535, 1] = .ok (.ok [32767, 32767, 1]) := by
  decide +kernel

private lemma u64_eq_ok {value : Nat} (fits : value < 2 ^ 64) : u64 value = .ok value := if_pos fits

private lemma subU64_eq_ok {left right : Nat} (fits : right ≤ left) :
    subU64 left right = .ok (left - right) := if_pos fits

section Large

variable (capacities : List UInt16)

def capacityTotal : Nat := (capacities.map UInt16.toNat).sum

def scaledCapacities : List Nat :=
  capacities.map fun capacity => capacity.toNat * (65535 - capacities.length)

def baseWeights : List Nat :=
  (scaledCapacities capacities).map fun value => 1 + value / capacityTotal capacities

def spareUnits : Nat := 65535 - (baseWeights capacities).sum

def raisedPositions : List Nat :=
  raised (scaledCapacities capacities) (capacityTotal capacities) (spareUnits capacities)

def finalWeight (entry : Nat × Nat) : Nat :=
  entry.1 + if entry.2 ∈ raisedPositions capacities then 1 else 0

private lemma scaledCapacities_sum : (scaledCapacities capacities).sum =
    capacityTotal capacities * (65535 - capacities.length) := by
  rw [scaledCapacities, capacityTotal, ← sum_map_mul_right]

private lemma baseWeights_sum : (baseWeights capacities).sum = capacities.length +
    ((scaledCapacities capacities).map (· / capacityTotal capacities)).sum := by
  rw [baseWeights, sum_map_add]
  simp [scaledCapacities, Function.comp_def]

variable {capacity : UInt16} {position : Nat}
variable {caps : List UInt16}

private lemma le_capacityTotal (mem : capacity ∈ caps) : capacity.toNat ≤ capacityTotal caps :=
  single_le_sum (fun _ _ => Nat.zero_le _) _ (mem_map_of_mem mem)

variable (large : 65535 < capacityTotal caps)

include large

private lemma quotients_le : ((scaledCapacities caps).map (· / capacityTotal caps)).sum ≤
    65535 - caps.length := by
  have split := sum_div_add_sum_mod (scaledCapacities caps)
    (capacityTotal caps)
  rw [scaledCapacities_sum] at split
  apply Nat.le_of_mul_le_mul_left (Nat.le.intro split)
  omega

private lemma baseWeights_sum_le (short : caps.length ≤ 65535) :
    (baseWeights caps).sum ≤ 65535 := by
  have quotients := quotients_le large
  rw [baseWeights_sum]
  omega

private lemma spareUnits_exact : capacityTotal caps * spareUnits caps =
    ((scaledCapacities caps).map (· % capacityTotal caps)).sum := by
  have split := sum_div_add_sum_mod (scaledCapacities caps)
    (capacityTotal caps)
  have quotients := quotients_le large
  have left : spareUnits caps = 65535 - caps.length -
      ((scaledCapacities caps).map (· / capacityTotal caps)).sum := by
    rw [spareUnits, baseWeights_sum]
    omega
  rw [left, Nat.mul_sub, ← scaledCapacities_sum]
  omega

private lemma raised_remainder_pos {value : Nat}
    (found : (scaledCapacities caps)[position]? = some value)
    (isRaised : position ∈ raisedPositions caps) : 0 < value % capacityTotal caps :=
  remainder_pos_of_raised (by omega) (spareUnits_exact large) found isRaised

omit large in
private lemma quotient_le (mem : capacity ∈ caps) :
    capacity.toNat * (65535 - caps.length) / capacityTotal caps ≤
      65535 - caps.length := by
  have bound := Nat.mul_le_mul_right (65535 - caps.length) (le_capacityTotal mem)
  exact Nat.div_le_of_le_mul bound

private lemma finalWeight_le (found : caps[position]? = some capacity) : finalWeight caps
    (1 + capacity.toNat * (65535 - caps.length) / capacityTotal caps, position) ≤
      65535 := by
  have mem : capacity ∈ caps := mem_of_getElem? found
  have ne : 1 ≤ caps.length := length_pos_of_mem mem
  have quotient := quotient_le mem
  unfold finalWeight
  split
  next isRaised =>
    have scaled : (scaledCapacities caps)[position]? =
        some (capacity.toNat * (65535 - caps.length)) := by
      simp [scaledCapacities, found]
    have remainder := raised_remainder_pos large scaled isRaised
    have notWhole : capacity.toNat * (65535 - caps.length) / capacityTotal caps ≠
        65535 - caps.length := by
      intro whole
      have split := Nat.div_add_mod (capacity.toNat * (65535 - caps.length))
        (capacityTotal caps)
      have bound := Nat.mul_le_mul_right (65535 - caps.length) (le_capacityTotal mem)
      rw [whole] at split
      omega
    simp only
    omega
  next =>
    simp only
    omega

omit large in
private lemma baseWeights_getElem? (position : Nat) :
    (baseWeights caps)[position]? = caps[position]?.map fun capacity =>
      1 + capacity.toNat * (65535 - caps.length) / capacityTotal caps := by
  rw [baseWeights, scaledCapacities, List.getElem?_map, List.getElem?_map, Option.map_map]
  rfl

private lemma finalWeight_le_of_found {weight : Nat}
    (found : (baseWeights caps)[position]? = some weight) :
    finalWeight caps (weight, position) ≤ 65535 := by
  rw [baseWeights_getElem?] at found
  obtain ⟨capacity, isCapacity, rfl⟩ := map_eq_some_iff.mp found
  exact finalWeight_le large isCapacity

end Large

def finalWeights (capacities : List UInt16) : List UInt16 :=
  (baseWeights capacities).zipIdx.map fun entry => UInt16.ofNat (finalWeight capacities entry)

/-- The capacities the program passes to the loops. -/
structure Normalizable (capacities : List UInt16) : Prop where
  nonempty : capacities ≠ []
  short : capacities.length ≤ 65535
  positive : ∀ capacity ∈ capacities, 0 < capacity

section Normalizable

variable {caps : List UInt16} (norm : Normalizable caps)

include norm

private lemma Normalizable.noZero : (0 : UInt16) ∉ caps := fun mem =>
  absurd (norm.positive 0 mem) (UInt16.lt_irrefl 0)

private lemma normalizedCapacities_small (small : capacityTotal caps ≤ 65535) :
    normalizedCapacities caps = .ok caps := by
  have short := norm.short
  unfold normalizedCapacities
  simp only
  rw [if_neg norm.nonempty, if_neg norm.noZero, if_neg (by omega)]
  exact if_pos small

private lemma normalizedCapacities_large (large : 65535 < capacityTotal caps) :
    normalizedCapacities caps = .ok (finalWeights caps) := by
  have short := norm.short
  unfold normalizedCapacities
  simp only
  rw [if_neg norm.nonempty, if_neg norm.noZero, if_neg (by omega)]
  refine (if_neg (not_le.mpr large)).trans ?_
  refine congrArg Except.ok (map_congr_left fun entry mem => ?_)
  have bound := finalWeight_le_of_found large (mem_zipIdx_iff_getElem?.mp mem)
  change (if entry.2 ∈ raisedPositions caps then _ else _) = _
  unfold finalWeight at bound ⊢
  have narrow : min entry.1 65535 = entry.1 := Nat.min_eq_left (by omega)
  rw [narrow]
  split
  next isRaised =>
    rw [if_pos isRaised] at bound
    have fits : entry.1 < UInt16.size := by
      change entry.1 < 65536
      omega
    rw [UInt16.toNat_ofNat_of_lt' fits, Nat.min_eq_left bound]
  next => rw [Nat.add_zero]

lemma exists_weights : ∃ weights, normalizedCapacities caps = .ok weights ∧
    weights.length = caps.length := by
  by_cases small : capacityTotal caps ≤ 65535
  · exact ⟨caps, normalizedCapacities_small norm small, rfl⟩
  · refine ⟨finalWeights caps, normalizedCapacities_large norm (not_le.mp small), ?_⟩
    simp [finalWeights, baseWeights, scaledCapacities]

end Normalizable

lemma normalizedCapacities_long {weights : List UInt16} (long : 65535 < caps.length) :
    normalizedCapacities caps ≠ .ok weights := by
  unfold normalizedCapacities
  simp only
  rw [if_neg (by rintro rfl; simp at long)]
  split
  · nofun
  · nofun

private lemma total_checked (caps : List UInt16) (sum : Nat)
    (fits : sum + capacityTotal caps < 2 ^ 64) :
    caps.foldlM (fun sum capacity => u64 (sum + capacity.toNat)) sum =
      .ok (sum + capacityTotal caps) := by
  induction caps generalizing sum with
  | nil => rfl
  | cons capacity rest ih =>
    have total : capacityTotal (capacity :: rest) = capacity.toNat + capacityTotal rest := by
      simp [capacityTotal]
    rw [total] at fits ⊢
    rw [foldlM_cons, u64_eq_ok (by omega), ok_bind, ih _ (by omega), Nat.add_assoc]

def shareOf (remaining total : Nat) (capacity : UInt16) : Nat :=
  1 + capacity.toNat * remaining / total

private lemma share_checked {remaining total : Nat} (bound : remaining ≤ 65535)
    (entries : List (UInt16 × Nat)) (shares : Shares)
    (narrow : ∀ entry ∈ entries, shareOf remaining total entry.1 < 2 ^ 16)
    (fits : shares.assigned + (entries.map fun entry => shareOf remaining total entry.1).sum <
      2 ^ 64) : entries.foldlM (shareStep remaining total) shares =
      .ok { weights := shares.weights ++
              entries.map fun entry => UInt16.ofNat (shareOf remaining total entry.1)
            remainders := shares.remainders ++
              entries.map fun entry => toLex (entry.1.toNat * remaining % total, entry.2)
            assigned := shares.assigned +
              (entries.map fun entry => shareOf remaining total entry.1).sum } := by
  induction entries generalizing shares with
  | nil => simp
  | cons entry rest ih =>
    obtain ⟨here, later⟩ := forall_mem_cons.mp narrow
    rw [map_cons, sum_cons] at fits
    have product : entry.1.toNat * remaining < 2 ^ 64 := by
      have small := Nat.mul_le_mul entry.1.toNat_lt.le bound
      omega
    have step : shareStep remaining total shares entry =
        .ok { weights := shares.weights ++ [UInt16.ofNat (shareOf remaining total entry.1)]
              remainders := shares.remainders ++
                [toLex (entry.1.toNat * remaining % total, entry.2)]
              assigned := shares.assigned + shareOf remaining total entry.1 } := by
      have weight : u64 (1 + entry.1.toNat * remaining / total) =
          .ok (shareOf remaining total entry.1) := u64_eq_ok (here.trans (by decide))
      have narrowed : narrowU16 (shareOf remaining total entry.1) =
          .ok (UInt16.ofNat (shareOf remaining total entry.1)) := if_pos here
      rw [shareStep, u64_eq_ok product, ok_bind, weight, ok_bind, narrowed, ok_bind,
        u64_eq_ok (by omega), ok_bind]
      rfl
    rw [foldlM_cons, step, ok_bind, ih _ later (by simp only; omega)]
    simp [Nat.add_assoc]

private lemma raise_checked (entries : List (Nat ×ₗ Nat)) (weights : List UInt16)
    (nodup : (entries.map fun entry => (ofLex entry).2).Nodup)
    (room : ∀ entry ∈ entries, ∃ weight, weights[(ofLex entry).2]? = some weight ∧
      weight.toNat + 1 < 2 ^ 16) : entries.foldlM raiseStep weights =
      .ok (weights.zipIdx.map fun weight => UInt16.ofNat (weight.1.toNat +
        if weight.2 ∈ entries.map (fun entry => (ofLex entry).2) then 1 else 0)) := by
  induction entries generalizing weights with
  | nil => simp
  | cons entry rest ih =>
    obtain ⟨⟨weight, found, fits⟩, later⟩ := forall_mem_cons.mp room
    rw [map_cons, nodup_cons] at nodup
    have step : raiseStep weights entry =
        .ok (weights.set (ofLex entry).2 (UInt16.ofNat (weight.toNat + 1))) := by
      rw [raiseStep, found, orFail_some, ok_bind, succU16, if_pos fits]
      rfl
    have laterRoom : ∀ other ∈ rest, ∃ next, (weights.set (ofLex entry).2
        (UInt16.ofNat (weight.toNat + 1)))[(ofLex other).2]? = some next ∧
          next.toNat + 1 < 2 ^ 16 := by
      intro other mem
      have differ : (ofLex entry).2 ≠ (ofLex other).2 := fun same =>
        nodup.1 (same ▸ mem_map_of_mem mem)
      rw [getElem?_set_ne differ]
      exact later other mem
    rw [foldlM_cons, step, ok_bind, ih _ nodup.2 laterRoom]
    refine congrArg Except.ok (ext_getElem? fun position => ?_)
    rw [getElem?_map, getElem?_map, getElem?_zipIdx, getElem?_zipIdx]
    by_cases here : (ofLex entry).2 = position
    · have inside : (ofLex entry).2 < weights.length := (List.getElem?_eq_some_iff.mp found).1
      rw [← here, getElem?_set_self inside, found]
      simp [nodup.1]
    · have later : position ∈ (entry :: rest).map (fun entry => (ofLex entry).2) ↔
          position ∈ rest.map fun entry => (ofLex entry).2 := by
        rw [map_cons, mem_cons, or_iff_right (Ne.symm here)]
      rw [getElem?_set_ne here]
      cases weights[position]? with
      | none => rfl
      | some other => simp only [map_some, Nat.zero_add, later]

private lemma capacityTotal_lt (short : caps.length ≤ 65535) : capacityTotal caps < 2 ^ 64 := by
  have each : ∀ num ∈ caps.map UInt16.toNat, num ≤ 65535 := by
    intro num mem
    obtain ⟨capacity, _, rfl⟩ := mem_map.mp mem
    exact Nat.le_of_lt_succ capacity.toNat_lt
  have bound := sum_le_card_nsmul _ _ each
  rw [length_map, nsmul_eq_mul, Nat.cast_id] at bound
  have product := Nat.mul_le_mul_right 65535 short
  exact lt_of_le_of_lt (bound.trans product) (by decide)

private lemma zipIdx_shares (caps : List UInt16) : (caps.zipIdx.map fun entry =>
    shareOf (65535 - caps.length) (capacityTotal caps) entry.1) =
      baseWeights caps := by
  have firsts := congrArg (List.map
    (shareOf (65535 - caps.length) (capacityTotal caps)))
      (zipIdx_map_fst 0 caps)
  rw [List.map_map] at firsts
  rwa [baseWeights, scaledCapacities, List.map_map]

private lemma shares_checked (norm : Normalizable caps)
    (large : 65535 < capacityTotal caps) : caps.zipIdx.foldlM
        (shareStep (65535 - caps.length) (capacityTotal caps)) {} =
      .ok { weights := (baseWeights caps).map UInt16.ofNat
            remainders := (scaledCapacities caps).zipIdx.map fun entry =>
              toLex (entry.1 % capacityTotal caps, entry.2)
            assigned := (baseWeights caps).sum } := by
  have ne : 1 ≤ caps.length := length_pos_iff.mpr norm.nonempty
  have narrow : ∀ entry ∈ caps.zipIdx,
      shareOf (65535 - caps.length) (capacityTotal caps) entry.1 < 2 ^ 16 := by
    intro entry mem
    have quotient := quotient_le (fst_mem_of_mem_zipIdx mem)
    unfold shareOf
    omega
  have assigned := baseWeights_sum_le large norm.short
  have looped := share_checked (Nat.sub_le _ _) caps.zipIdx {} narrow
    (by rw [zipIdx_shares]; simp only; omega)
  rw [zipIdx_shares] at looped
  rw [looped]
  refine congrArg Except.ok ?_
  simp only [nil_append, Nat.zero_add, Shares.mk.injEq, and_true]
  constructor
  · rw [← zipIdx_shares, List.map_map]
    rfl
  · rw [scaledCapacities, List.zipIdx_map, List.map_map]
    rfl

private lemma raised_checked (large : 65535 < capacityTotal caps) :
    ((order (scaledCapacities caps) (capacityTotal caps)).take
        (spareUnits caps)).foldlM raiseStep ((baseWeights caps).map UInt16.ofNat) =
      .ok (finalWeights caps) := by
  have base : ∀ {position weight : Nat}, (baseWeights caps)[position]? = some weight →
      (UInt16.ofNat weight).toNat = weight := by
    intro position weight found
    have bound := finalWeight_le_of_found large found
    unfold finalWeight at bound
    apply UInt16.toNat_ofNat_of_lt'
    change weight < 65536
    omega
  rw [raise_checked _ _ raised_nodup]
  · refine congrArg Except.ok ?_
    rw [finalWeights, List.zipIdx_map, List.map_map]
    refine map_congr_left fun entry mem => ?_
    have same := base (mem_zipIdx_iff_getElem?.mp mem)
    change UInt16.ofNat ((UInt16.ofNat entry.1).toNat + _) = _
    rw [same]
    rfl
  · intro entry taken
    have isRaised : (ofLex entry).2 ∈ raisedPositions caps :=
      mem_raised.mpr ⟨entry, taken, rfl⟩
    have inside := lt_of_mem_raised isRaised
    have inBase : (ofLex entry).2 < (baseWeights caps).length := by
      rwa [baseWeights, length_map]
    have found : (baseWeights caps)[(ofLex entry).2]? =
        some (baseWeights caps)[(ofLex entry).2] := getElem?_eq_getElem inBase
    have bound := finalWeight_le_of_found large found
    rw [finalWeight, if_pos isRaised] at bound
    refine ⟨UInt16.ofNat (baseWeights caps)[(ofLex entry).2], ?_, ?_⟩
    · rw [getElem?_map, found, map_some]
    · rw [base found]
      exact Nat.lt_succ_of_le bound

private lemma normalizedCapacitiesChecked_eq (caps : List UInt16) :
    normalizedCapacitiesChecked caps = .ok (normalizedCapacities caps) := by
  by_cases empty : caps = []
  · rw [empty]
    rfl
  by_cases zero : (0 : UInt16) ∈ caps
  · unfold normalizedCapacitiesChecked normalizedCapacities
    simp only [if_neg empty, if_pos zero]
  by_cases long : caps.length > 65535
  · unfold normalizedCapacitiesChecked normalizedCapacities
    simp only [if_neg empty, if_neg zero, if_pos long]
  have short : caps.length ≤ 65535 := not_lt.mp long
  have norm : Normalizable caps :=
    ⟨empty, short, fun capacity mem => UInt16.pos_iff_ne_zero.mpr fun same => zero (same ▸ mem)⟩
  have total : caps.foldlM (fun sum capacity => u64 (sum + capacity.toNat)) 0 =
      .ok (capacityTotal caps) := by
    rw [total_checked caps 0 (by simpa using capacityTotal_lt short), Nat.zero_add]
  unfold normalizedCapacitiesChecked
  simp only [if_neg empty, if_neg zero, if_neg long, total, ok_bind]
  by_cases small : capacityTotal caps ≤ 65535
  · rw [if_pos small, normalizedCapacities_small norm small]
    rfl
  · have large : 65535 < capacityTotal caps := not_le.mp small
    have spare : subU64 65535 (baseWeights caps).sum = .ok (spareUnits caps) :=
      subU64_eq_ok (baseWeights_sum_le large short)
    rw [if_neg small, subU64_eq_ok short, ok_bind, shares_checked norm large, ok_bind]
    simp only
    rw [spare, ok_bind]
    rw [← order, raised_checked large, ok_bind,
      normalizedCapacities_large norm large]
    rfl

structure WeightAt (capacities weights : List UInt16) (position : Nat)
    (capacity weight : UInt16) : Prop where
  capacity : capacities[position]? = some capacity
  weight : weights[position]? = some weight

/-- The weights fill the range, and each is less than one unit off its share. -/
structure Fair (capacities weights : List UInt16) : Prop where
  length : weights.length = capacities.length
  positive : ∀ weight ∈ weights, 1 ≤ weight
  sum : (weights.map UInt16.toNat).sum = 65535
  monotone : ∀ left right leftCapacity rightCapacity leftWeight rightWeight,
    WeightAt capacities weights left leftCapacity leftWeight →
    WeightAt capacities weights right rightCapacity rightWeight →
    leftCapacity < rightCapacity → leftWeight ≤ rightWeight
  equal : ∀ left right capacity leftWeight rightWeight,
    WeightAt capacities weights left capacity leftWeight →
    WeightAt capacities weights right capacity rightWeight →
    leftWeight.toNat ≤ rightWeight.toNat + 1
  near : ∀ position capacity weight, WeightAt capacities weights position capacity weight →
    |(weight.toNat : ℚ) - (1 + capacity.toNat * (65535 - capacities.length) /
      capacityTotal capacities)| < 1

section FinalWeights

variable {caps : List UInt16} (large : 65535 < capacityTotal caps)

include large

variable {position : Nat} {capacity weight : UInt16}

private lemma toNat_of_weightAt
    (found : WeightAt caps (finalWeights caps) position capacity weight) :
    weight.toNat = 1 + capacity.toNat * (65535 - caps.length) / capacityTotal caps +
      if position ∈ raisedPositions caps then 1 else 0 := by
  have base : (baseWeights caps)[position]? = _ := baseWeights_getElem? position
  rw [found.capacity, map_some] at base
  have here := found.weight
  rw [finalWeights, getElem?_map, getElem?_zipIdx, base, map_some,
    map_some, Option.some.injEq, Nat.zero_add] at here
  rw [← here]
  apply UInt16.toNat_ofNat_of_lt'
  exact Nat.lt_succ_of_le (finalWeight_le large found.capacity)

omit large in
private lemma scaled_of_weightAt
    (found : WeightAt caps (finalWeights caps) position capacity weight) :
    (scaledCapacities caps)[position]? =
      some (capacity.toNat * (65535 - caps.length)) := by
  rw [scaledCapacities, getElem?_map, found.capacity, map_some]

private lemma finalWeights_monotone {left right : Nat}
    {leftCapacity rightCapacity leftWeight rightWeight : UInt16}
    (leftAt : WeightAt caps (finalWeights caps) left leftCapacity leftWeight)
    (rightAt : WeightAt caps (finalWeights caps) right rightCapacity rightWeight)
    (smaller : leftCapacity < rightCapacity) : leftWeight ≤ rightWeight := by
  have leftNat := toNat_of_weightAt large leftAt
  have rightNat := toNat_of_weightAt large rightAt
  have less : leftCapacity.toNat < rightCapacity.toNat := smaller
  have leftSplit := Nat.div_add_mod (leftCapacity.toNat * (65535 - caps.length))
    (capacityTotal caps)
  have rightSplit := Nat.div_add_mod (rightCapacity.toNat * (65535 - caps.length))
    (capacityTotal caps)
  have quotients : leftCapacity.toNat * (65535 - caps.length) / capacityTotal caps ≤
      rightCapacity.toNat * (65535 - caps.length) / capacityTotal caps :=
    Nat.div_le_div_right (Nat.mul_le_mul_right _ less.le)
  rw [UInt16.le_iff_toNat_le, leftNat, rightNat]
  by_cases leftRaised : left ∈ raisedPositions caps
  · by_cases same : leftCapacity.toNat * (65535 - caps.length) / capacityTotal caps =
        rightCapacity.toNat * (65535 - caps.length) / capacityTotal caps
    · -- With equal quotients the larger capacity has the larger remainder.
      have remainder := raised_remainder_pos large (scaled_of_weightAt leftAt) leftRaised
      have room : 0 < 65535 - caps.length := by
        rcases Nat.eq_zero_or_pos (65535 - caps.length) with zero | pos
        · rw [zero, Nat.mul_zero, Nat.zero_mod] at remainder
          exact absurd remainder (lt_irrefl 0)
        · exact pos
      have scaled := Nat.mul_lt_mul_of_pos_right less room
      rw [same] at leftSplit
      have rightRaised : right ∈ raisedPositions caps :=
        raised_of_lt (scaled_of_weightAt leftAt) (scaled_of_weightAt rightAt)
          (by omega) leftRaised
      rw [if_pos leftRaised, if_pos rightRaised, same]
    · rw [if_pos leftRaised]
      omega
  · rw [if_neg leftRaised]
    omega

private lemma finalWeights_near (short : caps.length ≤ 65535)
    (found : WeightAt caps (finalWeights caps) position capacity weight) :
    |(weight.toNat : ℚ) - (1 + capacity.toNat * (65535 - caps.length) /
      capacityTotal caps)| < 1 := by
  have weightNat := toNat_of_weightAt large found
  have totalPos : (0 : ℚ) < capacityTotal caps := by
    exact_mod_cast (by omega : 0 < capacityTotal caps)
  have split := Nat.div_add_mod (capacity.toNat * (65535 - caps.length))
    (capacityTotal caps)
  have small := Nat.mod_lt (capacity.toNat * (65535 - caps.length))
    (by omega : 0 < capacityTotal caps)
  have raisedPos := raised_remainder_pos large (scaled_of_weightAt found)
  generalize capacity.toNat * (65535 - caps.length) / capacityTotal caps = quotient
    at weightNat split
  generalize remainderIs : capacity.toNat * (65535 - caps.length) %
    capacityTotal caps = remainder at split small raisedPos
  have exact : (capacity.toNat : ℚ) * (65535 - caps.length) / capacityTotal caps =
      quotient + remainder / capacityTotal caps := by
    have cast : (capacity.toNat : ℚ) * (65535 - caps.length) =
        capacityTotal caps * quotient + remainder := by
      have casted := congrArg (Nat.cast (R := ℚ)) split.symm
      rwa [Nat.cast_mul, Nat.cast_sub short, Nat.cast_add, Nat.cast_mul] at casted
    rw [cast]
    field_simp
  have below : (remainder : ℚ) / capacityTotal caps < 1 := by
    rw [div_lt_one totalPos]
    exact_mod_cast small
  have above : (0 : ℚ) ≤ remainder / capacityTotal caps :=
    div_nonneg (Nat.cast_nonneg _) totalPos.le
  rw [exact, weightNat, abs_lt]
  split
  next isRaised =>
    have pos : (0 : ℚ) < remainder / capacityTotal caps :=
      div_pos (by exact_mod_cast raisedPos isRaised) totalPos
    push_cast
    constructor <;> linarith
  next =>
    push_cast
    constructor <;> linarith

private lemma fair_finalWeights (short : caps.length ≤ 65535) :
    Fair caps (finalWeights caps) := by
  have numbers : (finalWeights caps).map UInt16.toNat =
      (baseWeights caps).zipIdx.map fun entry =>
        entry.1 + if entry.2 ∈ raisedPositions caps then 1 else 0 := by
    rw [finalWeights, List.map_map]
    refine map_congr_left fun entry member => ?_
    apply UInt16.toNat_ofNat_of_lt'
    exact Nat.lt_succ_of_le (finalWeight_le_of_found large (mem_zipIdx_iff_getElem?.mp member))
  constructor
  case length => rw [finalWeights, length_map, length_zipIdx, baseWeights,
    length_map, scaledCapacities, length_map]
  case positive =>
    intro weight member
    have num : weight.toNat ∈ (finalWeights caps).map UInt16.toNat := mem_map_of_mem member
    rw [numbers] at num
    obtain ⟨entry, inBase, same⟩ := mem_map.mp num
    have found := mem_zipIdx_iff_getElem?.mp inBase
    rw [baseWeights_getElem?] at found
    obtain ⟨capacity, _, isBase⟩ := map_eq_some_iff.mp found
    have least : 1 ≤ entry.1 := isBase ▸ Nat.le_add_right 1 _
    rw [UInt16.le_iff_toNat_le, ← same]
    exact least.trans (Nat.le_add_right _ _)
  case sum =>
    have inside : ∀ position ∈ raisedPositions caps,
        position < (baseWeights caps).length := by
      intro position member
      rw [baseWeights, length_map]
      exact lt_of_mem_raised member
    have nodup : (raisedPositions caps).Nodup := raised_nodup
    have count : (raisedPositions caps).length = spareUnits caps :=
      raised_length (by omega) (spareUnits_exact large)
    have assigned := baseWeights_sum_le large short
    rw [numbers, sum_raise _ _ nodup inside, count, spareUnits]
    omega
  case monotone =>
    intro left right leftCapacity rightCapacity leftWeight rightWeight leftAt rightAt smaller
    exact finalWeights_monotone large leftAt rightAt smaller
  case equal =>
    intro left right capacity leftWeight rightWeight leftAt rightAt
    rw [toNat_of_weightAt large leftAt, toNat_of_weightAt large rightAt]
    split <;> omega
  case near =>
    intro position capacity weight found
    exact finalWeights_near large short found

end FinalWeights

/-- The normalisation returns positive capacities unchanged when their sum is within
the limit, and shares the limit fairly otherwise; no operation on the way faults. -/
theorem normalized_capacities_exact_and_fair {capacities : List UInt16}
    (normalizable : Normalizable capacities) :
    ∃ weights, normalizedCapacitiesChecked capacities = .ok (.ok weights) ∧
      (capacityTotal capacities ≤ 65535 → weights = capacities) ∧
      (65535 < capacityTotal capacities → Fair capacities weights) := by
  rw [normalizedCapacitiesChecked_eq]
  by_cases small : capacityTotal capacities ≤ 65535
  · rw [normalizedCapacities_small normalizable small]
    exact ⟨capacities, rfl, fun _ => rfl, fun large => absurd large (not_lt.mpr small)⟩
  · have large : 65535 < capacityTotal capacities := not_le.mp small
    rw [normalizedCapacities_large normalizable large]
    exact ⟨finalWeights capacities, rfl, fun within => absurd within small,
      fun _ => fair_finalWeights large normalizable.short⟩

theorem normalized_capacities_of_three :
    ∃ weights, normalizedCapacitiesChecked [65535, 65535, 1] = .ok (.ok weights) ∧
      (capacityTotal [65535, 65535, 1] ≤ 65535 → weights = [65535, 65535, 1]) ∧
      (65535 < capacityTotal [65535, 65535, 1] → Fair [65535, 65535, 1] weights) :=
  normalized_capacities_exact_and_fair
    { nonempty := cons_ne_nil _ _
      short := by decide
      positive := forall_mem_cons.mpr ⟨by decide, forall_mem_cons.mpr ⟨by decide,
        forall_mem_cons.mpr ⟨by decide, forall_mem_nil _⟩⟩⟩ }

end Ngxora.Nrf
