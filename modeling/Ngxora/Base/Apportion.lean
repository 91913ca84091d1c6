/-
Sharing a whole by largest remainders: every value gets its quotient by a unit.
-/

import Mathlib.Algebra.GroupWithZero.Nat
import Mathlib.Algebra.Order.BigOperators.Group.List
import Mathlib.Data.List.Sort
import Mathlib.Data.Prod.Lex

namespace Ngxora.Apportion

open List

/-- Remainders with the positions of their values, the largest first; of equal
ones the later position comes first. -/
def order (values : List Nat) (unit : Nat) : List (Nat ×ₗ Nat) :=
  (values.zipIdx.map fun entry => toLex (entry.1 % unit, entry.2)).insertionSort (· ≥ ·)

/-- The positions of the largest remainders; what is left goes to them, one unit each. -/
def raised (values : List Nat) (unit spare : Nat) : List Nat :=
  ((order values unit).take spare).map fun entry => (ofLex entry).2

variable {values : List Nat} {unit spare : Nat}

lemma mem_order {entry : Nat ×ₗ Nat} : entry ∈ order values unit ↔
    ∃ value, values[(ofLex entry).2]? = some value ∧ value % unit = (ofLex entry).1 := by
  rw [order, mem_insertionSort, mem_map]
  constructor
  · rintro ⟨⟨value, position⟩, mem, rfl⟩
    exact ⟨value, mem_zipIdx_iff_getElem?.mp mem, rfl⟩
  · rintro ⟨value, found, same⟩
    refine ⟨(value, (ofLex entry).2), mem_zipIdx_iff_getElem?.mpr found, ?_⟩
    rw [same]
    rfl

lemma order_length : (order values unit).length = values.length := by
  rw [order, length_insertionSort, length_map, length_zipIdx]

lemma order_sorted : (order values unit).Pairwise (· ≥ ·) :=
  pairwise_insertionSort _ _

lemma order_map (f : Nat ×ₗ Nat → Nat) : ((order values unit).map f).Perm
    (values.zipIdx.map fun entry => f (toLex (entry.1 % unit, entry.2))) := by
  have same := (perm_insertionSort (· ≥ ·)
    (values.zipIdx.map fun entry => toLex (entry.1 % unit, entry.2))).map f
  rwa [map_map] at same

lemma order_positions :
    ((order values unit).map fun entry => (ofLex entry).2).Perm (List.range values.length) := by
  rw [range_eq_range', ← zipIdx_map_snd 0 values]
  exact order_map _

lemma order_remainders :
    ((order values unit).map fun entry => (ofLex entry).1).Perm (values.map (· % unit)) := by
  have firsts := congrArg (List.map (· % unit)) (zipIdx_map_fst 0 values)
  rw [← firsts, map_map]
  exact order_map _

variable {position : Nat}

lemma mem_raised : position ∈ raised values unit spare ↔
    ∃ entry ∈ (order values unit).take spare, (ofLex entry).2 = position := by
  rw [raised, mem_map]

lemma raised_nodup : (raised values unit spare).Nodup :=
  ((take_sublist _ _).map _).nodup (order_positions.nodup_iff.mpr nodup_range)

lemma lt_of_mem_raised (mem : position ∈ raised values unit spare) : position < values.length := by
  have positions : position ∈ (order values unit).map fun entry => (ofLex entry).2 :=
    ((take_sublist spare (order values unit)).map _).mem mem
  exact mem_range.mp (order_positions.mem_iff.mp positions)

lemma raised_of_lt {left right leftValue rightValue : Nat}
    (leftAt : values[left]? = some leftValue) (rightAt : values[right]? = some rightValue)
    (smaller : leftValue % unit < rightValue % unit)
    (leftRaised : left ∈ raised values unit spare) : right ∈ raised values unit spare := by
  obtain ⟨entry, taken, rfl⟩ := mem_raised.mp leftRaised
  obtain ⟨value, found, remainder⟩ := mem_order.mp ((take_sublist _ _).mem taken)
  rw [leftAt, Option.some.injEq] at found
  subst found
  have ordered : toLex (rightValue % unit, right) ∈ order values unit :=
    mem_order.mpr ⟨rightValue, rightAt, rfl⟩
  rw [← take_append_drop spare (order values unit), mem_append] at ordered
  rcases ordered with early | late
  · exact mem_raised.mpr ⟨_, early, rfl⟩
  · have sorted : (order values unit).Pairwise (· ≥ ·) := order_sorted
    rw [← take_append_drop spare (order values unit), pairwise_append] at sorted
    have least := sorted.2.2 entry taken _ late
    have notSmaller : rightValue % unit ≤ (ofLex entry).1 := by
      rcases Prod.Lex.le_iff.mp least with less | ⟨same, _⟩
      · exact less.le
      · exact same.le
    rw [← remainder] at notSmaller
    exact absurd smaller notSmaller.not_gt

lemma sum_div_add_sum_mod (values : List Nat) (unit : Nat) :
    unit * (values.map (· / unit)).sum + (values.map (· % unit)).sum = values.sum := by
  induction values with
  | nil => rfl
  | cons value rest ih =>
    have here := Nat.div_add_mod value unit
    simp only [map_cons, sum_cons, Nat.mul_add]
    omega

lemma sum_lt_of_forall_lt {bound : Nat} {numbers : List Nat}
    (small : ∀ num ∈ numbers, num < bound) (ne : numbers ≠ []) :
    numbers.sum < bound * numbers.length := by
  induction numbers with
  | nil => contradiction
  | cons num rest ih =>
    obtain ⟨here, later⟩ := forall_mem_cons.mp small
    rw [sum_cons, length_cons, Nat.mul_add, Nat.mul_one]
    by_cases last : rest = []
    · simpa [last] using here
    · have rest := ih later last
      omega

section Exact

variable (positive : 0 < unit) (exact : unit * spare = (values.map (· % unit)).sum)

include positive exact

lemma spare_le_length : spare ≤ values.length := by
  by_cases empty : values = []
  · rw [empty, map_nil, sum_nil] at exact
    have none : spare = 0 := by
      rcases Nat.mul_eq_zero.mp exact with zero | zero
      · omega
      · exact zero
    omega
  · have remainders : ∀ remainder ∈ values.map (· % unit), remainder < unit := by
      intro remainder mem
      obtain ⟨value, _, rfl⟩ := mem_map.mp mem
      exact Nat.mod_lt value positive
    have small := sum_lt_of_forall_lt remainders (by simpa using empty)
    rw [← exact, length_map] at small
    exact (Nat.lt_of_mul_lt_mul_left small).le

lemma raised_length : (raised values unit spare).length = spare := by
  rw [raised, length_map, length_take, order_length]
  exact Nat.min_eq_left (spare_le_length positive exact)

lemma remainder_pos_of_raised {value : Nat} (found : values[position]? = some value)
    (isRaised : position ∈ raised values unit spare) : 0 < value % unit := by
  obtain ⟨entry, taken, rfl⟩ := mem_raised.mp isRaised
  obtain ⟨same, sameFound, remainder⟩ := mem_order.mp ((take_sublist _ _).mem taken)
  rw [found, Option.some.injEq] at sameFound
  subst sameFound
  by_contra notPositive
  have zero : (ofLex entry).1 = 0 := by omega
  have sorted : (order values unit).Pairwise (· ≥ ·) := order_sorted
  rw [← take_append_drop spare (order values unit), pairwise_append] at sorted
  have later : ∀ other ∈ (order values unit).drop spare, (ofLex other).1 = 0 := by
    intro other mem
    rcases Prod.Lex.le_iff.mp (sorted.2.2 entry taken other mem) with less | ⟨same, _⟩
    · change (ofLex other).1 < (ofLex entry).1 at less
      omega
    · exact same.trans zero
  have total : (((order values unit).take spare).map fun entry => (ofLex entry).1).sum =
      unit * spare := by
    have whole : ((order values unit).map fun entry => (ofLex entry).1).sum =
        (values.map (· % unit)).sum := order_remainders.sum_eq
    have rest : (((order values unit).drop spare).map fun entry => (ofLex entry).1).sum = 0 := by
      apply sum_eq_zero
      intro remainder mem
      obtain ⟨other, dropped, rfl⟩ := mem_map.mp mem
      exact later other dropped
    rw [← take_append_drop spare (order values unit), map_append, sum_append, rest] at whole
    rw [exact, ← whole, Nat.add_zero]
  have small : ∀ remainder ∈ ((order values unit).take spare).map fun entry => (ofLex entry).1,
      remainder < unit := by
    intro remainder mem
    obtain ⟨other, inTaken, rfl⟩ := mem_map.mp mem
    obtain ⟨num, _, isRemainder⟩ := mem_order.mp ((take_sublist _ _).mem inTaken)
    rw [← isRemainder]
    exact Nat.mod_lt num positive
  have ne : ((order values unit).take spare).map (fun entry => (ofLex entry).1) ≠ [] := by
    intro empty
    rw [map_eq_nil_iff.mp empty] at taken
    cases taken
  have less := sum_lt_of_forall_lt small ne
  rw [total, length_map] at less
  have few : ((order values unit).take spare).length ≤ spare := length_take_le _ _
  exact absurd (Nat.mul_le_mul_left unit few) less.not_ge

end Exact

lemma sum_map_ite (numbers : List Nat) (holds : Nat → Prop) [DecidablePred holds] :
    (numbers.map fun num => if holds num then 1 else 0).sum =
      (numbers.filter fun num => decide (holds num)).length := by
  induction numbers with
  | nil => rfl
  | cons num rest ih =>
    by_cases here : holds num
    · simp [here, ih, Nat.add_comm]
    · simp [here, ih]

lemma sum_raise (numbers positions : List Nat) (nodup : positions.Nodup)
    (inside : ∀ position ∈ positions, position < numbers.length) :
    (numbers.zipIdx.map fun entry => entry.1 + if entry.2 ∈ positions then 1 else 0).sum =
      numbers.sum + positions.length := by
  rw [sum_map_add]
  have first : (numbers.zipIdx.map fun entry => entry.1).sum = numbers.sum :=
    congrArg List.sum (zipIdx_map_fst 0 numbers)
  have second : (numbers.zipIdx.map fun entry => if entry.2 ∈ positions then 1 else 0).sum =
      positions.length := by
    have indices := congrArg (List.map fun position => if position ∈ positions then 1 else 0)
      (zipIdx_map_snd 0 numbers)
    rw [map_map] at indices
    refine (congrArg List.sum indices).trans ?_
    rw [sum_map_ite]
    apply List.Perm.length_eq
    rw [perm_ext_iff_of_nodup ((nodup_range' ..).filter _) nodup]
    intro position
    rw [mem_filter, decide_eq_true_eq]
    refine ⟨fun both => both.2, fun mem => ⟨?_, mem⟩⟩
    have bound := inside position mem
    rw [mem_range'_1]
    omega
  rw [first, second]


end Ngxora.Apportion
