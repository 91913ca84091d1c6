/-
Running totals of the weights in a table.
-/

import Mathlib.Algebra.GroupWithZero.Nat
import Ngxora.Base.Table

namespace Ngxora

open List

namespace Counter

/-- A total is a 64-bit counter: what does not fit has no result. -/
def limit : Nat := 2 ^ 64

def add (total amount : Nat) : Option Nat :=
  if total + amount < limit then some (total + amount) else none

def sub (total amount : Nat) : Option Nat :=
  if amount ≤ total then some (total - amount) else none

def saturatingAdd (left right : Nat) : Nat := min (left + right) (limit - 1)

variable {amount : Nat}

lemma sub_eq_some {total : Nat} (enough : amount ≤ total) :
    sub total amount = some (total - amount) := if_pos enough

lemma add_eq_some {total : Nat} (fits : total + amount < limit) :
    add total amount = some (total + amount) := if_pos fits

lemma saturatingAdd_eq {left right : Nat} (fits : left + right < limit) :
    saturatingAdd left right = left + right :=
  min_eq_left (Nat.le_sub_one_of_lt fits)

lemma saturatingAdd_le (left right : Nat) : saturatingAdd left right ≤ left + right :=
  min_le_left _ _

lemma foldlM_sub {amounts : List Nat} {total : Nat} (enough : amounts.sum ≤ total) :
    amounts.foldlM sub total = some (total - amounts.sum) := by
  induction amounts generalizing total with
  | nil => rfl
  | cons amount rest ih =>
    rw [sum_cons] at enough
    rw [foldlM_cons, sub_eq_some (by omega), sum_cons, ← Nat.sub_sub]
    exact ih (by omega)

end Counter

namespace Table

variable {K V : Type}

def retain (keep : K → V → Bool) (table : Table K V) : Table K V where
  entries := table.entries.filter fun entry => keep entry.1 entry.2
  nodupKeys := table.nodupKeys.sublist filter_sublist

variable {keep : K → V → Bool} {table : Table K V} {key : K} {value : V}

lemma lookup_retain_eq_some [DecidableEq K] : (retain keep table).lookup key = some value ↔
    table.lookup key = some value ∧ keep key value = true := by
  rw [← mem_entries_iff, ← mem_entries_iff, retain, mem_filter]

lemma length_retain_le (keep : K → V → Bool) (table : Table K V) :
    (retain keep table).entries.length ≤ table.entries.length :=
  length_filter_le _ _

def total (weight : K → V → Nat) (table : Table K V) : Nat :=
  (table.entries.map fun entry => weight entry.1 entry.2).sum

@[simp]
lemma total_empty : total weight (∅ : Table K V) = 0 := rfl

variable (weight : K → V → Nat)

lemma total_retain (keep : K → V → Bool) (table : Table K V) : total weight table =
    ((table.entries.filter fun entry => !keep entry.1 entry.2).map fun entry =>
      weight entry.1 entry.2).sum + total weight (retain keep table) := by
  have split := ((filter_append_perm (fun entry => keep entry.1 entry.2) table.entries).map
    fun entry => weight entry.1 entry.2).sum_nat
  rw [map_append, sum_append] at split
  rw [total, ← split, Nat.add_comm]
  rfl

variable [DecidableEq K]

lemma total_insert (table : Table K V) (key : K) (value : V) :
    total weight (table.insert key value) = weight key value + total weight (table.erase key) := by
  rw [total, AList.entries_insert, map_cons, sum_cons]
  rfl

lemma erase_of_absent (absent : table.lookup key = none) : table.erase key = table :=
  AList.ext (kerase_of_notMem_keys (AList.lookup_eq_none.mp absent))

lemma total_erase (found : table.lookup key = some value) :
    total weight table = weight key value + total weight (table.erase key) := by
  obtain ⟨entries, nodup⟩ := table
  change entries.dlookup key = some value at found
  change (entries.map fun entry => weight entry.1 entry.2).sum =
    weight key value + ((entries.kerase key).map fun entry => weight entry.1 entry.2).sum
  clear nodup
  induction entries with
  | nil => cases found
  | cons entry rest ih =>
    obtain ⟨entryKey, entryValue⟩ := entry
    by_cases same : key = entryKey
    · subst same
      rw [dlookup_cons_eq, Option.some.injEq] at found
      subst found
      have erased : (⟨key, entryValue⟩ :: rest : List (Sigma fun _ : K => V)).kerase key = rest :=
        kerase_cons_eq rfl
      rw [erased]
      rfl
    · rw [dlookup_cons_ne _ _ same] at found
      rw [kerase_cons_ne same, map_cons, map_cons, sum_cons, sum_cons, ih found]
      omega

lemma length_erase (found : table.lookup key = some value) :
    table.entries.length = (table.erase key).entries.length + 1 := by
  have counted := total_erase (fun _ _ => 1) found
  simpa [total, Nat.add_comm] using counted

lemma length_insert (table : Table K V) (key : K) (value : V) :
    (table.insert key value).entries.length = (table.erase key).entries.length + 1 := by
  rw [AList.entries_insert, length_cons]
  rfl

lemma mem_retain (mem : key ∈ retain keep table) : key ∈ table := by
  obtain ⟨value, found⟩ := mem_iff_lookup.mp mem
  have entry := mem_entries_iff.mpr found
  exact mem_iff_lookup.mpr ⟨value, mem_entries_iff.mp (mem_of_mem_filter entry)⟩

end Table
end Ngxora
