/-
Finite tables: the maps of a program whose iteration order is not specified.
-/

import Mathlib.Data.List.AList
import Mathlib.Data.List.Sort
import Ngxora.Base.Results

namespace Ngxora

open Results AList List

/-- The order of the entries stands for one iteration order. -/
abbrev Table (K V : Type) : Type := AList (fun _ : K => V)

namespace Table

variable {K V W ε : Type}

/-- The tables differ in nothing but their iteration order. -/
def SameEntries [DecidableEq K] (left right : Table K V) : Prop :=
  ∀ key, left.lookup key = right.lookup key

def values (table : Table K V) : List V := table.entries.map Sigma.snd

def insertAll [DecidableEq K] (keys : List K) (value : V) (table : Table K V) : Table K V :=
  keys.foldl (fun current key => current.insert key value) table

def traverse [DecidableEq K] (f : K → V → Except ε W) (table : Table K V) :
    Except ε (Table K W) := do
  let entries ← table.entries.mapM fun entry =>
    (fun value => (⟨entry.1, value⟩ : Sigma fun _ : K => W)) <$> f entry.1 entry.2
  pure entries.toAList

section Lookups

variable [DecidableEq K]

lemma lookup_insert_eq (table : Table K V) (key other : K) (value : V) :
    (table.insert key value).lookup other =
      if other = key then some value else table.lookup other := by
  by_cases same : other = key
  · subst same
    rw [if_pos rfl, lookup_insert]
  · rw [if_neg same, lookup_insert_ne same]

lemma lookup_insertAll (keys : List K) (value : V) (table : Table K V) (other : K) :
    (insertAll keys value table).lookup other =
      if other ∈ keys then some value else table.lookup other := by
  induction keys generalizing table with
  | nil => simp [insertAll]
  | cons key rest ih =>
    change (insertAll rest value (table.insert key value)).lookup other = _
    rw [ih, lookup_insert_eq]
    by_cases later : other ∈ rest
    · simp [later]
    · by_cases same : other = key
      · simp [same]
      · simp [later, same]

variable {entries : List (K × V)} {wanted : K} {found value : V} {table : Table K V}
  {f : K → V → Except ε W}

lemma lookup_of_erase {key : K} (kept : (table.erase key).lookup wanted = some value) :
    table.lookup wanted = some value := by
  by_cases here : wanted = key
  · rw [here, lookup_erase] at kept
    cases kept
  · rwa [lookup_erase_ne here] at kept

lemma lookup_foldl_pairs {start : Table K V} (nodup : (entries.map Prod.fst).Nodup) :
    (entries.foldl (fun table entry => table.insert entry.1 entry.2) start).lookup wanted =
        some found ↔ (wanted, found) ∈ entries ∨
        wanted ∉ entries.map Prod.fst ∧ start.lookup wanted = some found := by
  induction entries generalizing start with
  | nil => simp
  | cons entry rest ih =>
    rw [map_cons, nodup_cons] at nodup
    rw [foldl_cons, ih nodup.2, lookup_insert_eq, mem_cons, map_cons, mem_cons, Prod.ext_iff]
    by_cases here : wanted = entry.1
    · have absent : (wanted, found) ∉ rest := fun later => nodup.1 (here ▸ mem_map_of_mem later)
      simp [here, here ▸ absent, nodup.1, eq_comm]
    · simp [here]

lemma lookup_ofPairs (nodup : (entries.map Prod.fst).Nodup) :
    (entries.foldl (fun table entry => table.insert entry.1 entry.2) (∅ : Table K V)).lookup
        wanted = some found ↔ (wanted, found) ∈ entries := by
  rw [lookup_foldl_pairs nodup]
  simp

lemma mem_iff_lookup {key : K} : key ∈ table ↔ ∃ value, table.lookup key = some value := by
  rw [← lookup_isSome, Option.isSome_iff_exists]

lemma mem_entries_iff {key : K} :
    (⟨key, value⟩ : Sigma fun _ : K => V) ∈ table.entries ↔ table.lookup key = some value :=
  mem_lookup_iff.symm

lemma mem_values_iff : value ∈ table.values ↔ ∃ key, table.lookup key = some value := by
  constructor
  · intro mem
    obtain ⟨⟨key, found⟩, here, same⟩ := mem_map.mp mem
    have found_eq : found = value := same
    subst found_eq
    exact ⟨key, mem_entries_iff.mp here⟩
  · rintro ⟨key, found⟩
    exact mem_map.mpr ⟨⟨key, value⟩, mem_entries_iff.mpr found, rfl⟩

lemma SameEntries.mem_iff {left right : Table K V} (same : SameEntries left right)
    (key : K) : key ∈ left ↔ key ∈ right := by
  rw [← lookup_isSome, ← lookup_isSome, same key]

lemma lookup_traverse {result : Table K W} (ok : traverse f table = .ok result) (key : K) :
    Option.Rel (fun value converted => f key value = .ok converted)
      (table.lookup key) (result.lookup key) := by
  unfold traverse at ok
  obtain ⟨entries, converted, same⟩ := bind_eq_ok.mp ok
  have resultEq : entries.toAList = result := by simpa using same
  subst resultEq
  rw [lookup_to_alist]
  change Option.Rel _ (table.entries.dlookup key) _
  have related := mapM_eq_ok.mp converted
  generalize table.entries = sources at related
  clear converted ok same
  -- The lists run in step, so the first entry under `key` is at the same place.
  induction related with
  | nil => exact .none
  | @cons entry target _ _ headOk _ ih =>
    obtain ⟨entryKey, entryValue⟩ := entry
    obtain ⟨value, valueOk, targetEq⟩ := map_eq_ok.mp headOk
    subst targetEq
    by_cases found : key = entryKey
    · subst found
      rw [dlookup_cons_eq, dlookup_cons_eq]
      exact .some valueOk
    · rwa [dlookup_cons_ne _ _ found, dlookup_cons_ne _ _ found]

lemma exists_traverse
    (steps : ∀ key value, table.lookup key = some value → ∃ result, f key value = .ok result) :
    ∃ result, traverse f table = .ok result := by
  have entriesOk : ∃ entries, (table.entries.mapM fun entry =>
      (fun value => (⟨entry.1, value⟩ : Sigma fun _ : K => W)) <$> f entry.1 entry.2) =
        .ok entries := by
    apply exists_mapM_eq_ok
    rintro ⟨key, value⟩ mem
    obtain ⟨result, stepOk⟩ := steps key value (mem_entries_iff.mp mem)
    exact ⟨⟨key, result⟩, by simp [stepOk]⟩
  obtain ⟨entries, entriesOk⟩ := entriesOk
  exact ⟨entries.toAList, by simp [traverse, entriesOk]⟩

end Lookups

section Indexing

variable [DecidableEq K] (key : V → K)

def indexBy (items : List V) : Table K V :=
  items.foldl (fun table item => table.insert (key item) item) ∅

variable {items : List V} {wanted : K} {found : V}

lemma lookup_indexBy (nodup : (items.map key).Nodup) :
    (indexBy key items).lookup wanted = some found ↔ found ∈ items ∧ key found = wanted := by
  have pairs : indexBy key items = (items.map fun item => (key item, item)).foldl
      (fun table entry => table.insert entry.1 entry.2) ∅ := by
    rw [foldl_map]
    rfl
  rw [pairs, lookup_ofPairs (by rwa [map_map]), mem_map]
  constructor
  · rintro ⟨item, mem, same⟩
    cases same
    exact ⟨mem, rfl⟩
  · rintro ⟨mem, rfl⟩
    exact ⟨found, mem, rfl⟩

lemma mem_values_indexBy (nodup : (items.map key).Nodup) {item : V} :
    item ∈ (indexBy key items).values ↔ item ∈ items := by
  simp [mem_values_iff, lookup_indexBy key nodup]

lemma map_key_values_indexBy (nodup : (items.map key).Nodup) :
    (indexBy key items).values.map key = (indexBy key items).keys := by
  rw [values, map_map]
  apply map_congr_left
  rintro ⟨entryKey, value⟩ mem
  exact ((lookup_indexBy key nodup).mp (mem_entries_iff.mp mem)).2

lemma sameEntries_indexBy {left right : List V} (leftDistinct : (left.map key).Nodup)
    (rightDistinct : (right.map key).Nodup) :
    SameEntries (indexBy key left) (indexBy key right) ↔ ∀ item, item ∈ left ↔ item ∈ right := by
  constructor
  · intro same item
    have leftIff : (indexBy key left).lookup (key item) = some item ↔
        item ∈ left ∧ key item = key item := lookup_indexBy key leftDistinct
    rw [same (key item), lookup_indexBy key rightDistinct] at leftIff
    simpa using leftIff.symm
  · intro same wanted
    apply Option.ext
    intro found
    rw [lookup_indexBy key leftDistinct, lookup_indexBy key rightDistinct, same]

lemma foldlM_insert_eq_ok {α : Type} {step : Table K V → α → Except ε (Table K V)}
    {makes : α → V → Prop} (spec : ∀ table item next, step table item = .ok next ↔
      ∃ value, makes item value ∧ table.lookup (key value) = none ∧
        next = table.insert (key value) value) {items : List α} {final : Table K V} :
    items.foldlM step ∅ = .ok final ↔
      ∃ values, List.Forall₂ makes items values ∧ (values.map key).Nodup ∧
        final = indexBy key values := by
  suffices general : ∀ start : Table K V, items.foldlM step start = .ok final ↔
      ∃ values, List.Forall₂ makes items values ∧ (values.map key).Nodup ∧
        (∀ value ∈ values, start.lookup (key value) = none) ∧
        final = values.foldl (fun table value => table.insert (key value) value) start by
    rw [general]
    simp [indexBy]
  induction items with
  | nil =>
    intro start
    rw [foldlM_nil_eq_ok]
    constructor
    · rintro rfl
      exact ⟨[], .nil, nodup_nil, by simp, rfl⟩
    · rintro ⟨values, rel, _, _, same⟩
      cases rel
      exact same.symm
  | cons item rest ih =>
    intro start
    rw [foldlM_cons_eq_ok]
    constructor
    · rintro ⟨next, stepOk, restOk⟩
      obtain ⟨value, made, absent, nextEq⟩ := (spec _ _ _).mp stepOk
      subst nextEq
      obtain ⟨values, rel, nodup, fresh, finalEq⟩ := (ih _).mp restOk
      have notAgain : ∀ other ∈ values, key other ≠ key value ∧ start.lookup (key other) = none := by
        intro other mem
        have otherFresh := fresh other mem
        rw [lookup_insert_eq] at otherFresh
        by_cases same : key other = key value
        · rw [if_pos same] at otherFresh
          cases otherFresh
        · rw [if_neg same] at otherFresh
          exact ⟨same, otherFresh⟩
      refine ⟨value :: values, .cons made rel, ?_, ?_, finalEq⟩
      · rw [map_cons, nodup_cons]
        refine ⟨fun again => ?_, nodup⟩
        obtain ⟨other, mem, same⟩ := mem_map.mp again
        exact (notAgain other mem).1 same
      · exact forall_mem_cons.mpr ⟨absent, fun other mem => (notAgain other mem).2⟩
    · rintro ⟨values, rel, nodup, fresh, finalEq⟩
      cases rel with
      | @cons _ value _ others made rel =>
        rw [map_cons, nodup_cons] at nodup
        obtain ⟨absent, restFresh⟩ := forall_mem_cons.mp fresh
        refine ⟨start.insert (key value) value, (spec _ _ _).mpr ⟨value, made, absent, rfl⟩,
          (ih _).mpr ⟨others, rel, nodup.2, fun other mem => ?_, finalEq⟩⟩
        have ne : key other ≠ key value := by
          intro same
          exact nodup.1 (same ▸ mem_map_of_mem mem)
        rw [lookup_insert_eq, if_neg ne]
        exact restFresh other mem

end Indexing

section Sorting

variable (le : K → K → Prop) [DecidableRel le]

def sortedKeys (table : Table K V) : List K := table.keys.insertionSort le

variable {table : Table K V} {α : Type}

lemma mem_sortedKeys {key : K} : key ∈ sortedKeys le table ↔ key ∈ table := by
  rw [sortedKeys, mem_insertionSort, AList.mem_keys]

lemma sortedKeys_nodup (table : Table K V) : (sortedKeys le table).Nodup :=
  (perm_insertionSort le table.keys).nodup_iff.mpr table.keys_nodup

lemma pairwise_sortedKeys [Std.Total le] [IsTrans K le] (table : Table K V) :
    (sortedKeys le table).Pairwise le :=
  pairwise_insertionSort le table.keys

def sortBy {α : Type} (key : α → K) (items : List α) : List α :=
  items.insertionSort fun left right => le (key left) (key right)

lemma mem_sortBy {key : α → K} {items : List α} {item : α} :
    item ∈ sortBy le key items ↔ item ∈ items :=
  mem_insertionSort _

lemma perm_sortBy (key : α → K) (items : List α) : (sortBy le key items).Perm items :=
  perm_insertionSort _ items

def sortedEntries (table : Table K V) : List (Sigma fun _ : K => V) :=
  sortBy le Sigma.fst table.entries

lemma mem_sortedEntries [DecidableEq K] {key : K} {value : V} :
    (⟨key, value⟩ : Sigma fun _ : K => V) ∈ sortedEntries le table ↔
      table.lookup key = some value := by
  rw [sortedEntries, mem_sortBy, mem_entries_iff]

lemma head_sortedEntries_le [Std.Total le] [IsTrans K le] {first other : Sigma fun _ : K => V}
    (found : (sortedEntries le table).head? = some first) (mem : other ∈ sortedEntries le table) :
    le first.1 other.1 := by
  have sorted : (sortedEntries le table).Pairwise fun left right => le left.1 right.1 := by
    have total : Std.Total fun left right : Sigma fun _ : K => V => le left.1 right.1 :=
      ⟨fun left right => Std.Total.total left.1 right.1⟩
    have transitive : IsTrans (Sigma fun _ : K => V) fun left right => le left.1 right.1 :=
      ⟨fun _ _ _ below above => IsTrans.trans _ _ _ below above⟩
    exact pairwise_insertionSort _ table.entries
  generalize sortedEntries le table = entries at found mem sorted
  cases entries with
  | nil => cases mem
  | cons head rest =>
    have same : head = first := Option.some.inj found
    subst same
    rcases mem_cons.mp mem with here | later
    · rw [here]
      exact (Std.Total.total (r := le) head.1 head.1).elim id id
    · exact (pairwise_cons.mp sorted).1 other later

lemma sortedKeys_congr [Std.Total le] [IsTrans K le] [Std.Antisymm le] {left : Table K V}
    {right : Table K W} (same : ∀ key, key ∈ left ↔ key ∈ right) :
    sortedKeys le left = sortedKeys le right := by
  apply List.Perm.eq_of_pairwise' (r := le)
  · exact pairwise_sortedKeys le left
  · exact pairwise_sortedKeys le right
  · rw [perm_ext_iff_of_nodup (sortedKeys_nodup le left) (sortedKeys_nodup le right)]
    intro key
    rw [mem_sortedKeys, mem_sortedKeys, same]

end Sorting

end Table
end Ngxora
