/-
Endpoints and services behind synthetic addresses.
-/

import Ngxora.Base.Probing
import Ngxora.Nrf.Capacities

namespace Ngxora.Nrf

open NrfServicePool List Probing Results
open List (zipWith)

def nextId (id : UInt64) : UInt64 := id + 1

private lemma nextId_iterate (steps : Nat) (id : UInt64) :
    nextId^[steps] id = id + UInt64.ofNat steps := by
  induction steps with
  | zero => simp
  | succ steps ih =>
    rw [Function.iterate_succ_apply', ih, nextId, UInt64.ofNat_add, UInt64.add_assoc]
    rfl

private lemma freshId_eq (used : List UInt64) (id : UInt64) :
    freshId used id = (((List.range (used.length + 1)).find? fun offset =>
      decide (nextId^[offset] id ∉ used)).map fun offset => nextId^[offset] id).getD id := by
  simp [freshId, find?_map, Function.comp_def, nextId_iterate]

variable {used ids : List UInt64} {weights : List UInt16}
  {services : List (NrfServiceMetadata × List Backend)}

private lemma freshId_of_isFirstFree {id found : UInt64} (free : IsFirstFree nextId used id found) :
    freshId used id = found := by
  obtain ⟨steps, rfl, unused, old⟩ := free
  have few := steps_le_length unused old
  have search : ((List.range (used.length + 1)).find? fun offset =>
      decide (nextId^[offset] id ∉ used)) = some steps := by
    rw [find?_range_eq_some]
    refine ⟨by simpa using unused, mem_range.mpr (by omega), ?_⟩
    intro step less
    simpa using old step less
  rw [freshId_eq, search]
  rfl

private lemma isFirstFree_freshId (room : used.length < 2 ^ 64) (id : UInt64) :
    IsFirstFree nextId used id (freshId used id) := by
  cases search : (List.range (used.length + 1)).find? fun offset =>
      decide (nextId^[offset] id ∉ used) with
  | some steps =>
    obtain ⟨unused, _, old⟩ := find?_range_eq_some.mp search
    rw [freshId_eq, search]
    refine ⟨steps, rfl, by simpa using unused, ?_⟩
    intro step less
    simpa using old step less
  | none =>
    have all : ∀ offset < used.length + 1, nextId^[offset] id ∈ used := by simpa using search
    have nodup : ((List.range (used.length + 1)).map fun offset =>
        nextId^[offset] id).Nodup := by
      rw [nodup_map_iff_inj_on nodup_range]
      intro left leftSmall right rightSmall same
      rw [nextId_iterate, nextId_iterate, UInt64.add_right_inj] at same
      have leftFits : left < UInt64.size := (mem_range.mp leftSmall).trans_le room
      have rightFits : right < UInt64.size := (mem_range.mp rightSmall).trans_le room
      rwa [← UInt64.toNat_inj, UInt64.toNat_ofNat_of_lt' leftFits,
        UInt64.toNat_ofNat_of_lt' rightFits] at same
    have inUsed : (List.range (used.length + 1)).map (fun offset => nextId^[offset] id) ⊆
        used := by
      intro value mem
      obtain ⟨offset, small, rfl⟩ := mem_map.mp mem
      exact all offset (mem_range.mp small)
    have few := (nodup.subperm inUsed).length_le
    rw [length_map, length_range] at few
    omega

def freshIds (used : List UInt64) : List UInt64 → List UInt64
  | [] => []
  | id :: rest => freshId used id :: freshIds (freshId used id :: used) rest

private lemma freshIds_length (used ids : List UInt64) :
    (freshIds used ids).length = ids.length := by
  induction ids generalizing used with
  | nil => rfl
  | cons id rest ih => rw [freshIds, length_cons, length_cons, ih]

private lemma freshIds_of_probed {taken : List UInt64} (probed : Probed nextId used ids taken) :
    freshIds used ids = taken := by
  induction probed with
  | nil used => rfl
  | cons used start starts found taken free rest ih =>
    rw [freshIds, freshId_of_isFirstFree free, ih]

private lemma probed_freshIds (room : used.length + ids.length ≤ 2 ^ 64) :
    Probed nextId used ids (freshIds used ids) := by
  induction ids generalizing used with
  | nil => exact .nil used
  | cons id rest ih =>
    rw [length_cons] at room
    refine .cons used id rest _ _ (isFirstFree_freshId (by omega) id) (ih ?_)
    rw [length_cons]
    omega

section Sets

variable {α : Type} {key : α → Nat ×ₗ Nat}

variable {item : α}

private lemma keepLast_spec {rest kept : List α} (sublist : kept.Sublist rest)
    (strict : (kept.map key).Pairwise (· < ·)) (least : ∀ other ∈ rest, key item ≤ key other) :
    (keepLast key item kept).Sublist (item :: rest) ∧
      ((keepLast key item kept).map key).Pairwise (· < ·) := by
  unfold keepLast
  split
  next next others =>
    split
    · exact ⟨sublist.trans (sublist_cons_self _ _), strict⟩
    next differ =>
      refine ⟨sublist.cons_cons item, ?_⟩
      rw [map_cons, pairwise_cons]
      refine ⟨?_, strict⟩
      intro other mem
      have first : key item < key next :=
        lt_of_le_of_ne (least next (sublist.mem mem_cons_self)) differ
      rw [map_cons, pairwise_cons] at strict
      rw [map_cons, mem_cons] at mem
      rcases mem with same | later
      · exact same ▸ first
      · exact first.trans (strict.1 other later)
  next =>
    refine ⟨singleton_sublist.mpr mem_cons_self, ?_⟩
    exact pairwise_singleton _ _

private lemma orderedSet_spec (sorted : List α)
    (ascending : sorted.Pairwise fun left right => key left ≤ key right) :
    (sorted.foldr (keepLast key) []).Sublist sorted ∧
      ((sorted.foldr (keepLast key) []).map key).Pairwise (· < ·) := by
  induction sorted with
  | nil => exact ⟨List.Sublist.refl _, List.Pairwise.nil⟩
  | cons item rest ih =>
    obtain ⟨least, later⟩ := pairwise_cons.mp ascending
    obtain ⟨sublist, strict⟩ := ih later
    exact keepLast_spec sublist strict least

private lemma foldr_keepLast_of_distinct {sorted : List α} (nodup : (sorted.map key).Nodup) :
    sorted.foldr (keepLast key) [] = sorted := by
  induction sorted with
  | nil => rfl
  | cons item rest ih =>
    rw [map_cons, nodup_cons] at nodup
    rw [foldr_cons, ih nodup.2]
    cases rest with
    | nil => rfl
    | cons next others =>
      have differ : key item ≠ key next := fun same =>
        nodup.1 (same ▸ mem_map_of_mem mem_cons_self)
      exact if_neg differ

variable {items set : List α}

private lemma orderedSet_perm (nodup : (items.map key).Nodup) :
    (orderedSet key items).Perm items := by
  have sorted := perm_insertionSort (fun left right => key left ≤ key right) items
  rwa [orderedSet, foldr_keepLast_of_distinct ((sorted.map key).nodup_iff.mpr nodup)]

private lemma keys_of_orderedSet_length (all : (orderedSet key items).length = items.length) :
    (items.map key).Nodup := by
  have sorted := perm_insertionSort (fun left right => key left ≤ key right) items
  have ascending := pairwise_insertionSort (fun left right => key left ≤ key right) items
  obtain ⟨sublist, strict⟩ := orderedSet_spec _ ascending
  have whole := sublist.eq_of_length (all.trans sorted.length_eq.symm)
  rw [whole] at strict
  exact (sorted.map key).nodup_iff.mp (strict.imp fun less => less.ne)

private lemma insertIntoSet_perm (absent : key item ∉ set.map key) :
    (insertIntoSet key set item).Perm (item :: set) := by
  rw [insertIntoSet, if_neg absent]
  exact perm_orderedInsert _ item set

private lemma foldl_insertIntoSet_perm (nodup : ((set ++ items).map key).Nodup) :
    (items.foldl (insertIntoSet key) set).Perm (set ++ items) := by
  induction items generalizing set with
  | nil => simp
  | cons item rest ih =>
    have moved : (item :: set ++ rest).Perm (set ++ item :: rest) := (perm_middle).symm
    have absent : key item ∉ set.map key := by
      have front := (moved.map key).nodup_iff.mpr nodup
      rw [cons_append, map_cons, nodup_cons] at front
      exact fun mem => front.1 (by rw [map_append]; exact mem_append_left _ mem)
    have inserted : (insertIntoSet key set item ++ rest).Perm (item :: set ++ rest) :=
      (insertIntoSet_perm absent).append_right rest
    rw [foldl_cons]
    exact (ih (((inserted.trans moved).map key).nodup_iff.mpr nodup)).trans
      (inserted.trans moved)

private lemma foldl_insertIntoSet_length_le (items set : List α) :
    (items.foldl (insertIntoSet key) set).length ≤ set.length + items.length := by
  induction items generalizing set with
  | nil => simp
  | cons item rest ih =>
    have here : (insertIntoSet key set item).length ≤ set.length + 1 := by
      unfold insertIntoSet
      split
      · exact Nat.le_succ _
      · exact (orderedInsert_length _ set item).le
    have later := ih (insertIntoSet key set item)
    rw [foldl_cons, length_cons]
    omega

private lemma keys_of_insert_length (nodup : (set.map key).Nodup)
    (all : (items.foldl (insertIntoSet key) set).length = set.length + items.length) :
    ((set ++ items).map key).Nodup := by
  induction items generalizing set with
  | nil => simpa using nodup
  | cons item rest ih =>
    rw [foldl_cons] at all
    by_cases here : key item ∈ set.map key
    · have few : (rest.foldl (insertIntoSet key) (insertIntoSet key set item)).length ≤ _ :=
        foldl_insertIntoSet_length_le rest _
      rw [all, insertIntoSet, if_pos here, length_cons] at few
      omega
    · have inserted := insertIntoSet_perm here
      have fresh : ((insertIntoSet key set item).map key).Nodup := by
        rw [(inserted.map key).nodup_iff, map_cons, nodup_cons]
        exact ⟨here, nodup⟩
      have whole := ih fresh (by rw [all, inserted.length_eq, length_cons, length_cons]; omega)
      have moved : (insertIntoSet key set item ++ rest).Perm (set ++ item :: rest) :=
        (inserted.append_right rest).trans perm_middle.symm
      exact (moved.map key).nodup_iff.mp whole

end Sets

section Numbered

variable {α β : Type} (hash : α → UInt64) (make : UInt64 → α → β)

private lemma foldl_freshIds (add : List β → β → List β) (items : List α) (used : List UInt64)
    (made : List β) :
    (items.foldl (fun (state : List UInt64 × List β) item =>
      (freshId state.1 (hash item) :: state.1,
        add state.2 (make (freshId state.1 (hash item)) item))) (used, made)).2 =
      (zipWith make (freshIds used (items.map hash)) items).foldl add made := by
  induction items generalizing used made with
  | nil => simp [freshIds]
  | cons item rest ih => simp [freshIds, ih]

end Numbered

def SeparateIds (ids : List UInt64) (weights : List UInt16) : Prop :=
  (ids.zip weights).Pairwise fun left right =>
    left.2 = right.2 → left.1.toNat % 2 ^ 48 ≠ right.1.toNat % 2 ^ 48

/-- The address keeps 48 bits of each fresh identifier of 64. -/
def KeptApart (hashes : List UInt64) (weights : List UInt16) : Prop :=
  ∃ ids, Probed nextId [] hashes ids ∧ SeparateIds ids weights

def addressKey (entry : UInt64 × UInt16) : Nat ×ₗ Nat :=
  toLex (syntheticBackendAddr entry.1, entry.2.toNat)

private lemma separateIds_iff :
    SeparateIds ids weights ↔ ((ids.zip weights).map addressKey).Nodup := by
  rw [List.Nodup, pairwise_map, SeparateIds]
  have same : ∀ left right : UInt64 × UInt16,
      (left.2 = right.2 → left.1.toNat % 2 ^ 48 ≠ right.1.toNat % 2 ^ 48) ↔
        addressKey left ≠ addressKey right := by
    intro left right
    rw [addressKey, addressKey, ne_eq, ne_eq, toLex_inj, Prod.mk.injEq, UInt16.toNat_inj,
      syntheticBackendAddr, syntheticBackendAddr]
    tauto
  simp only [same]

private lemma length_le_of_keys {entries : List (UInt64 × UInt16)}
    (nodup : (entries.map addressKey).Nodup) : entries.length ≤ 2 ^ 64 := by
  have numbers : (entries.map fun entry =>
      syntheticBackendAddr entry.1 * 2 ^ 16 + entry.2.toNat).Nodup := by
    rw [List.Nodup, pairwise_map] at nodup ⊢
    refine nodup.imp fun {left right} differ same => differ ?_
    have leftSmall := left.2.toNat_lt
    have rightSmall := right.2.toNat_lt
    rw [addressKey, addressKey, toLex_inj, Prod.mk.injEq]
    omega
  have bound : (entries.map fun entry =>
      syntheticBackendAddr entry.1 * 2 ^ 16 + entry.2.toNat) ⊆ List.range (2 ^ 64) := by
    intro num mem
    obtain ⟨entry, _, rfl⟩ := mem_map.mp mem
    have small := entry.2.toNat_lt
    have address : syntheticBackendAddr entry.1 < 2 ^ 48 := Nat.mod_lt _ (by decide)
    rw [mem_range]
    omega
  have few := (numbers.subperm bound).length_le
  rwa [length_map, length_range] at few

variable {hashes : List UInt64} {γ : Type}

private lemma keptApart_iff (sameLength : hashes.length = weights.length) :
    KeptApart hashes weights ↔
    (((freshIds [] hashes).zip weights).map addressKey).Nodup := by
  constructor
  · rintro ⟨ids, probed, separate⟩
    rw [freshIds_of_probed probed]
    exact separateIds_iff.mp separate
  · intro nodup
    have few := length_le_of_keys nodup
    rw [length_zip, freshIds_length, ← sameLength, Nat.min_self] at few
    exact ⟨freshIds [] hashes, probed_freshIds (by simpa using few), separateIds_iff.mpr nodup⟩

private lemma map_first_zip {α β : Type} (value : α → γ) {left : List α} {right : List β}
    (count : left.length ≤ right.length) :
    ((left.zip right).map fun entry => value entry.1) = left.map value := by
  conv_rhs => rw [← map_fst_zip count, map_map]
  rfl

private lemma keptApart_of_addresses (sameLength : hashes.length = weights.length)
    (nodup : ((freshIds [] hashes).map syntheticBackendAddr).Nodup) :
    KeptApart hashes weights := by
  rw [keptApart_iff sameLength]
  apply List.Nodup.of_map fun key => (ofLex key).1
  rw [map_map]
  change (((freshIds [] hashes).zip weights).map fun entry => syntheticBackendAddr entry.1).Nodup
  rwa [map_first_zip syntheticBackendAddr (by rw [freshIds_length, sameLength])]

def serverBackend (id : UInt64) (server : CompiledUpstreamServer) : Backend where
  addr := syntheticBackendAddr id
  weight := server.weight.toNat
  server := some server

def backendKey (backend : Backend) : Nat ×ₗ Nat := toLex (backend.addr, backend.weight)

private lemma dynamicSyntheticBackends_eq (hashes : Hashes)
    (servers : List CompiledUpstreamServer) :
    dynamicSyntheticBackends hashes servers = .ok (orderedSet backendKey (zipWith serverBackend
        (freshIds [] (servers.map hashes.stableBackendId)) servers)) := by
  have numbered := foldl_freshIds hashes.stableBackendId serverBackend
    (fun made backend => made ++ [backend]) servers [] []
  rw [foldl_append_eq_append, ← flatMap_def, flatMap_singleton', nil_append] at numbered
  rw [← numbered]
  rfl

private lemma zipWith_keys {α β : Type} {key : β → Nat ×ₗ Nat} {make : UInt64 → α → β}
    {weight : α → UInt16} (keyed : ∀ id item, key (make id item) = addressKey (id, weight item))
    (ids : List UInt64) (items : List α) :
    (zipWith make ids items).map key = (ids.zip (items.map weight)).map addressKey := by
  rw [map_zipWith, zip_map_right, map_map, List.zip, map_zipWith]
  simp [keyed, Function.comp_apply, Prod.map_apply, id_eq]

private lemma zipWith_length {β : Type} {α : Type} (make : UInt64 → α → β) (hash : α → UInt64)
    (items : List α) :
    (zipWith make (freshIds [] (items.map hash)) items).length = items.length := by
  rw [length_zipWith, freshIds_length, length_map, Nat.min_self]

private lemma zipWith_items {α β : Type} {make : UInt64 → α → β} {item : β → γ} {given : α → γ}
    (made : ∀ id value, item (make id value) = given value) {hash : α → UInt64} (items : List α) :
    (zipWith make (freshIds [] (items.map hash)) items).map item = items.map given := by
  rw [map_zipWith]
  simp only [made]
  apply ext_getElem
  · rw [length_zipWith, freshIds_length, length_map, length_map, Nat.min_self]
  · intro pos _ _
    rw [getElem_zipWith, getElem_map]

private lemma server_backends_iff (hashes : Hashes) (servers : List CompiledUpstreamServer) :
    (∃ backends, dynamicSyntheticBackends hashes servers = .ok backends ∧
        (backends.map Backend.server).Perm (servers.map some)) ↔
      KeptApart (servers.map hashes.stableBackendId)
        (servers.map CompiledUpstreamServer.weight) := by
  have keyed : ∀ id server, backendKey (serverBackend id server) = addressKey (id, server.weight) :=
    fun _ _ => rfl
  have served : ∀ id server, (serverBackend id server).server = some server := fun _ _ => rfl
  rw [keptApart_iff (by rw [length_map, length_map]), ← zipWith_keys keyed,
    dynamicSyntheticBackends_eq]
  constructor
  · rintro ⟨backends, built, each⟩
    cases built
    have count := each.length_eq
    rw [length_map, length_map] at count
    apply keys_of_orderedSet_length
    rwa [zipWith_length]
  · intro nodup
    have all := (orderedSet_perm nodup).map Backend.server
    rw [zipWith_items served] at all
    exact ⟨_, rfl, all⟩

def NrfServicePool.representatives (hashes : Hashes)
    (services : List (NrfServiceMetadata × List Backend)) :
    Except String (List Representative) := do
  let weights ← normalizedCapacities (services.map fun entry => max entry.1.capacity 1)
  pure (representativeBackends hashes (services.zip weights))

private lemma selector_of_representatives {Selector : Type} (hashes : Hashes)
    (balancer : Balancer Selector) (policy : UpstreamSelectionPolicy) (nonempty : services ≠ []) :
    (build hashes balancer services policy).map
        (Option.map selector) = (do
      let representatives ← representatives hashes services
      pure (some (← balancer.build policy representatives))) := by
  unfold build representatives
  rw [if_neg nonempty]
  cases normalizedCapacities (services.map fun entry => max entry.1.capacity 1) with
  | error => rfl
  | ok weights =>
    simp only [ok_bind, pure, Except.pure]
    cases balancer.build policy (representativeBackends hashes (services.zip weights)) with
    | error | ok => rfl

def serviceRepresentative (id : UInt64)
    (entry : (NrfServiceMetadata × List Backend) × UInt16) : Representative where
  addr := syntheticBackendAddr id
  weight := entry.2.toNat
  service := entry.1.1

def representativeKey (item : Representative) : Nat ×ₗ Nat := toLex (item.addr, item.weight)

private lemma representativeBackends_eq (hashes : Hashes)
    (weighted : List ((NrfServiceMetadata × List Backend) × UInt16)) :
    representativeBackends hashes weighted = (zipWith serviceRepresentative
        (freshIds [] (weighted.map fun entry => hashes.stableNrfServiceId entry.1.1))
        weighted).foldl (insertIntoSet representativeKey) [] := by
  rw [← foldl_freshIds]
  rfl

private lemma representatives_iff (hashes : Hashes)
    (weighted : List ((NrfServiceMetadata × List Backend) × UInt16)) :
    ((representativeBackends hashes weighted).map Representative.service).Perm
        (weighted.map fun entry => entry.1.1) ↔
      KeptApart (weighted.map fun entry => hashes.stableNrfServiceId entry.1.1)
        (weighted.map Prod.snd) := by
  have keyed : ∀ id entry, representativeKey (serviceRepresentative id entry) =
      addressKey (id, Prod.snd entry) := fun _ _ => rfl
  have served : ∀ id entry, (serviceRepresentative id entry).service = entry.1.1 := fun _ _ => rfl
  rw [keptApart_iff (by rw [length_map, length_map]), ← zipWith_keys keyed,
    representativeBackends_eq]
  constructor
  · intro each
    have count := each.length_eq
    rw [length_map, length_map] at count
    rw [← nil_append (zipWith _ _ _)]
    apply keys_of_insert_length
    · exact nodup_nil
    · rw [count, zipWith_length, length_nil, Nat.zero_add]
  · intro nodup
    rw [← nil_append (zipWith _ _ _)] at nodup
    have all := (foldl_insertIntoSet_perm nodup).map Representative.service
    rwa [nil_append, zipWith_items served] at all

private lemma capacities_normalizable (ne : services ≠ []) (short : services.length ≤ 65535) :
    Normalizable (services.map fun entry => max entry.1.capacity 1) where
  nonempty := by simpa using ne
  short := by simpa using short
  positive := by
    intro capacity mem
    obtain ⟨entry, _, rfl⟩ := mem_map.mp mem
    change 0 < if entry.1.capacity ≤ 1 then 1 else entry.1.capacity
    split
    next => decide
    next large => exact UInt16.lt_trans (UInt16.zero_lt_one) (UInt16.not_le.mp large)

private lemma weights_of_services (services : List (NrfServiceMetadata × List Backend)) :
    (services.length ≤ 65535 ∧ ∃ weights,
        normalizedCapacities (services.map fun entry => max entry.1.capacity 1) = .ok weights ∧
          weights.length = services.length) ∨ 65535 < services.length ∧ ∀ weights,
        normalizedCapacities (services.map fun entry => max entry.1.capacity 1) ≠ .ok weights := by
  by_cases empty : services = []
  · subst empty
    exact .inl ⟨Nat.zero_le _, [], rfl, rfl⟩
  · by_cases short : services.length ≤ 65535
    · obtain ⟨weights, found, count⟩ := exists_weights (capacities_normalizable empty short)
      exact .inl ⟨short, weights, found, by rw [count, length_map]⟩
    · refine .inr ⟨not_le.mp short, fun weights => normalizedCapacities_long ?_⟩
      rw [length_map]
      exact not_le.mp short

lemma weights_length
    (found : normalizedCapacities (services.map fun entry => max entry.1.capacity 1) =
      .ok weights) : weights.length = services.length := by
  rcases weights_of_services services with ⟨_, others, same, count⟩ | ⟨_, refused⟩
  · rw [found] at same
    cases same
    exact count
  · exact absurd found (refused weights)

private lemma service_representatives_iff (hashes : Hashes)
    (services : List (NrfServiceMetadata × List Backend)) :
    (∃ representatives, NrfServicePool.representatives hashes services = .ok representatives ∧
        (representatives.map Representative.service).Perm (services.map Prod.fst)) ↔
      services.length ≤ 65535 ∧
        ∀ weights, normalizedCapacities (services.map fun entry => max entry.1.capacity 1) =
            .ok weights →
          KeptApart (services.map fun entry => hashes.stableNrfServiceId entry.1) weights := by
  unfold representatives
  rcases weights_of_services services with ⟨short, weights, found, count⟩ | ⟨long, refused⟩
  · have kept := representatives_iff hashes (services.zip weights)
    rw [map_first_zip Prod.fst count.ge,
      map_first_zip (fun entry => hashes.stableNrfServiceId entry.1) count.ge,
      map_snd_zip count.le] at kept
    simp [found, ok_bind, kept, short]
  · simp [refused, Nat.not_le.mpr long, bind_eq_ok]

/-- Every service gets an address of its own. -/
def DistinctAddresses (hashes : Hashes) (services : List (NrfServiceMetadata × List Backend)) :
    Prop :=
  ((freshIds [] (services.map fun entry => hashes.stableNrfServiceId entry.1)).map
    syntheticBackendAddr).Nodup

instance (hashes : Hashes) (services : List (NrfServiceMetadata × List Backend)) :
    Decidable (DistinctAddresses hashes services) :=
  inferInstanceAs (Decidable (List.Nodup _))

lemma representatives_of_addresses {hashes : Hashes} {reps : List Representative}
    (nodup : DistinctAddresses hashes services)
    (found : NrfServicePool.representatives hashes services = .ok reps) :
    (reps.map Representative.service).Perm (services.map Prod.fst) := by
  have apart : services.length ≤ 65535 ∧
      ∀ weights, normalizedCapacities (services.map fun entry => max entry.1.capacity 1) =
          .ok weights →
        KeptApart (services.map fun entry => hashes.stableNrfServiceId entry.1) weights := by
    rcases weights_of_services services with ⟨short, weights, known, count⟩ | ⟨_, refused⟩
    · refine ⟨short, fun others same => ?_⟩
      rw [known] at same
      cases same
      exact keptApart_of_addresses (by rw [length_map, count]) nodup
    · obtain ⟨weights, known, _⟩ := bind_eq_ok.mp found
      exact absurd known (refused weights)
  obtain ⟨others, same, each⟩ := (service_representatives_iff hashes services).mpr apart
  rw [found] at same
  cases same
  exact each

/-- A server has a backend of its own, and a service a representative, exactly when the
addresses keep those of one weight apart. -/
theorem one_backend_per_item_iff (hashes : Hashes) :
    (∀ servers : List CompiledUpstreamServer,
      (∃ backends, dynamicSyntheticBackends hashes servers = .ok backends ∧
          (backends.map Backend.server).Perm (servers.map some)) ↔
        KeptApart (servers.map hashes.stableBackendId)
          (servers.map CompiledUpstreamServer.weight)) ∧
    ∀ services : List (NrfServiceMetadata × List Backend),
      (services ≠ [] → ∀ (Selector : Type) (balancer : Balancer Selector)
          (policy : UpstreamSelectionPolicy),
        (build hashes balancer services policy).map
            (Option.map selector) = (do
          let representatives ← representatives hashes services
          pure (some (← balancer.build policy representatives)))) ∧
      ((∃ representatives, NrfServicePool.representatives hashes services = .ok representatives ∧
            (representatives.map Representative.service).Perm (services.map Prod.fst)) ↔
        services.length ≤ 65535 ∧
          ∀ weights, normalizedCapacities (services.map fun entry => max entry.1.capacity 1) =
              .ok weights →
            KeptApart (services.map fun entry => hashes.stableNrfServiceId entry.1) weights) := by
  constructor
  · exact server_backends_iff hashes
  · intro services
    constructor
    · intro nonempty Selector balancer policy
      exact selector_of_representatives hashes balancer policy nonempty
    · exact service_representatives_iff hashes services

def distantHashes : Hashes where
  stableBackendId server := if server.host = "a" then 0 else 2 ^ 48
  stableNrfServiceId service := if service.nfInstanceId = "a" then 0 else 2 ^ 48

def plainServer (host : String) : CompiledUpstreamServer where
  host
  port := 80
  weight := 1

def plainService (id : String) : NrfServiceMetadata where
  authority := none
  nfInstanceId := id
  serviceInstanceId := "s"
  priority := 0
  capacity := 1

/-- Two servers with different hashes have one backend, and two services one
representative. -/
theorem items_share_address :
    [plainServer "a", plainServer "b"].Nodup ∧
    dynamicSyntheticBackends distantHashes [plainServer "a", plainServer "b"] =
      .ok [{ addr := 0, weight := 1, server := some (plainServer "b") }] ∧
    [plainService "a", plainService "b"].Nodup ∧
    representatives distantHashes
        [(plainService "a", []), (plainService "b", [])] =
      .ok [{ addr := 0, weight := 1, service := plainService "a" }] := by
  refine ⟨by decide, by decide +kernel, by decide, by decide +kernel⟩

end Ngxora.Nrf
