/-
Selections from a topology.
-/

import Ngxora.Base.Fallback
import Ngxora.Nrf.Synthetic

namespace Ngxora.Nrf

open NrfServicePool NrfServiceTopology Table List Option Results Fallback

structure RotatingBalancer (Selector State : Type) where
  build : UpstreamSelectionPolicy → List Representative → Except String Selector
  selectWith : State → Selector → List UInt8 → Nat → (Representative → Bool) →
    Option Representative × State

def RotatingBalancer.inState {Selector State : Type} (balancer : RotatingBalancer Selector State)
    (state : State) : Balancer Selector where
  build := balancer.build
  selectWith selector key limit accept := (balancer.selectWith state selector key limit accept).1

/-- The counters of the services; a service is in one pool only. -/
structure Counters (State : Type) where
  nextEndpoint : NrfServiceMetadata → Nat
  rotation : State

variable {Selector State : Type}

def Counters.advance (counters : Counters State) (service : NrfServiceMetadata) :
    Counters State where
  nextEndpoint := Function.update counters.nextEndpoint service
    ((counters.nextEndpoint service + 1) % 2 ^ 64)
  rotation := counters.rotation

def scanned (start : Nat) (endpoints : List Backend) : List Backend :=
  (List.range endpoints.length).filterMap fun offset =>
    endpoints[(start + offset) % 2 ^ 64 % endpoints.length]?

def selectEndpointCounting (counters : Counters State) (service : NrfServiceMetadata)
    (ready : Backend → Bool) (endpoints : List Backend) :
    Option CompiledUpstreamServer × Counters State :=
  (((scanned (counters.nextEndpoint service) endpoints).find? ready).bind Backend.server,
    counters.advance service)

def NrfServicePool.accepts (pool : NrfServicePool Selector) (ready : Backend → Bool)
    (backend : Representative) : Bool :=
  (pool.services.lookup backend.service).any fun endpoints => endpoints.any ready

variable (balancer : RotatingBalancer Selector State)

def NrfServicePool.selectCounting (pool : NrfServicePool Selector) (key : List UInt8)
    (ready : Backend → Bool)
    (counters : Counters State) : Option CompiledUpstreamServer × Counters State :=
  let answer := balancer.selectWith counters.rotation pool.selector key
    (max pool.services.entries.length 256) (pool.accepts ready)
  let counters := { counters with rotation := answer.2 }
  match answer.1 with
  | none => (none, counters)
  | some backend =>
    match pool.services.lookup backend.service with
    | none => (none, counters)
    | some endpoints => selectEndpointCounting counters backend.service ready endpoints

def selectFromPool (pool : Option (NrfServicePool Selector)) (key : List UInt8)
    (ready : Backend → Bool)
    (counters : Counters State) : Option CompiledUpstreamServer × Counters State :=
  match pool with
  | none => (none, counters)
  | some pool => pool.selectCounting balancer key ready counters

def NrfServiceTier.selectCounting (tier : NrfServiceTier Selector) (key : List UInt8)
    (ready : Backend → Bool) :
    Counters State → Option CompiledUpstreamServer × Counters State :=
  orElse (selectFromPool balancer tier.positiveCapacity key ready)
    (selectFromPool balancer tier.zeroCapacity key ready)

def selectFromTiers (balancer : RotatingBalancer Selector State) (key : List UInt8)
    (ready : Backend → Bool) :
    List (NrfServiceTier Selector) → Counters State →
      Option CompiledUpstreamServer × Counters State
  | [], counters => (none, counters)
  | tier :: rest, counters =>
    orElse (tier.selectCounting balancer key ready) (selectFromTiers balancer key ready rest)
      counters

def NrfServiceTopology.selectCounting (topology : NrfServiceTopology Selector) (key : List UInt8)
    (ready : Backend → Bool) :
    Counters State → Option CompiledUpstreamServer × Counters State :=
  selectFromTiers balancer key ready topology.tiers

structure Selection where
  key : List UInt8
  ready : Backend → Bool

/-- Each selection starts from what the one before it left. -/
def NrfServiceTopology.countersAfter (topology : NrfServiceTopology Selector)
    (selections : List Selection)
    (counters : Counters State) : Counters State :=
  selections.foldl (fun counters selection =>
    (topology.selectCounting balancer selection.key selection.ready counters).2) counters

def freshCounters (rotation : State) : Counters State where
  nextEndpoint _ := 0
  rotation

lemma filterMap_getElem?_range {α : Type} (items : List α) :
    (List.range items.length).filterMap (fun pos => items[pos]?) = items := by
  induction items with
  | nil => rfl
  | cons item rest ih =>
    rw [length_cons, range_succ_eq_map, filterMap_cons, filterMap_map]
    simpa [Function.comp_def] using ih

variable {start : Nat} {endpoints backends : List Backend}
variable {balancer : Balancer Selector} {service : NrfServiceMetadata} {backend : Backend}
  {ready : Backend → Bool} {services : List (NrfServiceMetadata × List Backend)}

private lemma mem_of_mem_scanned (mem : backend ∈ scanned start endpoints) :
    backend ∈ endpoints := by
  obtain ⟨offset, _, pos⟩ := mem_filterMap.mp mem
  exact mem_of_getElem? pos

private lemma scanned_eq_rotate (fits : start + endpoints.length ≤ 2 ^ 64) :
    scanned start endpoints = endpoints.rotate start := by
  have looked : ∀ offset ∈ List.range endpoints.length,
      endpoints[(start + offset) % 2 ^ 64 % endpoints.length]? =
        (endpoints.rotate start)[offset]? := by
    intro offset inside
    have small := mem_range.mp inside
    have unwrapped : (start + offset) % 2 ^ 64 = start + offset := Nat.mod_eq_of_lt (by omega)
    rw [unwrapped, getElem?_rotate small, Nat.add_comm]
  rw [scanned, filterMap_congr looked, ← length_rotate endpoints start]
  exact filterMap_getElem?_range (endpoints.rotate start)

private lemma find_scanned_eq_none (fits : start + endpoints.length ≤ 2 ^ 64) :
    (scanned start endpoints).find? ready = none ↔ ∀ backend ∈ endpoints, ready backend = false := by
  rw [scanned_eq_rotate fits, find?_eq_none]
  simp only [mem_rotate, Bool.not_eq_true]

def preference (service : NrfServiceMetadata) : Nat ×ₗ Nat :=
  toLex (service.priority.toNat, if service.capacity > 0 then 0 else 1)

/-- The services a selection chooses from, while their counters do not wrap. -/
def offered (ready : Backend → Bool) :
    Items (Counters State) (NrfServiceMetadata × List Backend) NrfServiceMetadata (Nat ×ₗ Nat)
      CompiledUpstreamServer where
  rank entry := preference entry.1
  owner := Prod.fst
  ready entry := ∃ backend ∈ entry.2, ready backend = true
  gives entry server := ∃ backend ∈ entry.2, ready backend = true ∧ backend.server = some server
  usable counters entry := counters.nextEndpoint entry.1 + entry.2.length ≤ 2 ^ 64

/-- A representative that is accepted is found whenever there is one. -/
def RotatingBalancer.ReturnsAccepted (balancer : RotatingBalancer Selector State) : Prop :=
  ∀ policy representatives selector, balancer.build policy representatives = .ok selector →
    ∀ rotation key limit accept, (∃ backend ∈ representatives, accept backend = true) →
      ∃ backend ∈ representatives, accept backend = true ∧
        (balancer.selectWith rotation selector key limit accept).1 = some backend

section Pools

variable {hashes : Hashes} {services : List (NrfServiceMetadata × List Backend)}
  {policy : UpstreamSelectionPolicy} {pool : NrfServicePool Selector}

private lemma representatives_of_build
    (built : build hashes balancer services policy = .ok (some pool)) :
    ∃ reps, NrfServicePool.representatives hashes services = .ok reps ∧
      balancer.build policy reps = .ok pool.selector := by
  unfold NrfServicePool.build at built
  split at built
  · cases built
  · obtain ⟨weights, weighed, selector, balanced, built⟩ := bind₂_eq_ok.mp built
    cases built
    exact ⟨_, bind_eq_ok.mpr ⟨weights, weighed, rfl⟩, balanced⟩

private lemma lookup_of_build (nodup : (services.map Prod.fst).Nodup)
    (built : build hashes balancer services policy = .ok (some pool)) :
    pool.services.lookup service = some endpoints ↔ (service, endpoints) ∈ services := by
  unfold NrfServicePool.build at built
  split at built
  · cases built
  · obtain ⟨weights, weighed, selector, _, built⟩ := bind₂_eq_ok.mp built
    cases built
    have whole : (services.zip weights).map Prod.fst = services :=
      map_fst_zip (weights_length weighed).ge
    rw [← lookup_ofPairs nodup]
    conv_rhs => rw [← whole, foldl_map]

private lemma services_of_build_none
    (built : build hashes balancer services policy = .ok none) : services = [] := by
  unfold NrfServicePool.build at built
  split at built
  next empty => exact empty
  next =>
    obtain ⟨weights, _, selector, _, built⟩ := bind₂_eq_ok.mp built
    cases built

variable {balancer : RotatingBalancer Selector State} {initial : State}

variable {ready : Backend → Bool}

private lemma exists_accepted (nodup : (services.map Prod.fst).Nodup)
    (addresses : DistinctAddresses hashes services)
    (built : build hashes (balancer.inState initial) services policy = .ok (some pool))
    {entry : NrfServiceMetadata × List Backend} (mem : entry ∈ services)
    (listed : backend ∈ entry.2) (isReady : ready backend = true) :
    ∃ reps, balancer.build policy reps = .ok pool.selector ∧
      ∃ backend ∈ reps, pool.accepts ready backend = true := by
  obtain ⟨reps, found, balanced⟩ := representatives_of_build built
  have each := representatives_of_addresses addresses found
  have stands := each.mem_iff.mpr (mem_map_of_mem mem)
  obtain ⟨representative, here, service⟩ := mem_map.mp stands
  refine ⟨reps, balanced, representative, here, ?_⟩
  have known : pool.services.lookup representative.service = some entry.2 :=
    (lookup_of_build nodup built).mpr (service ▸ mem)
  rw [accepts, known, Option.any_some, List.any_eq_true]
  exact ⟨backend, listed, isReady⟩

private lemma exists_endpoints_of_accepts {representative : Representative}
    (ok : pool.accepts ready representative = true) :
    ∃ endpoints, pool.services.lookup representative.service = some endpoints ∧
      ∃ backend ∈ endpoints, ready backend = true := by
  obtain ⟨endpoints, known, some⟩ := (any_eq_true _ _).mp ok
  exact ⟨endpoints, known, any_eq_true.mp some⟩

private lemma selectCounting_cases (balancer : RotatingBalancer Selector State)
    (pool : NrfServicePool Selector) (key : List UInt8) (ready : Backend → Bool)
    (counters : Counters State) : ∃ rotation,
      pool.selectCounting balancer key ready counters = (none, { counters with rotation }) ∨
      ∃ service endpoints, pool.services.lookup service = some endpoints ∧
        pool.selectCounting balancer key ready counters =
          selectEndpointCounting { counters with rotation } service ready endpoints := by
  unfold NrfServicePool.selectCounting
  generalize balancer.selectWith counters.rotation pool.selector key
    (max pool.services.entries.length 256) (pool.accepts ready) = answer
  obtain ⟨found, rotation⟩ := answer
  refine ⟨rotation, ?_⟩
  cases found with
  | none => exact .inl rfl
  | some representative =>
    simp only
    cases known : pool.services.lookup representative.service with
    | none => exact .inl rfl
    | some endpoints => exact .inr ⟨representative.service, endpoints, known, rfl⟩

private lemma selectCounting_of_accepted (returns : balancer.ReturnsAccepted)
    {reps : List Representative}
    (balanced : balancer.build policy reps = .ok pool.selector) (key : List UInt8)
    (counters : Counters State)
    (ok : ∃ backend ∈ reps, pool.accepts ready backend = true) :
    ∃ rotation service endpoints, pool.services.lookup service = some endpoints ∧
      (∃ backend ∈ endpoints, ready backend = true) ∧
      pool.selectCounting balancer key ready counters =
        selectEndpointCounting { counters with rotation } service ready endpoints := by
  rcases returns policy reps pool.selector balanced counters.rotation key
    (max pool.services.entries.length 256) (pool.accepts ready) ok with
    ⟨representative, _, isAccepted, answered⟩
  obtain ⟨endpoints, known, isReady⟩ := exists_endpoints_of_accepts isAccepted
  refine ⟨(balancer.selectWith counters.rotation pool.selector key
    (max pool.services.entries.length 256) (pool.accepts ready)).2, representative.service,
    endpoints, known, isReady, ?_⟩
  unfold NrfServicePool.selectCounting
  simp only [answered, known]

private lemma pool_serves (returns : balancer.ReturnsAccepted)
    (distinct : (services.map Prod.fst).Nodup) (addresses : DistinctAddresses hashes services)
    (served : ∀ entry ∈ services, ∀ backend ∈ entry.2, backend.server.isSome)
    (level : ∀ entry ∈ services, ∀ other ∈ services, preference entry.1 = preference other.1)
    {found : Option (NrfServicePool Selector)}
    (built : build hashes (balancer.inState initial) services policy = .ok found)
    (key : List UInt8) (ready : Backend → Bool) :
    Serves (offered ready) (selectFromPool balancer found key ready) services := by
  cases found with
  | none =>
    rw [services_of_build_none built]
    exact .nothing
  | some pool =>
    change Serves (offered ready) (pool.selectCounting balancer key ready) services
    constructor
    case best =>
      intro counters _ server selected
      rcases selectCounting_cases balancer pool key ready counters with
        ⟨rotation, nothing | ⟨service, endpoints, known, scan⟩⟩
      · rw [nothing] at selected
        cases selected
      · rw [scan] at selected
        have member := (lookup_of_build distinct built).mp known
        obtain ⟨backend, first, same⟩ := bind_eq_some_iff.mp selected
        have present := mem_of_mem_scanned (mem_of_find?_eq_some first)
        exact ⟨_, member, ⟨backend, present, find?_some first, same⟩,
          fun other listed _ => (level _ member other listed).le⟩
    case complete =>
      rintro counters usable missing entry member ⟨backend, listed, isReady⟩
      rcases exists_accepted distinct addresses built member listed isReady with
        ⟨representatives, balanced, ok⟩
      rcases selectCounting_of_accepted returns balanced key counters ok with
        ⟨rotation, service, endpoints, known, ⟨other, present, otherReady⟩, scan⟩
      have serviceMember := (lookup_of_build distinct built).mp known
      have fits := usable _ serviceMember
      rw [scan] at missing
      cases first : (scanned (counters.nextEndpoint service) endpoints).find? ready with
      | none =>
        have unready := (find_scanned_eq_none fits).mp first other present
        rw [otherReady] at unready
        cases unready
      | some chosen =>
        have isServed := served _ serviceMember chosen
          (mem_of_mem_scanned (mem_of_find?_eq_some first))
        have unserved : chosen.server = none := by
          change Option.bind _ _ = none at missing
          rwa [first] at missing
        rw [unserved] at isServed
        cases isServed
    case keeps =>
      intro counters other apart usable
      rcases selectCounting_cases balancer pool key ready counters with
        ⟨rotation, nothing | ⟨service, endpoints, known, scan⟩⟩
      · rw [nothing]
        exact usable
      · rw [scan]
        have member := (lookup_of_build distinct built).mp known
        have different : other.1 ≠ service := by
          intro same
          exact apart (mem_map.mpr ⟨_, member, same.symm⟩)
        change Function.update counters.nextEndpoint service _ other.1 + _ ≤ _
        rw [Function.update_of_ne different]
        exact usable

end Pools

def tierPools (services : List (NrfServiceMetadata × List Backend)) :
    List (List (NrfServiceMetadata × List Backend)) :=
  [services.filter fun entry => entry.1.capacity > 0,
    services.filter fun entry => !decide (entry.1.capacity > 0)]

section Tiers

variable {hashes : Hashes} {services : List (NrfServiceMetadata × List Backend)}
  {policy : UpstreamSelectionPolicy} {balancer : RotatingBalancer Selector State} {initial : State}

private lemma nodup_of_filter {keep : NrfServiceMetadata × List Backend → Bool}
    (nodup : (services.map Prod.fst).Nodup) : ((services.filter keep).map Prod.fst).Nodup :=
  nodup.sublist ((filter_sublist).map Prod.fst)

private lemma tier_serves (returns : balancer.ReturnsAccepted)
    (nodup : (services.map Prod.fst).Nodup)
    (addresses : ∀ pool ∈ tierPools services, DistinctAddresses hashes pool)
    (served : ∀ entry ∈ services, ∀ backend ∈ entry.2, backend.server.isSome) {priority : Nat}
    (level : ∀ entry ∈ services, entry.1.priority.toNat = priority) {tier : NrfServiceTier Selector}
    (built : NrfServiceTier.build hashes (balancer.inState initial) services policy = .ok tier)
    (key : List UInt8) (ready : Backend → Bool) :
    Serves (offered ready) (tier.selectCounting balancer key ready) services := by
  unfold NrfServiceTier.build at built
  rw [partition_eq_filter_filter] at built
  obtain ⟨pos, positiveBuilt, zero, zeroBuilt, built⟩ := bind₂_eq_ok.mp built
  cases built
  have positiveRank : ∀ entry ∈ services.filter fun entry => entry.1.capacity > 0,
      preference entry.1 = toLex (priority, 0) := by
    intro entry mem
    obtain ⟨listed, capacity⟩ := mem_filter.mp mem
    rw [preference, level entry listed, if_pos (of_decide_eq_true capacity)]
  have zeroRank : ∀ entry ∈ services.filter fun entry => !decide (entry.1.capacity > 0),
      preference entry.1 = toLex (priority, 1) := by
    intro entry mem
    obtain ⟨listed, capacity⟩ := mem_filter.mp mem
    rw [preference, level entry listed, if_neg (by simpa using capacity)]
  have positiveServes := pool_serves returns (nodup_of_filter nodup)
    (addresses _ mem_cons_self)
    (fun entry mem => served entry (mem_of_mem_filter mem))
    (fun entry mem other listed => by rw [positiveRank entry mem, positiveRank other listed])
    positiveBuilt key ready
  have zeroServes := pool_serves returns (nodup_of_filter nodup)
    (addresses _ (mem_cons_of_mem _ mem_cons_self))
    (fun entry mem => served entry (mem_of_mem_filter mem))
    (fun entry mem other listed => by rw [zeroRank entry mem, zeroRank other listed])
    zeroBuilt key ready
  have both := positiveServes.orElse zeroServes (by
      intro entry mem other listed
      change preference entry.1 ≤ preference other.1
      rw [positiveRank entry mem, zeroRank other listed, Prod.Lex.toLex_le_toLex]
      exact .inr ⟨rfl, Nat.zero_le 1⟩)
    (by
      intro other listed owned
      obtain ⟨entry, mem, same⟩ := mem_map.mp owned
      have capacity := of_decide_eq_true (mem_filter.mp mem).2
      have none := (mem_filter.mp listed).2
      rw [show entry.1 = other.1 from same] at capacity
      simp [capacity] at none)
  refine both.of_mem_iff fun entry => ?_
  rw [mem_append, mem_filter, mem_filter]
  by_cases capacity : entry.1.capacity > 0
  · simp [capacity]
  · simp [capacity]

variable {tiers : List (NrfServiceTier Selector)}

private lemma tiers_serve (returns : balancer.ReturnsAccepted)
    (nodup : (services.map Prod.fst).Nodup)
    (served : ∀ entry ∈ services, ∀ backend ∈ entry.2, backend.server.isSome) (key : List UInt8)
    (ready : Backend → Bool) {priorities : List Nat} (increasing : priorities.Pairwise (· < ·))
    (addresses : ∀ priority ∈ priorities,
      ∀ pool ∈ tierPools (services.filter fun entry => entry.1.priority.toNat = priority),
        DistinctAddresses hashes pool) (built : List.Forall₂ (fun priority tier =>
      NrfServiceTier.build hashes (balancer.inState initial)
        (services.filter fun entry => entry.1.priority.toNat = priority) policy = .ok tier)
      priorities tiers) : Serves (offered ready) (selectFromTiers balancer key ready tiers)
      (services.filter fun entry => entry.1.priority.toNat ∈ priorities) := by
  induction built with
  | nil =>
    simp only [not_mem_nil, decide_false, filter_false]
    exact .nothing
  | @cons priority tier rest tiers tierBuilt _ ih =>
    obtain ⟨lowest, restIncreasing⟩ := pairwise_cons.mp increasing
    obtain ⟨tierAddresses, restAddresses⟩ := forall_mem_cons.mp addresses
    have first := tier_serves returns (nodup_of_filter nodup) tierAddresses
      (fun entry mem => served entry (mem_of_mem_filter mem))
      (fun entry mem => of_decide_eq_true (mem_filter.mp mem).2) tierBuilt key ready
    have all := first.orElse (ih restIncreasing restAddresses) (by
        intro entry mem other listed
        have here := of_decide_eq_true (mem_filter.mp mem).2
        have later := lowest _ (of_decide_eq_true (mem_filter.mp listed).2)
        rw [← here] at later
        exact (Prod.Lex.toLex_le_toLex).mpr (.inl later))
      (by
        intro other listed owned
        obtain ⟨entry, mem, same⟩ := mem_map.mp owned
        have here := of_decide_eq_true (mem_filter.mp mem).2
        have later := lowest _ (of_decide_eq_true (mem_filter.mp listed).2)
        rw [← here, show entry.1 = other.1 from same] at later
        exact Nat.lt_irrefl _ later)
    refine all.of_mem_iff fun entry => ?_
    rw [mem_append, mem_filter, mem_filter, mem_filter]
    simp only [decide_eq_true_eq, mem_cons]
    tauto

private lemma topology_serves (returns : balancer.ReturnsAccepted)
    (nodup : (services.map Prod.fst).Nodup)
    (served : ∀ entry ∈ services, ∀ backend ∈ entry.2, backend.server.isSome)
    (addresses : ∀ tier ∈ byPriority services, ∀ pool ∈ tierPools tier,
      DistinctAddresses hashes pool) (built : (byPriority services).mapM (fun tier =>
      NrfServiceTier.build hashes (balancer.inState initial) tier policy) = .ok tiers)
    (key : List UInt8) (ready : Backend → Bool) :
    Serves (offered ready) (selectFromTiers balancer key ready tiers) services := by
  unfold byPriority at built addresses
  simp only at built addresses
  generalize sorted : (services.map fun entry => entry.1.priority.toNat).dedup.insertionSort
    (· ≤ ·) = priorities at built addresses
  have same : ∀ priority, priority ∈ priorities ↔
      priority ∈ services.map fun entry => entry.1.priority.toNat := by
    intro priority
    rw [← sorted, mem_insertionSort, mem_dedup]
  have increasing : priorities.Pairwise (· < ·) := by
    have ordered : priorities.Pairwise (· ≤ ·) := by
      rw [← sorted]
      exact pairwise_insertionSort _ _
    have ne : priorities.Nodup := by
      rw [← sorted, (perm_insertionSort _ _).nodup_iff]
      exact nodup_dedup _
    exact (ordered.and ne).imp fun both => lt_of_le_of_ne both.1 both.2
  have each := forall₂_map_left_iff.mp (mapM_eq_ok.mp built)
  have serves := tiers_serve returns nodup served key ready increasing
    (fun priority mem => addresses _ (mem_map_of_mem mem)) each
  refine serves.of_mem_iff fun entry => ?_
  rw [mem_filter]
  simp only [decide_eq_true_eq, same]
  exact and_iff_left_of_imp fun mem => mem_map_of_mem mem

end Tiers

def Backend.nrfService (backend : Backend) : Option NrfServiceMetadata :=
  backend.server.bind CompiledUpstreamServer.nrfService

def groupServices (backends : List Backend) :
    Except String (List (NrfServiceMetadata × List Backend)) := do
  let table ← backends.foldlM addToService ∅
  pure ((Table.sortedEntries serviceLe table).map fun entry => (entry.1, entry.2))

private lemma collected_endpoints {start table : Table NrfServiceMetadata (List Backend)}
    (collected : backends.foldlM addToService start = .ok table) :
    (∀ backend ∈ backends, backend.nrfService.isSome) ∧
      ∀ service, (table.lookup service).getD [] = (start.lookup service).getD [] ++
        backends.filter fun backend => backend.nrfService = some service := by
  induction backends generalizing start with
  | nil =>
    cases foldlM_nil_eq_ok.mp collected
    simp
  | cons backend rest ih =>
    obtain ⟨next, added, collected⟩ := foldlM_cons_eq_ok.mp collected
    obtain ⟨server, hasServer, metadata, hasService, added⟩ := bind₂_eq_ok.mp added
    cases added
    have known : backend.nrfService = some metadata := by
      rw [Backend.nrfService, orFail_eq_ok.mp hasServer, bind_some, orFail_eq_ok.mp hasService]
    obtain ⟨restKnown, restEndpoints⟩ := ih collected
    constructor
    · exact forall_mem_cons.mpr ⟨by rw [known]; rfl, restKnown⟩
    · intro service
      rw [restEndpoints service, lookup_insert_eq, filter_cons, known]
      by_cases same : service = metadata
      · subst same
        simp
      · simp [same, Ne.symm same]

/-- Each service with its endpoints, in their order. -/
structure Grouped (backends : List Backend)
    (services : List (NrfServiceMetadata × List Backend)) : Prop where
  distinct : (services.map Prod.fst).Nodup
  endpoints : ∀ entry ∈ services,
    entry.2 = backends.filter fun backend => backend.nrfService = some entry.1
  listed : ∀ backend ∈ backends, ∃ entry ∈ services,
    backend.nrfService = some entry.1 ∧ backend ∈ entry.2

private lemma grouped_of_groupServices (grouped : groupServices backends = .ok services) :
    Grouped backends services := by
  obtain ⟨table, collected, same⟩ := bind_eq_ok.mp grouped
  cases same
  obtain ⟨known, endpoints⟩ := collected_endpoints collected
  have members : ∀ {service : NrfServiceMetadata} {found : List Backend},
      (service, found) ∈ (Table.sortedEntries serviceLe table).map (fun entry =>
        (entry.1, entry.2)) ↔ table.lookup service = some found := by
    intro service found
    rw [← mem_sortedEntries serviceLe, List.mem_map]
    constructor
    · rintro ⟨entry, mem, same⟩
      cases same
      exact mem
    · intro mem
      exact ⟨_, mem, rfl⟩
  constructor
  case distinct =>
    rw [List.map_map]
    exact ((perm_sortBy serviceLe Sigma.fst table.entries).map Sigma.fst).nodup_iff.mpr
      table.keys_nodup
  case endpoints =>
    rintro ⟨service, found⟩ mem
    have here := endpoints service
    rw [members.mp mem] at here
    simpa using here
  case listed =>
    intro backend present
    obtain ⟨service, isKnown⟩ := isSome_iff_exists.mp (known backend present)
    have here := endpoints service
    have inside : backend ∈ (table.lookup service).getD [] := by
      rw [here]
      simp [present, isKnown]
    cases found : table.lookup service with
    | none => simp [found] at inside
    | some others =>
      rw [found] at inside
      exact ⟨(service, others), members.mpr found, isKnown, inside⟩

private lemma tiers_of_build {hashes : Hashes} {policy : UpstreamSelectionPolicy}
    {topology : NrfServiceTopology Selector}
    (built : build hashes balancer backends policy = .ok (some topology)) :
    ∃ services, groupServices backends = .ok services ∧ (byPriority services).mapM (fun tier =>
        NrfServiceTier.build hashes balancer tier policy) = .ok topology.tiers := by
  obtain ⟨table, collected, built⟩ := bind_eq_ok.mp built
  simp only at built
  split at built
  · cases built
  · obtain ⟨tiers, tiersBuilt, built⟩ := bind_eq_ok.mp built
    cases built
    exact ⟨_, bind_eq_ok.mpr ⟨table, collected, rfl⟩, tiersBuilt⟩

/-- An endpoint that is ready, of the lowest priority that has one, and of a service with
capacity if that priority has one; nothing only when no endpoint is ready. -/
structure Honours (backends : List Backend) (ready : Backend → Bool)
    (selected : Option CompiledUpstreamServer) : Prop where
  chosen : ∀ server, selected = some server → ∃ backend ∈ backends, ∃ service,
    backend.server = some server ∧ server.nrfService = some service ∧ ready backend = true ∧
      (∀ other ∈ backends, ready other = true → ∀ rival, other.nrfService = some rival →
        service.priority ≤ rival.priority) ∧
      (service.capacity = 0 → ∀ other ∈ backends, ready other = true →
        ∀ rival, other.nrfService = some rival → rival.priority = service.priority →
          rival.capacity = 0)
  nothing : selected = none ↔ ∀ backend ∈ backends, ready backend = false

private lemma preference_le {rival : NrfServiceMetadata}
    (below : preference service ≤ preference rival) :
    service.priority ≤ rival.priority ∧
      (service.capacity = 0 → rival.priority = service.priority → rival.capacity = 0) := by
  rcases Prod.Lex.toLex_le_toLex.mp below with lower | ⟨same, capacity⟩
  · refine ⟨UInt16.le_iff_toNat_le.mpr lower.le, fun _ equal => ?_⟩
    rw [equal] at lower
    exact absurd lower (Nat.lt_irrefl _)
  · refine ⟨UInt16.le_iff_toNat_le.mpr same.le, fun none _ => ?_⟩
    by_contra pos
    have more : rival.capacity > 0 := UInt16.pos_iff_ne_zero.mpr pos
    simp [none, more] at capacity

private lemma honours_of_serves (grouped : Grouped backends services)
    {step : Counters State → Option CompiledUpstreamServer × Counters State}
    (serves : Serves (offered ready) step services) {counters : Counters State}
    (usable : ∀ entry ∈ services, (offered ready).usable counters entry) :
    Honours backends ready (step counters).1 := by
  constructor
  case chosen =>
    intro server selected
    rcases serves.best counters usable server selected with
      ⟨entry, mem, ⟨backend, listed, isReady, served⟩, least⟩
    have mine := grouped.endpoints entry mem
    rw [mine] at listed
    obtain ⟨present, belongs⟩ := mem_filter.mp listed
    have service : server.nrfService = some entry.1 := by
      have known := of_decide_eq_true belongs
      rwa [Backend.nrfService, served, bind_some] at known
    have below : ∀ other ∈ backends, ready other = true → ∀ rival,
        other.nrfService = some rival → preference entry.1 ≤ preference rival := by
      intro other otherPresent otherReady rival itsService
      obtain ⟨others, othersMember, known, inside⟩ := grouped.listed other otherPresent
      have best := least others othersMember ⟨other, inside, otherReady⟩
      rw [itsService] at known
      cases known
      exact best
    exact ⟨backend, present, entry.1, served, service, isReady,
      fun other here otherReady rival known =>
        (preference_le (below other here otherReady rival known)).1,
      fun none other here otherReady rival known =>
        (preference_le (below other here otherReady rival known)).2 none⟩
  case nothing =>
    constructor
    · intro missing backend present
      obtain ⟨entry, mem, _, inside⟩ := grouped.listed backend present
      have unready := serves.complete counters usable missing entry mem
      by_contra isReady
      exact unready ⟨backend, inside, Bool.not_eq_false _ ▸ isReady⟩
    · intro unready
      cases found : (step counters).1 with
      | none => rfl
      | some server =>
        rcases serves.best counters usable server found with
          ⟨entry, mem, ⟨backend, listed, isReady, _⟩, _⟩
        rw [grouped.endpoints entry mem] at listed
        rw [unready backend (mem_of_mem_filter listed)] at isReady
        cases isReady

/-- Whatever was selected before, a selection honours priority, capacity and health. -/
theorem selection_honours_priority {hashes : Hashes}
    {balancer : RotatingBalancer Selector State} (returns : balancer.ReturnsAccepted)
    {backends : List Backend} {policy : UpstreamSelectionPolicy} {initial : State}
    {topology : NrfServiceTopology Selector}
    (built : build hashes (balancer.inState initial) backends policy =
      .ok (some topology))
    (addresses : ∀ services, groupServices backends = .ok services →
      ∀ tier ∈ byPriority services, ∀ pool ∈ tierPools tier, DistinctAddresses hashes pool)
    (prior : List Selection)
    (unwrapped : ∀ service,
      (topology.countersAfter balancer prior (freshCounters initial)).nextEndpoint service +
        (backends.filter fun backend => backend.nrfService = some service).length ≤ 2 ^ 64)
    (key : List UInt8) (ready : Backend → Bool) :
    Honours backends ready (topology.selectCounting balancer key ready
      (topology.countersAfter balancer prior (freshCounters initial))).1 := by
  rcases tiers_of_build built with ⟨services, found, tiersBuilt⟩
  have grouped := grouped_of_groupServices found
  have served : ∀ entry ∈ services, ∀ backend ∈ entry.2, backend.server.isSome := by
    intro entry member backend listed
    rw [grouped.endpoints entry member] at listed
    have known := of_decide_eq_true (mem_filter.mp listed).2
    rcases bind_eq_some_iff.mp known with ⟨server, isServer, _⟩
    rw [isServer]
    rfl
  have serves := topology_serves returns grouped.distinct served (addresses services found)
    tiersBuilt key ready
  apply honours_of_serves grouped serves
  intro entry member
  have fits := unwrapped entry.1
  rwa [← grouped.endpoints entry member] at fits

def firstAccepted : RotatingBalancer (List Representative) Unit where
  build _ representatives := .ok representatives
  selectWith _ representatives _ _ accept := (representatives.find? accept, ())

private lemma firstAccepted_returns : firstAccepted.ReturnsAccepted := by
  intro policy reps selector built rotation key limit accept exist
  cases built
  obtain ⟨backend, mem, ok⟩ := exist
  have found : (reps.find? accept).isSome := find?_isSome.mpr ⟨backend, mem, ok⟩
  obtain ⟨first, same⟩ := isSome_iff_exists.mp found
  exact ⟨first, mem_of_find?_eq_some same, find?_some same, same⟩

def endpointAt (addr : Nat) (id : String) (priority capacity : UInt16) : Backend where
  addr
  weight := 1
  server := some
    { host := "h"
      port := 80
      weight := 1
      nrfService := some
        { authority := none, nfInstanceId := id, serviceInstanceId := "s", priority, capacity } }

def hashesById : Hashes where
  stableBackendId _ := 0
  stableNrfServiceId service := if service.nfInstanceId = "a" then 0 else 1

def threeEndpoints : List Backend :=
  [endpointAt 0 "a" 0 0, endpointAt 1 "b" 0 1, endpointAt 2 "c" 1 1]

theorem three_services_honour_priority :
    ∃ topology, build hashesById (firstAccepted.inState ()) threeEndpoints
        .roundRobin = .ok (some topology) ∧
      Honours threeEndpoints (fun backend => backend.addr ≠ 1)
        (topology.selectCounting firstAccepted [] (fun backend => backend.addr ≠ 1)
          (topology.countersAfter firstAccepted [] (freshCounters ()))).1 := by
  obtain ⟨topology, built, _⟩ : ∃ topology, build hashesById (firstAccepted.inState ())
      threeEndpoints .roundRobin = .ok (some topology) ∧ True := by decide +kernel
  have groups : (groupServices threeEndpoints).toOption.all (fun services =>
      (byPriority services).all fun tier => (tierPools tier).all fun pool =>
        decide (DistinctAddresses hashesById pool)) := by decide +kernel
  refine ⟨topology, built, selection_honours_priority firstAccepted_returns built ?_ [] ?_ [] _⟩
  · intro services grouped tier tierMember pool poolMember
    rw [grouped] at groups
    simp only [Except.toOption, Option.all_some, List.all_eq_true] at groups
    exact of_decide_eq_true (groups tier tierMember pool poolMember)
  · intro service
    have few := length_filter_le (fun backend => backend.nrfService = some service)
      threeEndpoints
    change 0 + _ ≤ _
    exact (Nat.zero_add _).le.trans (few.trans (by decide))

end Ngxora.Nrf
