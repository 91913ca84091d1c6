/-
The services an NRF returned: priority tiers, and pools weighted by capacity.
-/

import Mathlib.Data.Prod.Lex
import Ngxora.Router.Types

namespace Ngxora.Nrf

open Results

structure Backend where
  addr : Nat
  weight : Nat
  server : Option CompiledUpstreamServer
  deriving DecidableEq

structure Representative where
  addr : Nat
  weight : Nat
  service : NrfServiceMetadata
  deriving DecidableEq

/-- The load balancer of the proxy library. -/
structure Balancer (Selector : Type) where
  build : UpstreamSelectionPolicy → List Representative → Except String Selector
  selectWith : Selector → List UInt8 → Nat → (Representative → Bool) → Option Representative

structure Hashes where
  stableBackendId : CompiledUpstreamServer → UInt64
  stableNrfServiceId : NrfServiceMetadata → UInt64

/-- The address holds the low 48 bits of the identifier. -/
def syntheticBackendAddr (id : UInt64) : Nat := id.toNat % 2 ^ 48

def freshId (used : List UInt64) (id : UInt64) : UInt64 :=
  let candidates := (List.range (used.length + 1)).map fun offset => id + UInt64.ofNat offset
  (candidates.find? fun candidate => candidate ∉ used).getD id

def keepLast {α : Type} (key : α → Nat ×ₗ Nat) (item : α) (rest : List α) : List α :=
  match rest with
  | next :: _ => if key item = key next then rest else item :: rest
  | [] => [item]

def orderedSet {α : Type} (key : α → Nat ×ₗ Nat) (items : List α) : List α :=
  (items.insertionSort fun left right => key left ≤ key right).foldr (keepLast key) []

/-- `BTreeSet::insert`: an item whose key is there is not added. -/
def insertIntoSet {α : Type} (key : α → Nat ×ₗ Nat) (set : List α) (item : α) : List α :=
  if key item ∈ set.map key then set
  else set.orderedInsert (fun left right => key left ≤ key right) item

def backendSet (backends : List Backend) : List Backend :=
  orderedSet (fun backend => toLex (backend.addr, backend.weight)) backends

def dynamicSyntheticBackends (hashes : Hashes) (servers : List CompiledUpstreamServer) :
    Except String (List Backend) :=
  let numbered := servers.foldl (fun (state : List UInt64 × List Backend) server =>
    let id := freshId state.1 (hashes.stableBackendId server)
    (id :: state.1, state.2 ++
      [{ addr := syntheticBackendAddr id
         weight := server.weight.toNat
         server := some server }])) ([], [])
  .ok (backendSet numbered.2)

/-- Weights that add up to at most 65535, in proportion to the capacities. -/
def normalizedCapacities (capacities : List UInt16) : Except String (List UInt16) :=
  let limit := 65535
  let count := capacities.length
  if capacities = [] then .ok []
  else if (0 : UInt16) ∈ capacities then
    .error "positive-capacity NRF pool contains a zero capacity"
  else if count > limit then
    .error s!"NRF priority tier contains more than {limit} services"
  else
    let total := (capacities.map UInt16.toNat).sum
    if total ≤ limit then .ok capacities
    else
      let remaining := limit - count
      let scaled := capacities.map fun capacity => capacity.toNat * remaining
      let weights := scaled.map fun value => 1 + value / total
      let remainders := scaled.zipIdx.map fun entry => toLex (entry.1 % total, entry.2)
      let raised := ((remainders.insertionSort (· ≥ ·)).take (limit - weights.sum)).map fun entry =>
        (ofLex entry).2
      .ok (weights.zipIdx.map fun entry => let weight := UInt16.ofNat (min entry.1 limit)
        if entry.2 ∈ raised then UInt16.ofNat (min (weight.toNat + 1) limit) else weight)

example : normalizedCapacities [65535, 65535, 1] = .ok [32767, 32767, 1] := by decide +kernel

structure NrfEndpointIdentity where
  host : String
  port : UInt16
  apiPrefix : Option String
  deriving DecidableEq

abbrev NrfTopologySignature := List (NrfServiceMetadata × List NrfEndpointIdentity)

structure NrfServicePool (Selector : Type) where
  selector : Selector
  services : Table NrfServiceMetadata (List Backend)

structure NrfServiceTier (Selector : Type) where
  positiveCapacity : Option (NrfServicePool Selector)
  zeroCapacity : Option (NrfServicePool Selector)

structure NrfServiceTopology (Selector : Type) where
  signature : NrfTopologySignature
  tiers : List (NrfServiceTier Selector)

def serviceRank (service : NrfServiceMetadata) :
    List String ×ₗ (String ×ₗ (String ×ₗ (Nat ×ₗ Nat))) :=
  toLex (service.authority.toList, toLex (service.nfInstanceId, toLex (service.serviceInstanceId,
    toLex (service.priority.toNat, service.capacity.toNat))))

def serviceLe (left right : NrfServiceMetadata) : Prop := serviceRank left ≤ serviceRank right

instance : DecidableRel serviceLe := fun left right =>
  inferInstanceAs (Decidable (serviceRank left ≤ serviceRank right))

def addToService (services : Table NrfServiceMetadata (List Backend)) (backend : Backend) :
    Except String (Table NrfServiceMetadata (List Backend)) := do
  let server ← orFail backend.server "NRF backend is missing compiled endpoint metadata"
  let service ← orFail server.nrfService "NRF backend is missing service metadata"
  pure (services.insert service ((services.lookup service).getD [] ++ [backend]))

def representativeBackends (hashes : Hashes)
    (weighted : List ((NrfServiceMetadata × List Backend) × UInt16)) : List Representative :=
  (weighted.foldl (fun (state : List UInt64 × List Representative) entry =>
    let id := freshId state.1 (hashes.stableNrfServiceId entry.1.1)
    (id :: state.1, insertIntoSet (fun item => toLex (item.addr, item.weight)) state.2
      { addr := syntheticBackendAddr id
        weight := entry.2.toNat
        service := entry.1.1 })) ([], [])).2

variable {Selector : Type}

def NrfServicePool.build (hashes : Hashes) (balancer : Balancer Selector)
    (services : List (NrfServiceMetadata × List Backend)) (policy : UpstreamSelectionPolicy) :
    Except String (Option (NrfServicePool Selector)) :=
  if services = [] then .ok none
  else do
    let weights ← normalizedCapacities (services.map fun entry => max entry.1.capacity 1)
    let selector ← balancer.build policy (representativeBackends hashes (services.zip weights))
    pure (some
      { selector
        services := (services.zip weights).foldl (fun table entry =>
          table.insert entry.1.1 entry.1.2) ∅ })

def NrfServiceTier.build (hashes : Hashes) (balancer : Balancer Selector)
    (services : List (NrfServiceMetadata × List Backend)) (policy : UpstreamSelectionPolicy) :
    Except String (NrfServiceTier Selector) := do
  let (positive, zero) := services.partition fun entry => entry.1.capacity > 0
  let positiveCapacity ← NrfServicePool.build hashes balancer positive policy
  let zeroCapacity ← NrfServicePool.build hashes balancer zero policy
  pure { positiveCapacity, zeroCapacity }

def endpointIdentity (server : CompiledUpstreamServer) : NrfEndpointIdentity :=
  { host := server.host, port := server.port, apiPrefix := server.apiPrefix }

def byPriority (services : List (NrfServiceMetadata × List Backend)) :
    List (List (NrfServiceMetadata × List Backend)) :=
  let priorities := (services.map fun entry => entry.1.priority.toNat).dedup.insertionSort (· ≤ ·)
  priorities.map fun priority => services.filter fun entry => entry.1.priority.toNat = priority

def NrfServiceTopology.build (hashes : Hashes) (balancer : Balancer Selector)
    (backends : List Backend) (policy : UpstreamSelectionPolicy) :
    Except String (Option (NrfServiceTopology Selector)) := do
  let table ← backends.foldlM addToService ∅
  let services := (Table.sortedEntries serviceLe table).map fun entry => (entry.1, entry.2)
  if services = [] then pure none
  else do
    let tiers ← (byPriority services).mapM fun tier =>
      NrfServiceTier.build hashes balancer tier policy
    pure (some
      { signature := services.map fun entry =>
          (entry.1, (entry.2.filterMap Backend.server).map endpointIdentity)
        tiers })

def selectEndpoint (start : Nat) (ready : Backend → Bool) (endpoints : List Backend) :
    Option CompiledUpstreamServer :=
  ((endpoints.rotate start).find? ready).bind Backend.server

def NrfServicePool.select (balancer : Balancer Selector) (pool : NrfServicePool Selector)
    (starts : NrfServiceMetadata → Nat) (key : List UInt8) (ready : Backend → Bool) :
    Option CompiledUpstreamServer := do
  let backend ← balancer.selectWith pool.selector key (max pool.services.entries.length 256)
    fun backend => (pool.services.lookup backend.service).any fun endpoints => endpoints.any ready
  let endpoints ← pool.services.lookup backend.service
  selectEndpoint (starts backend.service) ready endpoints

def NrfServiceTier.select (balancer : Balancer Selector) (tier : NrfServiceTier Selector)
    (starts : NrfServiceMetadata → Nat) (key : List UInt8) (ready : Backend → Bool) :
    Option CompiledUpstreamServer :=
  (tier.positiveCapacity.bind fun pool => pool.select balancer starts key ready).or
    (tier.zeroCapacity.bind fun pool => pool.select balancer starts key ready)

def NrfServiceTopology.select (balancer : Balancer Selector)
    (topology : NrfServiceTopology Selector)
    (starts : NrfServiceMetadata → Nat) (key : List UInt8) (ready : Backend → Bool) :
    Option CompiledUpstreamServer :=
  topology.tiers.findSome? fun tier => tier.select balancer starts key ready

end Ngxora.Nrf
