/-
Endpoints from the profiles an NRF returns.
-/

import Ngxora.Nrf.Discovery
import Ngxora.Router.Scp

namespace Ngxora.Nrf

open Text List Option Results Router

structure NrfQuery where
  nfInstanceId : Option String := none
  requesterInstanceId : Option String := none
  serviceInstanceId : Option String := none
  apiVersion : String := ""
  serviceNames : List String := []
  deriving DecidableEq

structure IpEndPoint where
  ipv4Address : Option String := none
  ipv6Address : Option String := none
  port : Option UInt16 := none

structure NfService where
  versions : List String := []
  serviceInstanceId : Option String := none
  serviceName : String
  scheme : String
  nfServiceStatus : String
  priority : Option UInt64 := none
  capacity : Option UInt64 := none
  fqdn : Option String := none
  ipEndPoints : List IpEndPoint := []
  apiPrefix : Option String := none

structure NfProfile where
  nfType : Option String := none
  nfInstanceId : Option String := none
  nfStatus : String
  priority : Option UInt64 := none
  capacity : Option UInt64 := none
  fqdn : Option String := none
  ipv4Addresses : List String := []
  ipv6Addresses : List String := []
  nfServices : List NfService := []
  /-- In the order of the keys. -/
  nfServiceList : List (String × NfService) := []

structure SearchResult where
  validityPeriod : Option UInt64 := none
  nfInstances : List NfProfile

structure Endpoint where
  metadata : NrfServiceMetadata
  host : String
  port : UInt16
  apiPrefix : Option String
  deriving DecidableEq

def nonEmptyId (value : Option String) : Option String :=
  (value.map trim).filter fun value => !value.isEmpty

def optionalU16 (value : Option UInt64) (label : String) : Except String (Option UInt16) :=
  match value with
  | none => .ok none
  | some value =>
    if value.toNat < 2 ^ 16 then .ok (some (UInt16.ofNat value.toNat))
    else .error s!"{label} must be in the range 0..=65535"

def normalizeApiPrefix (platform : Platform) (pathPrefix : Option String) :
    Except String (Option String) :=
  match pathPrefix.filter fun text => !text.isEmpty with
  | none => .ok none
  | some text => do
    rejectIf (!startsWith "/" text || startsWith "//" text)
      "expected an absolute path beginning with one `/`"
    rejectIf (contains '#' text) "fragments are not allowed"
    rejectIf (!platform.pathAndQueryParses text) "invalid path"
    rejectIf (contains '?' text) "query parameters are not allowed"
    let trimmed := trimEndMatches '/' text
    pure (if trimmed.isEmpty then none else some trimmed)

/-- `token` of the SCP requests. -/
def token (value : String) : Bool :=
  !value.isEmpty && decide (byteLength value ≤ 256) &&
    value.toList.all fun char => char.isAlphanum || ['-', '_', '.'].contains char

def schemeText : NrfEndpointScheme → String
  | .http => "http"
  | .https => "https"

def addEndpoint (hostParses : String → Bool) (host : String) (port : UInt16)
    (apiPrefix : Option String) (metadata : NrfServiceMetadata) (endpoints : List Endpoint) :
    List Endpoint :=
  let host := String.ofList
    (trimChars (['[', ']'].contains ·) (trim host).toList)
  let validHost := (Net.IpAddr.parse host).isSome || hostParses host
  if host.isEmpty || port == 0 || !validHost then endpoints
  else
    let endpoint : Endpoint := { metadata, host := toAsciiLowercase host, port, apiPrefix }
    if endpoint ∈ endpoints then endpoints else endpoint :: endpoints

structure Extraction where
  endpoints : List Endpoint := []
  invalidApi : Bool := false

/-- `hostParses` says whether the `url` crate accepts a host. -/
structure Search where
  platform : Platform
  hostParses : String → Bool
  config : CompiledNrfDiscovery
  query : Option NrfQuery

namespace Search

variable (search : Search) (profile : NfProfile)

def scheme : String := schemeText search.config.endpointScheme

def defaultPort : UInt16 := if search.scheme = "https" then 443 else 80

def addAll (metadata : NrfServiceMetadata) (apiPrefix : Option String)
    (targets : List (String × UInt16)) (endpoints : List Endpoint) : List Endpoint :=
  targets.foldl (fun endpoints target =>
    addEndpoint search.hostParses target.1 target.2 apiPrefix metadata endpoints) endpoints

def ownTargets (service : NfService) : List (String × UInt16) :=
  service.ipEndPoints.flatMap fun endpoint =>
    (endpoint.ipv4Address.toList ++ endpoint.ipv6Address.toList).map fun host =>
      (host, endpoint.port.getD search.defaultPort)

def serviceEndpoints (service : NfService) (metadata : NrfServiceMetadata)
    (apiPrefix : Option String) (endpoints : List Endpoint) :
    List Endpoint :=
  let named := (service.fqdn.or profile.fqdn).filter fun _ => search.query.isNone ||
    service.ipEndPoints.all fun endpoint =>
      endpoint.ipv4Address.isNone && endpoint.ipv6Address.isNone
  match named with
  | some host =>
    let ports := (service.ipEndPoints.filterMap IpEndPoint.port).dedup.insertionSort
      fun left right => left ≤ right
    let ports := if ports = [] then [search.defaultPort] else ports
    search.addAll metadata apiPrefix (ports.map fun port => (host, port)) endpoints
  | none =>
    let added := search.addAll metadata apiPrefix (search.ownTargets service) endpoints
    if added.length = endpoints.length then
      search.addAll metadata apiPrefix
        ((profile.ipv4Addresses ++ profile.ipv6Addresses).map fun host =>
          (host, search.defaultPort)) added
    else added

def authorityValid (metadata : NrfServiceMetadata) (apiPrefix : Option String) : Bool :=
  let host := metadata.authority.getD "nf.invalid"
  match ApiRoot.parse search.platform (search.scheme ++ "://" ++ host ++ apiPrefix.getD "") with
  | .error _ => false
  | .ok root => root.host == toAsciiLowercase host && root.port == search.defaultPort

/-- A service that does not qualify is skipped. -/
def extractService (nfInstanceId : String) (profilePriority profileCapacity : Option UInt16)
    (state : Extraction)
    (service : NfService) : Extraction :=
  if service.serviceName ≠ search.config.serviceName ||
      !eqIgnoreAsciiCase service.nfServiceStatus "REGISTERED" ||
      !eqIgnoreAsciiCase service.scheme search.scheme then state
  else
    match nonEmptyId service.serviceInstanceId with
    | none => state
    | some serviceInstanceId =>
      if search.query.any fun query =>
          query.serviceInstanceId.any fun id => id ≠ serviceInstanceId then state
      else if search.query.any fun query => !service.versions.contains query.apiVersion then
        { state with invalidApi := true }
      else
        match optionalU16 service.priority "service priority",
            optionalU16 service.capacity "service capacity" with
        | .ok servicePriority, .ok serviceCapacity =>
          let metadata : NrfServiceMetadata :=
            { authority := search.query.bind fun _ => service.fqdn.or profile.fqdn
              nfInstanceId
              serviceInstanceId
              priority := (servicePriority.or profilePriority).getD 65535
              capacity := (serviceCapacity.or profileCapacity).getD 1 }
          if search.query.isSome && (!token nfInstanceId || !token serviceInstanceId) then state
          else
            match normalizeApiPrefix search.platform service.apiPrefix with
            | .error _ => state
            | .ok apiPrefix =>
              if search.query.isSome && !search.authorityValid metadata apiPrefix then state
              else
                { state with
                  endpoints := search.serviceEndpoints profile service metadata apiPrefix
                    state.endpoints }
        | _, _ => state

def services : List NfService :=
  profile.nfServices ++ profile.nfServiceList.filterMap fun entry =>
    if entry.2.serviceInstanceId = some entry.1 then some entry.2 else none

def extractProfile (state : Extraction) (profile : NfProfile) : Extraction :=
  if search.query.isSome && profile.nfType ≠ some search.config.targetNfType then state
  else if !eqIgnoreAsciiCase profile.nfStatus "REGISTERED" then state
  else
    match nonEmptyId profile.nfInstanceId with
    | none => state
    | some nfInstanceId =>
      if search.query.any fun query => query.nfInstanceId.any fun id => id ≠ nfInstanceId then
        state
      else
        match optionalU16 profile.priority "profile priority",
            optionalU16 profile.capacity "profile capacity" with
        | .ok priority, .ok capacity =>
          (services profile).foldl
            (search.extractService profile nfInstanceId priority capacity) state
        | _, _ => state

end Search

/-- The order of the set: no prefix comes first. -/
def endpointRank (endpoint : Endpoint) :
    (List String ×ₗ (String ×ₗ (String ×ₗ (Nat ×ₗ Nat)))) ×ₗ (String ×ₗ (Nat ×ₗ List String)) :=
  toLex (serviceRank endpoint.metadata,
    toLex (endpoint.host, toLex (endpoint.port.toNat, endpoint.apiPrefix.toList)))

def endpointLe (left right : Endpoint) : Prop := endpointRank left ≤ endpointRank right

instance : DecidableRel endpointLe := fun left right =>
  inferInstanceAs (Decidable (endpointRank left ≤ endpointRank right))

def Endpoint.server (endpoint : Endpoint) : CompiledUpstreamServer where
  host := endpoint.host
  port := endpoint.port
  weight := 1
  apiPrefix := endpoint.apiPrefix
  nrfService := some endpoint.metadata

def extractQueryEndpoints (search : Search) (profiles : List NfProfile) :
    List CompiledUpstreamServer × Bool :=
  let state := profiles.foldl search.extractProfile {}
  let endpoints := (state.endpoints.insertionSort endpointLe).map Endpoint.server
  (endpoints, state.invalidApi && endpoints.isEmpty)

def discoveryResult (search : Search) (answer : SearchResult) : DiscoveryResult :=
  let (endpoints, invalidApi) := extractQueryEndpoints search answer.nfInstances
  { endpoints
    invalidApi
    validity := ((answer.validityPeriod.map Duration.fromSecs).filter fun validity =>
      !validity.isZero).getD (Duration.fromSecs 30) }

namespace Search

/-- The service is what was asked for. -/
structure Accepts (search : Search) (profile : NfProfile) (service : NfService)
    (metadata : NrfServiceMetadata) : Prop where
  targetType : search.query.isSome → profile.nfType = some search.config.targetNfType
  serviceName : service.serviceName = search.config.serviceName
  nfInstance : nonEmptyId profile.nfInstanceId = some metadata.nfInstanceId
  serviceInstance : nonEmptyId service.serviceInstanceId = some metadata.serviceInstanceId
  wantedNf : ∀ query ∈ search.query, ∀ id ∈ query.nfInstanceId, metadata.nfInstanceId = id
  wantedService : ∀ query ∈ search.query, ∀ id ∈ query.serviceInstanceId,
    metadata.serviceInstanceId = id
  version : ∀ query ∈ search.query, query.apiVersion ∈ service.versions

def Offered (search : Search) (profiles : List NfProfile) (metadata : NrfServiceMetadata) : Prop :=
  ∃ profile ∈ profiles, ∃ service ∈ services profile, search.Accepts profile service metadata

/-- The endpoint comes from a service that was offered. -/
def Extracted (search : Search) (profiles : List NfProfile) (server : CompiledUpstreamServer) :
    Prop :=
  ∃ metadata, server.nrfService = some metadata ∧ search.Offered profiles metadata

def AllMetadata (good : NrfServiceMetadata → Prop) (endpoints : List Endpoint) : Prop :=
  ∀ endpoint ∈ endpoints, good endpoint.metadata

end Search

open Search

variable {good : NrfServiceMetadata → Prop} {apiPrefix : Option String}
  {metadata : NrfServiceMetadata} {endpoints : List Endpoint} {search : Search}
  {profile : NfProfile}

lemma allMetadata_addEndpoint {hostParses : String → Bool} {host : String} {port : UInt16}
    (all : AllMetadata good endpoints) (new : good metadata) :
    AllMetadata good (addEndpoint hostParses host port apiPrefix metadata endpoints) := by
  unfold addEndpoint
  simp only
  split
  · exact all
  · split
    · exact all
    · intro endpoint mem
      rcases mem_cons.mp mem with rfl | old
      · exact new
      · exact all endpoint old

lemma allMetadata_addAll (targets : List (String × UInt16)) (all : AllMetadata good endpoints)
    (new : good metadata) : AllMetadata good (search.addAll metadata apiPrefix targets endpoints) :=
  List.foldlRecOn (motive := AllMetadata good) targets _ all
    fun _ all _ _ => allMetadata_addEndpoint all new

variable {service : NfService} {state : Extraction}

lemma allMetadata_serviceEndpoints (all : AllMetadata good endpoints) (new : good metadata) :
    AllMetadata good (search.serviceEndpoints profile service metadata apiPrefix endpoints) := by
  unfold serviceEndpoints
  simp only
  split
  · exact allMetadata_addAll _ all new
  · split
    · exact allMetadata_addAll _ (allMetadata_addAll _ all new) new
    · exact allMetadata_addAll _ all new

lemma allMetadata_extractService {nfInstanceId : String} {priority capacity : Option UInt16}
    (all : AllMetadata good state.endpoints)
    (identified : nonEmptyId profile.nfInstanceId = some nfInstanceId)
    (targetType : search.query.isSome → profile.nfType = some search.config.targetNfType)
    (wantedNf : ∀ query ∈ search.query, ∀ id ∈ query.nfInstanceId, nfInstanceId = id)
    (ok : ∀ metadata, search.Accepts profile service metadata → good metadata) :
    AllMetadata good
      (search.extractService profile nfInstanceId priority capacity state service).endpoints := by
  unfold extractService
  split
  · exact all
  next qualifies =>
    split
    · exact all
    next serviceInstanceId serviceIdentified =>
      split
      · exact all
      next rightService =>
        split
        · exact all
        next rightVersion =>
          split
          next servicePriority serviceCapacity _ _ =>
            simp only
            split
            · exact all
            · split
              · exact all
              · split
                · exact all
                · refine allMetadata_serviceEndpoints all (ok _ ?_)
                  simp only [Bool.or_eq_true, decide_eq_true_eq, Bool.not_eq_true', not_or,
                    ne_eq, not_not] at qualifies
                  refine ⟨targetType, qualifies.1.1, identified, serviceIdentified, wantedNf, ?_, ?_⟩
                  · intro query searched id wanted
                    simp only [mem_def.mp searched, mem_def.mp wanted, any_some,
                      decide_eq_true_eq, not_not, ne_eq] at rightService
                    exact rightService.symm
                  · intro query searched
                    simpa [mem_def.mp searched] using rightVersion
          next => exact all

lemma allMetadata_extractProfile (all : AllMetadata good state.endpoints)
    (ok : ∀ service ∈ services profile, ∀ metadata,
      search.Accepts profile service metadata → good metadata) :
    AllMetadata good (search.extractProfile state profile).endpoints := by
  unfold extractProfile
  split
  · exact all
  case isFalse rightType =>
    split
    · exact all
    · split
      · exact all
      case h_2 nfInstanceId identified =>
        split
        · exact all
        case isFalse rightNf =>
          have targetType : search.query.isSome → profile.nfType = some search.config.targetNfType := by
            intro searched
            simpa [searched] using rightType
          have wantedNf : ∀ query ∈ search.query, ∀ id ∈ query.nfInstanceId, nfInstanceId = id := by
            intro query searched id wanted
            simp only [mem_def.mp searched, mem_def.mp wanted, any_some,
              decide_eq_true_eq, not_not, ne_eq] at rightNf
            exact rightNf.symm
          split
          case h_2 => exact all
          case h_1 priority capacity _ _ =>
            refine List.foldlRecOn (motive := fun state : Extraction => AllMetadata good state.endpoints)
              (services profile) _ all fun state all service offered => ?_
            exact allMetadata_extractService all identified targetType wantedNf
              (ok service offered)

lemma extracted_of_mem {profiles : List NfProfile} {server : CompiledUpstreamServer}
    (mem : server ∈ (extractQueryEndpoints search profiles).1) :
    search.Extracted profiles server := by
  have all : AllMetadata (search.Offered profiles)
      (profiles.foldl search.extractProfile {}).endpoints := by
    refine List.foldlRecOn (motive := fun state : Extraction =>
        AllMetadata (search.Offered profiles) state.endpoints) profiles _
      (fun _ bad => absurd bad not_mem_nil) fun state all profile here => ?_
    exact allMetadata_extractProfile all fun service offered metadata accepts =>
      ⟨profile, here, service, offered, accepts⟩
  obtain ⟨endpoint, sorted, rfl⟩ := mem_map.mp mem
  have collected := (mem_insertionSort endpointLe).mp sorted
  exact ⟨endpoint.metadata, rfl, all endpoint collected⟩

end Ngxora.Nrf
