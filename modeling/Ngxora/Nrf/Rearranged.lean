/-
Extraction from profiles in another order, and from services listed again.
-/

import Ngxora.Nrf.Extract
import Ngxora.Reference

namespace Ngxora.Nrf

open List Results

def endpointAt? (hostParses : String → Bool) (host : String) (port : UInt16)
    (apiPrefix : Option String) (metadata : NrfServiceMetadata) : Option Endpoint :=
  let host := String.ofList
    (Text.trimChars (['[', ']'].contains ·) (Text.trim host).toList)
  let validHost := (Net.IpAddr.parse host).isSome || hostParses host
  if host.isEmpty || port == 0 || !validHost then none
  else some { metadata, host := Text.toAsciiLowercase host, port, apiPrefix }

private lemma addEndpoint_eq (hostParses : String → Bool) (host : String) (port : UInt16)
    (apiPrefix : Option String) (metadata : NrfServiceMetadata) (endpoints : List Endpoint) :
    addEndpoint hostParses host port apiPrefix metadata endpoints =
      (endpointAt? hostParses host port apiPrefix metadata).elim endpoints
        fun endpoint => if endpoint ∈ endpoints then endpoints else endpoint :: endpoints := by
  unfold addEndpoint endpointAt?
  simp only
  split
  · rfl
  · rfl

namespace Search

variable (search : Search) (profile : NfProfile) (nfInstanceId : String)
  (priority capacity : Option UInt16)

def validEndpoints (metadata : NrfServiceMetadata) (apiPrefix : Option String)
    (targets : List (String × UInt16)) : List Endpoint :=
  targets.filterMap fun target => endpointAt? search.hostParses target.1 target.2 apiPrefix metadata

section Adding

variable {search : Search} {metadata : NrfServiceMetadata} {apiPrefix : Option String}

private lemma mem_addAll (targets : List (String × UInt16)) (endpoints : List Endpoint)
    {endpoint : Endpoint} : endpoint ∈ search.addAll metadata apiPrefix targets endpoints ↔
      endpoint ∈ endpoints ∨ endpoint ∈ search.validEndpoints metadata apiPrefix targets := by
  unfold addAll validEndpoints
  induction targets generalizing endpoints with
  | nil => simp
  | cons target rest ih =>
    rw [foldl_cons, ih, addEndpoint_eq, filterMap_cons]
    cases endpointAt? search.hostParses target.1 target.2 apiPrefix metadata with
    | none => rfl
    | some made =>
      rw [Option.elim_some, mem_cons]
      split
      next known =>
        constructor
        · rintro (old | later)
          · exact .inl old
          · exact .inr (.inr later)
        · rintro (old | same | later)
          · exact .inl old
          · exact .inl (same ▸ known)
          · exact .inr later
      next => rw [mem_cons]; tauto

private lemma addAll_length_eq_iff (targets : List (String × UInt16)) (endpoints : List Endpoint) :
    (search.addAll metadata apiPrefix targets endpoints).length = endpoints.length ↔
      ∀ endpoint ∈ search.validEndpoints metadata apiPrefix targets, endpoint ∈ endpoints := by
  suffices grows : endpoints.length ≤
        (search.addAll metadata apiPrefix targets endpoints).length ∧
      ((search.addAll metadata apiPrefix targets endpoints).length = endpoints.length ↔
        ∀ endpoint ∈ search.validEndpoints metadata apiPrefix targets, endpoint ∈ endpoints) from
    grows.2
  unfold addAll validEndpoints
  induction targets generalizing endpoints with
  | nil => simp
  | cons target rest ih =>
    rw [foldl_cons, addEndpoint_eq, filterMap_cons]
    cases endpointAt? search.hostParses target.1 target.2 apiPrefix metadata with
    | none => exact ih endpoints
    | some made =>
      rw [Option.elim_some]
      split
      next known =>
        obtain ⟨longer, same⟩ := ih endpoints
        refine ⟨longer, ?_⟩
        rw [same, forall_mem_cons]
        exact (and_iff_right known).symm
      next new =>
        obtain ⟨longer, _⟩ := ih (made :: endpoints)
        rw [length_cons] at longer
        refine ⟨by omega, ?_⟩
        rw [forall_mem_cons]
        constructor
        · intro equal
          omega
        · rintro ⟨known, _⟩
          exact absurd known new

end Adding

/-- What a service that qualifies adds to the endpoints. -/
structure Offer where
  fqdn : Option String
  ipEndPoints : List IpEndPoint
  addresses : List String
  metadata : NrfServiceMetadata
  apiPrefix : Option String

def serviceOffer (nfInstanceId : String) (profilePriority profileCapacity : Option UInt16)
    (service : NfService) : Option Offer :=
  if service.serviceName ≠ search.config.serviceName ||
      !Text.eqIgnoreAsciiCase service.nfServiceStatus "REGISTERED" ||
      !Text.eqIgnoreAsciiCase service.scheme search.scheme then none
  else
    match nonEmptyId service.serviceInstanceId with
    | none => none
    | some serviceInstanceId =>
      if search.query.any fun query =>
          query.serviceInstanceId.any fun id => id ≠ serviceInstanceId then none
      else if search.query.any fun query => !service.versions.contains query.apiVersion then none
      else
        match optionalU16 service.priority "service priority",
            optionalU16 service.capacity "service capacity" with
        | .ok servicePriority, .ok serviceCapacity =>
          let metadata : NrfServiceMetadata :=
            { authority := search.query.bind fun _ => service.fqdn.or profile.fqdn
              nfInstanceId
              serviceInstanceId
              priority := (servicePriority.or profilePriority).getD 65535
              capacity := (serviceCapacity.or profileCapacity).getD 1 }
          if search.query.isSome && (!token nfInstanceId || !token serviceInstanceId) then none
          else
            match normalizeApiPrefix search.platform service.apiPrefix with
            | .error _ => none
            | .ok apiPrefix =>
              if search.query.isSome && !search.authorityValid metadata apiPrefix then none
              else some
                { fqdn := service.fqdn.or profile.fqdn
                  ipEndPoints := service.ipEndPoints
                  addresses := profile.ipv4Addresses ++ profile.ipv6Addresses
                  metadata
                  apiPrefix }
        | _, _ => none

def offer (service : NfService) : Option Offer :=
  if search.query.isSome && profile.nfType ≠ some search.config.targetNfType then none
  else if !Text.eqIgnoreAsciiCase profile.nfStatus "REGISTERED" then none
  else
    match nonEmptyId profile.nfInstanceId with
    | none => none
    | some nfInstanceId =>
      if search.query.any fun query => query.nfInstanceId.any fun id => id ≠ nfInstanceId then
        none
      else
        match optionalU16 profile.priority "profile priority",
            optionalU16 profile.capacity "profile capacity" with
        | .ok priority, .ok capacity =>
          search.serviceOffer profile nfInstanceId priority capacity service
        | _, _ => none

def offers (profiles : List NfProfile) : List Offer :=
  profiles.flatMap fun profile => (services profile).filterMap (search.offer profile)

private lemma offers_cons (rest : List NfProfile) :
    search.offers (profile :: rest) =
      (services profile).filterMap (search.offer profile) ++ search.offers rest := rfl

private lemma mem_offers {search : Search} {profiles : List NfProfile} {made : Offer} :
    made ∈ search.offers profiles ↔ ∃ profile ∈ profiles, ∃ service ∈ services profile,
        search.offer profile service = some made := by
  simp only [offers, mem_flatMap, mem_filterMap]

def namedTargets (offer : Offer) : Option (List (String × UInt16)) :=
  let named := offer.fqdn.filter fun _ => search.query.isNone ||
    offer.ipEndPoints.all fun endpoint => endpoint.ipv4Address.isNone && endpoint.ipv6Address.isNone
  named.map fun host =>
    let ports := (offer.ipEndPoints.filterMap IpEndPoint.port).dedup.insertionSort
      fun left right => left ≤ right
    (if ports = [] then [search.defaultPort] else ports).map fun port => (host, port)

def offeredTargets (offer : Offer) : List (String × UInt16) :=
  offer.ipEndPoints.flatMap fun endpoint =>
    (endpoint.ipv4Address.toList ++ endpoint.ipv6Address.toList).map fun host =>
      (host, endpoint.port.getD search.defaultPort)

def profileTargets (offer : Offer) : List (String × UInt16) :=
  offer.addresses.map fun host => (host, search.defaultPort)

/-- The run over the profiles takes the offers in turn. -/
def take (endpoints : List Endpoint) (offer : Offer) : List Endpoint :=
  match search.namedTargets offer with
  | some targets => search.addAll offer.metadata offer.apiPrefix targets endpoints
  | none =>
    let added := search.addAll offer.metadata offer.apiPrefix (search.offeredTargets offer)
      endpoints
    if added.length = endpoints.length then
      search.addAll offer.metadata offer.apiPrefix (search.profileTargets offer) added
    else added

private lemma serviceEndpoints_eq_take (service : NfService) (metadata : NrfServiceMetadata)
    (apiPrefix : Option String) (endpoints : List Endpoint) :
    search.serviceEndpoints profile service metadata apiPrefix endpoints = search.take endpoints
        { fqdn := service.fqdn.or profile.fqdn
          ipEndPoints := service.ipEndPoints
          addresses := profile.ipv4Addresses ++ profile.ipv6Addresses
          metadata
          apiPrefix } := by
  unfold serviceEndpoints take namedTargets
  simp only
  cases (service.fqdn.or profile.fqdn).filter fun _ => search.query.isNone ||
      service.ipEndPoints.all fun endpoint =>
        endpoint.ipv4Address.isNone && endpoint.ipv6Address.isNone with
  | none => rfl
  | some host => rfl

private lemma extractService_endpoints (state : Extraction) (service : NfService) :
    (search.extractService profile nfInstanceId priority capacity state service).endpoints =
      (search.serviceOffer profile nfInstanceId priority capacity service).elim state.endpoints
        (search.take state.endpoints) := by
  unfold extractService serviceOffer
  split
  · rfl
  cases nonEmptyId service.serviceInstanceId with
  | none => rfl
  | some serviceInstanceId =>
    simp only
    split
    · rfl
    split
    · rfl
    cases optionalU16 service.priority "service priority" with
    | error => rfl
    | ok servicePriority =>
      cases optionalU16 service.capacity "service capacity" with
      | error => rfl
      | ok serviceCapacity =>
        simp only
        split
        · rfl
        cases normalizeApiPrefix search.platform service.apiPrefix with
        | error => rfl
        | ok apiPrefix =>
          simp only
          split
          · rfl
          · exact serviceEndpoints_eq_take ..

private lemma foldl_extractService (offered : List NfService) (state : Extraction) :
    (offered.foldl (search.extractService profile nfInstanceId priority capacity) state).endpoints =
      (offered.filterMap (search.serviceOffer profile nfInstanceId priority capacity)).foldl
        search.take state.endpoints := by
  induction offered generalizing state with
  | nil => rfl
  | cons service rest ih =>
    rw [foldl_cons, ih, extractService_endpoints, filterMap_cons]
    cases search.serviceOffer profile nfInstanceId priority capacity service with
    | none | some made => rfl

private lemma extractProfile_endpoints (state : Extraction) (profile : NfProfile) :
    (search.extractProfile state profile).endpoints =
      ((services profile).filterMap (search.offer profile)).foldl search.take state.endpoints := by
  have skipped : ((services profile).filterMap fun _ => (none : Option Offer)) = [] := by simp
  unfold extractProfile offer
  split
  · rw [skipped]
    rfl
  split
  · rw [skipped]
    rfl
  cases nonEmptyId profile.nfInstanceId with
  | none =>
    rw [skipped]
    rfl
  | some nfInstanceId =>
    simp only
    split
    · rw [skipped]
      rfl
    cases optionalU16 profile.priority "profile priority" with
    | error =>
      rw [skipped]
      rfl
    | ok priority =>
      cases optionalU16 profile.capacity "profile capacity" with
      | error =>
        rw [skipped]
        rfl
      | ok capacity => exact foldl_extractService ..

private lemma endpoints_eq_offers (profiles : List NfProfile) :
    (profiles.foldl search.extractProfile {}).endpoints =
      (search.offers profiles).foldl search.take [] := by
  suffices general : ∀ state : Extraction,
      (profiles.foldl search.extractProfile state).endpoints =
        (search.offers profiles).foldl search.take state.endpoints from general {}
  induction profiles with
  | nil => intro state; rfl
  | cons profile rest ih =>
    intro state
    rw [foldl_cons, ih, extractProfile_endpoints, offers_cons, foldl_append]

section Fallback

variable (search : Search)

def ownEndpoints (offer : Offer) : List Endpoint :=
  search.validEndpoints offer.metadata offer.apiPrefix (search.offeredTargets offer)

def profileEndpoints (offer : Offer) : List Endpoint :=
  search.validEndpoints offer.metadata offer.apiPrefix (search.profileTargets offer)

/-- The addresses of the profile add an endpoint. -/
structure FallbackAdds (endpoints : List Endpoint) (offer : Offer) (endpoint : Endpoint) :
    Prop where
  unnamed : search.namedTargets offer = none
  nothing : ∀ own ∈ search.ownEndpoints offer, own ∈ endpoints
  address : endpoint ∈ search.profileEndpoints offer
  new : endpoint ∉ endpoints

/-- In the run over the profiles an address of a profile makes an endpoint only for a
service without a name and without a valid endpoint of its own. -/
def FallbackProper (profiles : List NfProfile) : Prop :=
  ∀ before offer after, search.offers profiles = before ++ offer :: after →
    ∀ endpoint, search.FallbackAdds (before.foldl search.take []) offer endpoint →
      offer.fqdn = none ∧ search.ownEndpoints offer = []

/-- The addresses of the profile say nothing new about a service that has a name or a
valid endpoint of its own. -/
def FallbackCovered (profiles : List NfProfile) : Prop :=
  ∀ profile ∈ profiles, ∀ service ∈ services profile, ∀ offer,
    search.offer profile service = some offer → search.namedTargets offer = none →
      (offer.fqdn ≠ none ∨ search.ownEndpoints offer ≠ []) →
        ∀ endpoint ∈ search.profileEndpoints offer, endpoint ∈ search.ownEndpoints offer

variable {search}

variable {endpoints : List Endpoint} {endpoint : Endpoint} {profiles : List NfProfile}

private lemma mem_take {offer : Offer} :
    endpoint ∈ search.take endpoints offer ↔
      endpoint ∈ endpoints ∨
      match search.namedTargets offer with
      | some targets => endpoint ∈ search.validEndpoints offer.metadata offer.apiPrefix targets
      | none => endpoint ∈ search.ownEndpoints offer ∨
          endpoint ∈ search.profileEndpoints offer ∧
            ∀ own ∈ search.ownEndpoints offer, own ∈ endpoints := by
  unfold take
  split
  next targets named => rw [mem_addAll]
  next unnamed =>
    simp only [addAll_length_eq_iff]
    split
    next nothing =>
      rw [mem_addAll, mem_addAll, or_assoc]
      change _ ∨ _ ∈ search.ownEndpoints offer ∨ _ ∈ search.profileEndpoints offer ↔ _
      rw [and_iff_left (show ∀ own ∈ search.ownEndpoints offer, own ∈ endpoints from nothing)]
    next something =>
      rw [mem_addAll]
      change _ ∨ _ ∈ search.ownEndpoints offer ↔ _
      have never : ¬ ∀ own ∈ search.ownEndpoints offer, own ∈ endpoints := something
      tauto

def Covered (search : Search) (offer : Offer) : Prop :=
  search.namedTargets offer = none →
    (offer.fqdn ≠ none ∨ search.ownEndpoints offer ≠ []) →
      ∀ endpoint ∈ search.profileEndpoints offer, endpoint ∈ search.ownEndpoints offer

private lemma fallbackCovered_iff :
    search.FallbackCovered profiles ↔ ∀ offer ∈ search.offers profiles, search.Covered offer := by
  constructor
  · intro covered offer mem
    obtain ⟨profile, here, service, offered, made⟩ := mem_offers.mp mem
    exact covered profile here service offered offer made
  · intro covered profile here service offered offer made
    exact covered offer (mem_offers.mpr ⟨profile, here, service, offered, made⟩)

def contribution (search : Search) (offer : Offer) : List Endpoint :=
  match search.namedTargets offer with
  | some targets => search.validEndpoints offer.metadata offer.apiPrefix targets
  | none =>
    if search.ownEndpoints offer = [] then search.profileEndpoints offer
    else search.ownEndpoints offer

private lemma mem_take_of_covered {offer : Offer} (covered : search.Covered offer) :
    endpoint ∈ search.take endpoints offer ↔
      endpoint ∈ endpoints ∨ endpoint ∈ search.contribution offer := by
  rw [mem_take]
  unfold contribution Covered at *
  cases named : search.namedTargets offer with
  | some targets => rfl
  | none =>
    have useless := covered named
    by_cases empty : search.ownEndpoints offer = []
    · simp [empty]
    · simp only [if_neg empty]
      have known := useless (.inr empty) endpoint
      tauto

private lemma mem_foldl_take {made : List Offer} (covered : ∀ offer ∈ made, search.Covered offer)
    (endpoints : List Endpoint) : endpoint ∈ made.foldl search.take endpoints ↔
      endpoint ∈ endpoints ∨ ∃ offer ∈ made, endpoint ∈ search.contribution offer := by
  induction made generalizing endpoints with
  | nil => simp
  | cons offer rest ih =>
    obtain ⟨first, later⟩ := forall_mem_cons.mp covered
    rw [foldl_cons, ih later, mem_take_of_covered first, exists_mem_cons_iff, or_assoc]

private lemma fallbackProper_of_covered (covered : search.FallbackCovered profiles) :
    search.FallbackProper profiles := by
  intro before offer after split endpoint adds
  have mem : offer ∈ search.offers profiles := by
    rw [split]
    exact mem_append_right _ mem_cons_self
  have useless := fallbackCovered_iff.mp covered offer mem adds.unnamed
  have known : ¬ (offer.fqdn ≠ none ∨ search.ownEndpoints offer ≠ []) := fun some =>
    adds.new (adds.nothing endpoint (useless some endpoint adds.address))
  rwa [not_or, not_not, not_not] at known

end Fallback

/-- Only the listing of the services differs. -/
structure SameProfile (left right : NfProfile) : Prop where
  fields : right = { left with
    nfServices := right.nfServices
    nfServiceList := right.nfServiceList }
  listed : ∀ service, service ∈ services left ↔ service ∈ services right

/-- The profiles in another order, with their services listed again. -/
def Rearranged (profiles others : List NfProfile) : Prop :=
  ∃ reordered, profiles.Perm reordered ∧ List.Forall₂ SameProfile reordered others

section Rearranged

variable {search : Search}

private lemma offer_of_sameProfile {left right : NfProfile} (same : SameProfile left right)
    (service : NfService) : search.offer right service = search.offer left service := by
  rw [same.fields]
  rfl

private lemma sameProfile_refl (profile : NfProfile) : SameProfile profile profile where
  fields := rfl
  listed := fun _ => Iff.rfl

variable {profiles : List NfProfile}

private lemma mem_offers_of_rearranged {others : List NfProfile}
    (rearranged : Rearranged profiles others)
    {offer : Offer} : offer ∈ search.offers others ↔ offer ∈ search.offers profiles := by
  obtain ⟨reordered, perm, each⟩ := rearranged
  have moved : offer ∈ search.offers profiles ↔ offer ∈ search.offers reordered := by
    simp only [mem_offers, perm.mem_iff]
  rw [moved]
  clear moved perm
  induction each with
  | nil => rfl
  | cons same _ ih =>
    rw [offers_cons, offers_cons, mem_append, mem_append]
    refine or_congr ?_ ih
    simp only [mem_filterMap, ← same.listed, offer_of_sameProfile same]

private lemma exists_doubled {profile : NfProfile} (here : profile ∈ profiles)
    {service : NfService} (listed : service ∈ services profile) {offer : Offer}
    (made : search.offer profile service = some offer) : ∃ others, Rearranged profiles others ∧
      ∃ rest, search.offers others = offer :: offer :: rest := by
  obtain ⟨before, after, rfl⟩ := append_of_mem here
  let doubled : NfProfile :=
    { profile with nfServices := service :: service :: services profile, nfServiceList := [] }
  have offered : services doubled = service :: service :: services profile := append_nil _
  have same : SameProfile profile doubled := by
    constructor
    · rfl
    · intro other
      rw [offered]
      simp only [mem_cons]
      constructor
      · exact fun old => .inr (.inr old)
      · rintro (rfl | rfl | old)
        · exact listed
        · exact listed
        · exact old
  refine ⟨doubled :: (before ++ after), ⟨profile :: (before ++ after), perm_middle,
    .cons same (forall₂_same.mpr fun profile _ => sameProfile_refl profile)⟩, ?_⟩
  have again : search.offer doubled service = some offer := made
  rw [offers_cons, offered, filterMap_cons, again, filterMap_cons, again]
  exact ⟨_, rfl⟩

private lemma covered_of_fallbackProper
    (proper : ∀ others, Rearranged profiles others → search.FallbackProper others) :
    search.FallbackCovered profiles := by
  intro profile here service listed offer made unnamed some endpoint address
  by_contra missing
  obtain ⟨others, rearranged, rest, offers⟩ := exists_doubled here listed made
  have taken := proper others rearranged
  -- without endpoints of its own the service falls back at once, else the second time
  by_cases own : search.ownEndpoints offer = []
  · have adds : search.FallbackAdds [] offer endpoint :=
      { unnamed
        nothing := by simp [own]
        address
        new := not_mem_nil }
    have unserved := taken [] offer (offer :: rest) offers endpoint adds
    exact some.elim (absurd unserved.1) (absurd unserved.2)
  · have first : ∀ other, other ∈ search.take [] offer ↔ other ∈ search.ownEndpoints offer := by
      intro other
      rw [mem_take, unnamed]
      constructor
      · rintro (bad | mine | ⟨_, nothing⟩)
        · cases bad
        · exact mine
        · exact absurd (eq_nil_iff_forall_not_mem.mpr fun _ mem => not_mem_nil (nothing _ mem)) own
      · exact fun mine => .inr (.inl mine)
    have adds : search.FallbackAdds (search.take [] offer) offer endpoint :=
      { unnamed
        nothing := fun other mine => (first other).mpr mine
        address
        new := fun known => missing ((first endpoint).mp known) }
    exact own (taken [offer] offer rest offers endpoint adds).2

end Rearranged

end Search

open Search

/-- The endpoints do not depend on the order of profiles and services or on repeated
services, and the fallback is used as intended, exactly when the addresses of a profile
say nothing new about its services that have a name or endpoints of their own. -/
theorem extraction_insensitive_iff (search : Search) (profiles : List NfProfile) :
    (∀ others, Rearranged profiles others →
        (∀ server, server ∈ (extractQueryEndpoints search others).1 ↔
          server ∈ (extractQueryEndpoints search profiles).1) ∧ search.FallbackProper others) ↔
      search.FallbackCovered profiles := by
  constructor
  · intro insensitive
    exact covered_of_fallbackProper fun others rearranged => (insensitive others rearranged).2
  · intro covered others rearranged
    have offered := fallbackCovered_iff.mp covered
    have otherOffered : ∀ offer ∈ search.offers others, search.Covered offer := fun offer member =>
      offered offer ((mem_offers_of_rearranged rearranged).mp member)
    constructor
    · intro server
      unfold extractQueryEndpoints
      simp only [mem_map, mem_insertionSort, endpoints_eq_offers,
        mem_foldl_take offered, mem_foldl_take otherOffered, mem_offers_of_rearranged rearranged]
    · exact fallbackProper_of_covered (fallbackCovered_iff.mpr otherOffered)

def plainSearch : Search where
  platform := Reference.platform
  hostParses _ := false
  config :=
    { apiRoot := { scheme := "http", host := some "nrf", path := "/" }
      targetNfType := "UDM"
      requesterNfType := "SCP"
      serviceName := "nudm-sdm"
      endpointScheme := .http
      timeout := Duration.fromSecs 1
      staleIfError := Duration.fromSecs 1
      tlsOptions := {} }
  query := none

def addressedService : NfService where
  serviceInstanceId := some "s"
  serviceName := "nudm-sdm"
  scheme := "http"
  nfServiceStatus := "REGISTERED"
  ipEndPoints := [{ ipv4Address := some "10.0.0.1" }]

def addressedProfile (listed : List NfService) : NfProfile where
  nfInstanceId := some "n"
  nfStatus := "REGISTERED"
  ipv4Addresses := ["10.0.0.2"]
  nfServices := listed

/-- A service listed twice has the address of its profile as well as its own. -/
theorem repeated_service_adds_profile_address :
    Rearranged [addressedProfile [addressedService]]
      [addressedProfile [addressedService, addressedService]] ∧
    (extractQueryEndpoints plainSearch [addressedProfile [addressedService]]).1.map
      CompiledUpstreamServer.host = ["10.0.0.1"] ∧
    (extractQueryEndpoints plainSearch
      [addressedProfile [addressedService, addressedService]]).1.map
      CompiledUpstreamServer.host = ["10.0.0.1", "10.0.0.2"] := by
  refine ⟨⟨_, .refl _, .cons ⟨rfl, fun service => ?_⟩ .nil⟩, by decide +kernel, by decide +kernel⟩
  simp [Search.services, addressedProfile]

end Ngxora.Nrf
