/-
From a resolved location to the target of a request, with what the snapshot has built.
-/

import Ngxora.Base.Shares
import Ngxora.Control.RouteIds
import Ngxora.Router.References
import Ngxora.Routing.Nginx

namespace Ngxora.Routing

open List Option Control Http Net Results Router

/-- Every lookup that could fail has its own branch. -/
inductive SelectionError where
  | missingBackendSelector
  | missingUpstreamGroup
  | scpProfileMissing
  | missingClientIdentity
  | missingTrustedCa
  | invalidBackendWeightSum
  | invalidBackendTarget
  | expandReturn (message : String)
  | missingListenerPort
  | redirectLocation (message : String)
  | noAvailableBackends
  | noHashKey

namespace SelectionError

def toPingora : SelectionError → PingoraError
  | .missingBackendSelector => runtimeConfigError "missing backend selector"
  | .missingUpstreamGroup => runtimeConfigError "missing upstream group"
  | .scpProfileMissing => explain .internalError "SCP profile missing in snapshot"
  | .missingClientIdentity =>
    explain .internalError "compiled upstream client identity is missing at runtime"
  | .missingTrustedCa => explain .internalError "compiled trusted upstream CA is missing at runtime"
  | .invalidBackendWeightSum => runtimeConfigError "invalid backend weight sum"
  | .invalidBackendTarget => runtimeConfigError "invalid backend target"
  | .expandReturn message => runtimeConfigError message
  | .missingListenerPort => runtimeConfigError "missing listener port"
  | .redirectLocation message => runtimeConfigError message
  | .noAvailableBackends => explain (.httpStatus 503) "no available backends"
  | .noHashKey =>
    explain (.httpStatus 503) "consistent hash requires a request header key or socket client IP"

def isMissing : SelectionError → Bool
  | .missingBackendSelector | .missingUpstreamGroup | .scpProfileMissing
  | .missingClientIdentity | .missingTrustedCa | .invalidBackendWeightSum
  | .invalidBackendTarget | .expandReturn _ => true
  | .missingListenerPort | .redirectLocation _ | .noAvailableBackends | .noHashKey => false

end SelectionError

def rewriteUri (crates : Crates) (uri : RequestUri) (modifier : Option PathModifier)
    (matched : Option String) : Except String String := do
  let path ←
    match modifier with
    | none => pure uri.path
    | some (.replaceFullPath path) => pure path
    | some (.replacePrefixMatch replacement) => do
      let matched ← orFail matched "missing matched path prefix"
      let suffix ← orFail (Text.afterStart (Text.trimEndMatches '/' matched) uri.path)
        "path does not match rewrite prefix"
      let path :=
        if suffix.isEmpty then replacement
        else Text.trimEndMatches '/' replacement ++ suffix
      pure (if path.isEmpty then "/" else path)
  let full :=
    match uri.query with
    | some query => path ++ "?" ++ query
    | none => path
  match crates.uriPrinted full with
  | .ok printed => pure printed
  | .error err => .error s!"invalid rewritten URI: {err}"

def redirectLocation (crates : Crates) (config : HttpRedirect) (uri : RequestUri)
    (host scheme : String) (listenerPort : UInt16) (matched : Option String) :
    Except String String := do
  let port := config.port.getD
    (if config.scheme = some "https" then 443
     else if config.scheme = some "http" then 80
     else listenerPort)
  let scheme := config.scheme.getD scheme
  let host := config.hostname.getD host
  let host := if Text.contains ':' host then "[" ++ host ++ "]" else host
  let authority :=
    if (scheme == "http" && port == 80) || (scheme == "https" && port == 443) then host
    else host ++ ":" ++ toString port.toNat
  pure (scheme ++ "://" ++ authority ++ (← rewriteUri crates uri config.path matched))

structure SelectedPeer where
  host : String
  port : UInt16
  tls : Bool
  sni : String
  upstreamGroup : Option String
  apiPrefix : Option String

inductive SelectedTarget where
  | pending (target : RouteTarget)
  | directResponse (status : UInt16)
  | scp (profile : String)
  | upstream (peer : SelectedPeer)
  | returnTo (status : UInt16) (location : String)

structure SelectedRoute (Material : Type) where
  clientLimits : ClientLimits
  urlRewrite : Option UrlRewrite
  matchedPrefix : Option String
  routeId : UInt64
  target : SelectedTarget
  accessRules : List LocationIpRule
  upstreamTimeouts : UpstreamTimeouts
  upstreamProtocol : Option UpstreamHttpProtocol
  upstreamHttp2 : UpstreamHttp2Options
  upstreamSslOptions : UpstreamSslOptions
  upstreamTrustedCa : Option Material
  upstreamClientIdentity : Option Material
  plugins : Material
  cache : Option CacheConfig

variable {Handle Material : Type}

def matchedPrefix (location : CompiledLocation) : Option String :=
  match location.matcher with
  | .http { path := .pathPrefix start, .. } => some start
  | _ => none

def requestScheme (session : Session) : String :=
  if session.sslDigest.isSome then "https" else "http"

def selectTarget (crates : Crates) (resolved : ResolvedLocation) (session : Session) :
    Except SelectionError SelectedTarget :=
  let host := resolved.host.getD ""
  match resolved.location.target with
  | .action (.scp profile) => .ok (.scp profile)
  | .action (.returnRedirect status location) =>
    (SelectedTarget.returnTo status <$> expandReturn location host
      (session.uri.pathAndQuery.getD "/") (requestScheme session)).mapError
      SelectionError.expandReturn
  | .action (.httpRedirect config) => do
    let port ← orFail ((session.serverAddr.bind SocketAddr.asInet).map Prod.snd)
      SelectionError.missingListenerPort
    (SelectedTarget.returnTo config.status <$> redirectLocation crates config session.uri host
      (requestScheme session) port (matchedPrefix resolved.location)).mapError
      SelectionError.redirectLocation
  | .action (.directResponse status) => .ok (.directResponse status)
  | target => .ok (.pending target)

def selectClientIdentity (snapshot : RuntimeSnapshot Handle Material)
    (options : UpstreamSslOptions) : Except SelectionError (Option Material) :=
  match options.clientCertificate, options.clientCertificateKey with
  | some cert, some key =>
    some <$> orFail (snapshot.clientIdentity cert key) SelectionError.missingClientIdentity
  | _, _ => .ok none

def selectTrustedCa (snapshot : RuntimeSnapshot Handle Material) (options : UpstreamSslOptions) :
    Except SelectionError (Option Material) :=
  Results.traverse (fun source =>
    orFail (snapshot.trustedCa source) SelectionError.missingTrustedCa) options.trustedCertificate

namespace SelectedRoute

def fromResolved (crates : Crates) (emptyPluginChain : Material)
    (snapshot : RuntimeSnapshot Handle Material) (resolved : ResolvedLocation)
    (session : Session) : Except SelectionError (SelectedRoute Material) := do
  let location := resolved.location
  let target ← selectTarget crates resolved session
  let clientIdentity ← selectClientIdentity snapshot location.upstreamSslOptions
  let trustedCa ← selectTrustedCa snapshot location.upstreamSslOptions
  pure
    { clientLimits := location.clientLimits
      urlRewrite := location.urlRewrite
      matchedPrefix := Routing.matchedPrefix location
      routeId := location.routeId
      target
      accessRules := location.accessRules
      upstreamTimeouts := location.upstreamTimeouts
      upstreamProtocol := location.upstreamProtocol
      upstreamHttp2 := location.upstreamHttp2
      upstreamSslOptions := location.upstreamSslOptions
      upstreamTrustedCa := trustedCa
      upstreamClientIdentity := clientIdentity
      plugins := snapshot.pluginChain emptyPluginChain location.routeId
      cache := location.cache.map fun cache =>
        { cache with maxSize := cache.maxSize.or snapshot.router.httpOptions.proxyCacheMaxSize } }

end SelectedRoute

/-- The profile of an SCP target; `prepare_scp_request` does nothing for others. -/
def scpProfile (snapshot : RuntimeSnapshot Handle Material) :
    SelectedTarget → Except SelectionError (Option (RuntimeScp Handle))
  | .scp name => some <$> orFail (snapshot.scpProfiles.lookup name) SelectionError.scpProfileMissing
  | _ => .ok none

structure SelectedBackend where
  host : String
  port : UInt16
  apiPrefix : Option String

/-- What a request asks of a runtime group; `select` gives the backend the group
chooses next, if it has an available one. -/
structure RuntimeGroups (Handle : Type) where
  usesConsistentHash : Handle → Bool
  hashKey : Handle → Option UpstreamHashKey
  select : Handle → List UInt8 → Option SelectedBackend

def textBytes (text : String) : List UInt8 := text.toByteArray.data.toList

def upstreamSelectionKey (configured : Option UpstreamHashKey) (session : Session)
    (clientIp : Option IpAddr) : Except SelectionError (List UInt8) :=
  let byAddress := orFail (clientIp.map fun ip => textBytes ip.toText) SelectionError.noHashKey
  match configured with
  | some (.header name) =>
    match session.headers.getAll (Text.toAsciiLowercase name) with
    | [value] => if value.isEmpty then byAddress else .ok value
    | _ => byAddress
  | _ => byAddress

def backendKey (groups : RuntimeGroups Handle) (group : Handle) (session : Session)
    (clientIp : Option IpAddr) : Except SelectionError (List UInt8) :=
  if groups.usesConsistentHash group then
    upstreamSelectionKey (groups.hashKey group) session clientIp
  else .ok []

def selectActionTarget (groups : RuntimeGroups Handle) (snapshot : RuntimeSnapshot Handle Material)
    (session : Session) (clientIp : Option IpAddr) :
    ActionTarget → Except SelectionError SelectedTarget
  | .directResponse status => .ok (.directResponse status)
  | .proxyPass host port tls sni =>
    .ok (.upstream { host, port, tls, sni, upstreamGroup := none, apiPrefix := none })
  | .upstreamGroup name tls => do
    let group ← orFail (snapshot.upstreamGroup name) SelectionError.missingUpstreamGroup
    let key ← backendKey groups group session clientIp
    let backend ← orFail (groups.select group key) SelectionError.noAvailableBackends
    pure (.upstream
      { host := backend.host
        port := backend.port
        tls
        sni := proxyPassSni backend.host tls
        upstreamGroup := some (Text.toAsciiLowercase (Text.trimEndMatches '.' name))
        apiPrefix := backend.apiPrefix })
  | _ => .error .invalidBackendTarget

def totalWeight (backends : List CompiledWeightedBackend) : UInt64 :=
  backends.foldl (fun total backend => total + backend.weight.toUInt64) 0

def chooseBackend (slot : UInt64) : List CompiledWeightedBackend → Option ActionTarget
  | [] => none
  | backend :: rest =>
    if slot < backend.weight.toUInt64 then some backend.target
    else chooseBackend (slot - backend.weight.toUInt64) rest

/-- The target of a request, and the counters after it: a weighted set takes the
next number of its route. -/
def selectBackendTarget (groups : RuntimeGroups Handle) (snapshot : RuntimeSnapshot Handle Material)
    (counters : Table UInt64 UInt64) (routeId : UInt64) (target : RouteTarget) (session : Session)
    (clientIp : Option IpAddr) : Table UInt64 UInt64 × Except SelectionError SelectedTarget :=
  match target with
  | .action target => (counters, selectActionTarget groups snapshot session clientIp target)
  | .weightedBackends backends =>
    let total := totalWeight backends
    if total = 0 then (counters, .error .noAvailableBackends)
    else
      match counters.lookup routeId with
      | none => (counters, .error .missingBackendSelector)
      | some counter =>
        (counters.insert routeId (counter + 1), do
          let target ← orFail (chooseBackend (counter % total) backends)
            SelectionError.invalidBackendWeightSum
          selectActionTarget groups snapshot session clientIp target)

variable {key : ListenKey} {vhosts : VirtualHostRoutes} {routes : ServerRoutes}
  {loc : CompiledLocation} {holds : CompiledLocation → Prop} {path : String} {crates : Crates}
  {resolved : ResolvedLocation} {α : Type} {error : SelectionError} {clientIp : Option IpAddr}
  {target : RouteTarget} {emptyPluginChain : Material}

section Serving

variable {session : Session} {snapshot : RuntimeSnapshot Handle Material}
  {groups : RuntimeGroups Handle}

private lemma exists_key_of_listenerRoutes {router : CompiledRouter}
    (found : listenerRoutes router key = some vhosts) :
    ∃ owner, router.listeners.lookup owner = some vhosts := by
  rcases or_eq_some_iff.mp found with own | ⟨_, wildcard⟩
  · exact ⟨key, own⟩
  · split at wildcard
    · exact ⟨_, wildcard⟩
    · cases wildcard

private lemma mem_of_resolveHttpRules {routingHost : Option String}
    (resolved : resolveHttpRules crates session
      (Ranking.descending (candidates vhosts routingHost)) = some loc) :
    ∃ routes : ServerRoutes, loc ∈ routes.locations ∧
      ((∃ name, vhosts.named.lookup name = some routes) ∨ vhosts.default = some routes) := by
  obtain ⟨score, routes, candidate, rule, _⟩ := resolveHttpRules_candidates.mp resolved
  obtain ⟨_, best⟩ := isFirstBest_of_bestRule rule
  refine ⟨routes, best.mem, ?_⟩
  rcases candidate with ⟨_, _, name, found, _⟩ | ⟨found, _⟩
  · exact .inl ⟨name, found⟩
  · exact .inr found

private lemma mem_of_resolveRoute {router : CompiledRouter}
    (found : resolveRoute crates router session = .ok (some resolved)) :
    resolved.location ∈ routerLocations router := by
  obtain ⟨key, _, found⟩ := bind_eq_ok.mp found
  cases listener : listenerRoutes router key with
  | none =>
    simp only [listener] at found
    cases found
  | some vhosts =>
    simp only [listener] at found
    obtain ⟨host, _, _, _, same⟩ := bind₂_eq_ok.mp found
    obtain ⟨loc, isLocation, rfl⟩ := map_eq_some_iff.mp (Except.ok.inj same)
    obtain ⟨owner, owned⟩ := exists_key_of_listenerRoutes listener
    rcases or_eq_some_iff.mp isLocation with rule | ⟨_, nginx⟩
    · obtain ⟨routes, mem, place⟩ := mem_of_resolveHttpRules rule
      exact mem_routerLocations.mpr ⟨owner, vhosts, owned, routes, mem, place⟩
    · obtain ⟨routes, selected, target⟩ := bind_eq_some_iff.mp nginx
      refine mem_routerLocations.mpr
        ⟨owner, vhosts, owned, routes, mem_of_selectRouteTarget target, ?_⟩
      rcases or_eq_some_iff.mp selected with named | ⟨_, default⟩
      · obtain ⟨_, _, best⟩ := bind_eq_some_iff.mp named
        obtain ⟨name, isBest⟩ := Table.exists_isBest_of_bestMatch best
        exact .inl ⟨name, isBest.present⟩
      · exact .inr default

/-- Whatever the location names is in the snapshot. -/
structure Serves (snapshot : RuntimeSnapshot Handle Material) (location : CompiledLocation) :
    Prop where
  identity : ∀ cert ∈ location.upstreamSslOptions.clientCertificate,
    ∀ key ∈ location.upstreamSslOptions.clientCertificateKey,
      (snapshot.clientIdentity cert key).isSome = true
  trustedCa : ∀ source ∈ location.upstreamSslOptions.trustedCertificate,
    (snapshot.trustedCa source).isSome = true
  scp : ∀ profile, location.target = .action (.scp profile) →
    (snapshot.scpProfiles.lookup profile).isSome = true
  template : ∀ status template, location.target = .action (.returnRedirect status template) →
    (expandReturn template "example.com" "/" "http").isOk = true
  group : ∀ name tls, location.target = .action (.upstreamGroup name tls) →
    (snapshot.upstreamGroup name).isSome = true
  backends : ∀ backends, location.target = .weightedBackends backends →
    (snapshot.backendCounters.lookup location.routeId).isSome = true ∧
      ∀ backend ∈ backends, isBackend backend.target = true ∧
        ∀ name tls, backend.target = .upstreamGroup name tls →
          (snapshot.upstreamGroup name).isSome = true

section Built

variable {platform : Platform} {http : Http} {router : CompiledRouter}
  {builders : Builders Handle Material} {version : String} {generation : UInt64}
  {previous : Option (RuntimeSnapshot Handle Material)}
  {snapshot : RuntimeSnapshot Handle Material}

variable {name : String}

lemma traverse_isSome {K V W : Type} [DecidableEq K] {convert : K → V → Except String W}
    {table : Table K V} {res : Table K W} (ok : Table.traverse convert table = .ok res)
    {key : K} (declared : (table.lookup key).isSome = true) :
    (res.lookup key).isSome = true := by
  have related := Table.lookup_traverse ok key
  generalize table.lookup key = src at related declared
  generalize res.lookup key = converted at related ⊢
  cases related with
  | none => cases declared
  | some _ => rfl

private lemma serves_of_build (compiled : Compiled platform http router)
    (built : Built platform builders version router generation previous snapshot)
    (mem : loc ∈ routerLocations router) : Serves snapshot loc := by
  obtain ⟨routes, routesMember, inRoutes⟩ :=
    mem_flatMap.mp (mem_routes_of_mem_routerLocations compiled mem)
  have resolves := compiled.target_resolves routesMember inRoutes
  refine ⟨?_, ?_, ?_, ?_, ?_, ?_⟩
  · intro cert isCert key isKey
    have collected : (⟨cert, key⟩ : ClientIdentityKey) ∈ clientIdentityKeys router := by
      rw [mem_def] at isCert isKey
      exact mem_filterMap.mpr ⟨loc, mem, by simp [isCert, isKey]⟩
    exact isSome_of_loadOnce built.clientIdentitiesOk collected
  · intro src isSource
    have collected : src ∈ trustedCertificates router :=
      mem_filterMap.mpr ⟨loc, mem, isSource⟩
    exact isSome_of_loadOnce built.trustedCasOk collected
  · intro profile isScp
    rw [isScp] at resolves
    exact traverse_isSome built.scpProfilesOk resolves
  · intro status tmpl isReturn
    rwa [isReturn] at resolves
  · intro name tls isGroup
    rw [isGroup] at resolves
    exact traverse_isSome built.upstreamGroupsOk resolves
  · intro backends isWeighted
    constructor
    · have weighted : Control.isWeighted loc.target = true := by
        rw [isWeighted]
        rfl
      rw [built.countersEq, lookup_backendCounters.mpr ⟨rfl, loc, mem, rfl, weighted⟩]
      rfl
    · intro backend backendMember
      rw [isWeighted] at resolves
      obtain ⟨kind, backendResolves⟩ := resolves backend backendMember
      refine ⟨kind, fun name tls isGroup => ?_⟩
      rw [isGroup] at backendResolves
      exact traverse_isSome built.upstreamGroupsOk backendResolves

end Built

/-- The lookup of something named by the configuration failed. -/
def Lacks {α : Type} (computation : Except SelectionError α) : Prop :=
  ∃ error, computation = .error error ∧ error.isMissing = true

private lemma not_lacks_ok (value : α) : ¬ Lacks (Except.ok value) := by
  rintro ⟨_, bad, _⟩
  cases bad

private lemma not_lacks_error (other : error.isMissing = false) :
    ¬ Lacks (Except.error error : Except SelectionError α) := by
  rintro ⟨_, same, missing⟩
  cases same
  rw [other] at missing
  cases missing

private lemma not_lacks_bind {β : Type} {computation : Except SelectionError α}
    {next : α → Except SelectionError β} (first : ¬ Lacks computation)
    (rest : ∀ value, computation = .ok value → ¬ Lacks (next value)) :
    ¬ Lacks (computation >>= next) := by
  cases computation with
  | error error =>
    rintro ⟨_, same, missing⟩
    cases same
    exact first ⟨error, rfl, missing⟩
  | ok value => exact rest value rfl

private lemma not_lacks_orFail {value : Option α}
    (harmless : value.isSome = true ∨ error.isMissing = false) : ¬ Lacks (orFail value error) := by
  cases value with
  | some found => exact not_lacks_ok found
  | none =>
    rcases harmless with here | other
    · cases here
    · exact not_lacks_error other

def weightsOf (backends : List CompiledWeightedBackend) : List Nat :=
  backends.map fun backend => backend.weight.toNat

lemma totalWeight_toNat (backends : List CompiledWeightedBackend) :
    (totalWeight backends).toNat = (weightsOf backends).sum % 2 ^ 64 := by
  suffices general : ∀ start : UInt64, (backends.foldl (fun total backend =>
      total + backend.weight.toUInt64) start).toNat =
        (start.toNat + (weightsOf backends).sum) % 2 ^ 64 by
    exact (general 0).trans (by rw [UInt64.toNat_zero, Nat.zero_add])
  induction backends with
  | nil => simp [weightsOf]
  | cons backend rest ih =>
    intro start
    have more : (weightsOf (backend :: rest)).sum =
        backend.weight.toNat + (weightsOf rest).sum := sum_cons
    rw [foldl_cons, ih, UInt64.toNat_add, UInt32.toNat_toUInt64, Nat.mod_add_mod, more,
      Nat.add_assoc]

private lemma chooseBackend_eq (slot : UInt64) (backends : List CompiledWeightedBackend) :
    chooseBackend slot backends =
      ((Shares.place slot.toNat (weightsOf backends)).bind fun index => backends[index]?).map
        CompiledWeightedBackend.target := by
  induction backends generalizing slot with
  | nil => rfl
  | cons backend rest ih =>
    rw [chooseBackend, weightsOf, map_cons, Shares.place]
    simp only [UInt64.lt_iff_toNat_lt, UInt32.toNat_toUInt64]
    by_cases inside : slot.toNat < backend.weight.toNat
    · simp [inside]
    · have least : backend.weight.toUInt64 ≤ slot := by
        rw [UInt64.le_iff_toNat_le, UInt32.toNat_toUInt64]
        omega
      rw [if_neg inside, if_neg inside, ih, UInt64.toNat_sub_of_le _ _ least,
        UInt32.toNat_toUInt64, bind_map]
      rfl

lemma exists_chosen {backends : List CompiledWeightedBackend}
    (pos : totalWeight backends ≠ 0) (ticket : UInt64) : ∃ index backend,
      Shares.place (ticket % totalWeight backends).toNat (weightsOf backends) = some index ∧
        backends[index]? = some backend ∧ 0 < backend.weight.toNat ∧
        chooseBackend (ticket % totalWeight backends) backends = some backend.target := by
  have above : 0 < (totalWeight backends).toNat := by
    rcases Nat.eq_zero_or_pos (totalWeight backends).toNat with zero | pos
    · exact absurd (UInt64.toNat_inj.mp zero) pos
    · exact pos
  have below : (ticket % totalWeight backends).toNat < (weightsOf backends).sum := by
    have least := Nat.mod_lt ticket.toNat above
    rw [UInt64.toNat_mod]
    rw [totalWeight_toNat] at least ⊢
    exact least.trans_le (Nat.mod_le _ _)
  obtain ⟨index, weight, chosen, found, heavy⟩ := Shares.exists_place below
  rw [weightsOf, getElem?_map, map_eq_some_iff] at found
  obtain ⟨backend, found, rfl⟩ := found
  refine ⟨index, backend, chosen, found, heavy, ?_⟩
  rw [chooseBackend_eq, chosen, bind_some, found, map_some]

private lemma backendKey_not_lacks (group : Handle) :
    ¬ Lacks (backendKey groups group session clientIp) := by
  unfold backendKey upstreamSelectionKey
  split
  · simp only
    split
    · split
      · split
        · exact not_lacks_orFail (.inr rfl)
        · exact not_lacks_ok _
      · exact not_lacks_orFail (.inr rfl)
    · exact not_lacks_orFail (.inr rfl)
  · exact not_lacks_ok _

private lemma selectActionTarget_not_lacks {target : ActionTarget} (kind : isBackend target = true)
    (group : ∀ name tls, target = .upstreamGroup name tls →
      (snapshot.upstreamGroup name).isSome = true) :
    ¬ Lacks (selectActionTarget groups snapshot session clientIp target) := by
  cases target with
  | directResponse status | proxyPass host port tls sni => exact not_lacks_ok _
  | upstreamGroup name tls =>
    apply not_lacks_bind (not_lacks_orFail (.inl (group name tls rfl)))
    intro handle _
    apply not_lacks_bind (backendKey_not_lacks handle)
    intro key _
    apply not_lacks_bind (not_lacks_orFail (.inr rfl))
    intro backend _
    exact not_lacks_ok _
  | _ => cases kind

def SameCounters (snapshot : RuntimeSnapshot Handle Material) (counters : Table UInt64 UInt64) :
    Prop :=
  ∀ routeId, (counters.lookup routeId).isSome = (snapshot.backendCounters.lookup routeId).isSome

private lemma selectBackendTarget_not_lacks {counters : Table UInt64 UInt64}
    (same : SameCounters snapshot counters) (serves : Serves snapshot loc)
    (pending : ∀ action, loc.target = .action action → isBackend action = true)
    (session : Session) (clientIp : Option IpAddr) :
    ¬ Lacks (selectBackendTarget groups snapshot counters loc.routeId loc.target session
      clientIp).2 := by
  cases isTarget : loc.target with
  | action action =>
    refine selectActionTarget_not_lacks (pending action isTarget) fun name tls isGroup => ?_
    subst isGroup
    exact serves.group name tls isTarget
  | weightedBackends backends =>
    obtain ⟨here, ready⟩ := serves.backends backends isTarget
    rw [← same] at here
    obtain ⟨counter, found⟩ := isSome_iff_exists.mp here
    simp only [selectBackendTarget, found]
    by_cases noWeight : totalWeight backends = 0
    · rw [if_pos noWeight]
      exact not_lacks_error rfl
    · rw [if_neg noWeight]
      obtain ⟨_, backend, _, here, _, chosen⟩ := exists_chosen noWeight counter
      have member := mem_of_getElem? here
      rw [chosen]
      obtain ⟨kind, group⟩ := ready backend member
      exact selectActionTarget_not_lacks kind group

private lemma selectTarget_not_lacks (serves : Serves snapshot resolved.location)
    (session : Session) :
    ¬ Lacks (selectTarget crates resolved session) := by
  unfold selectTarget
  split
  · exact not_lacks_ok _
  next status tmpl isReturn =>
    have expands := serves.template status tmpl isReturn
    rw [expandReturn_isOk tmpl _ _ _ (resolved.host.getD "")
      (session.uri.pathAndQuery.getD "/") (requestScheme session)] at expands
    cases expanded : expandReturn tmpl (resolved.host.getD "")
        (session.uri.pathAndQuery.getD "/") (requestScheme session) with
    | error message =>
      rw [expanded] at expands
      cases expands
    | ok loc =>
      simp only [expanded]
      exact not_lacks_ok _
  · apply not_lacks_bind (not_lacks_orFail (.inr rfl))
    intro port _
    rintro ⟨error, failed, missing⟩
    obtain ⟨message, rfl⟩ : ∃ message, error = .redirectLocation message := by
      revert failed
      generalize redirectLocation crates _ _ _ _ _ _ = loc
      cases loc with
      | ok found =>
        intro failed
        cases failed
      | error message =>
        intro failed
        cases failed
        exact ⟨message, rfl⟩
    cases missing
  · exact not_lacks_ok _
  · exact not_lacks_ok _

private lemma selectTarget_cases {chosen : SelectedTarget}
    (selected : selectTarget crates resolved session = .ok chosen) :
    (∃ status loc, chosen = .returnTo status loc) ∨ (∃ status, chosen = .directResponse status) ∨
      (∃ profile, chosen = .scp profile ∧ resolved.location.target = .action (.scp profile)) ∨
      chosen = .pending resolved.location.target ∧
        ∀ action, resolved.location.target = .action action → isBackend action = true := by
  have returns {status : UInt16} {loc : Except String String} {wrap : String → SelectionError}
      (same : (SelectedTarget.returnTo status <$> loc).mapError wrap = .ok chosen) :
      ∃ status loc, chosen = .returnTo status loc := by
    obtain ⟨_, _, rfl⟩ := map_eq_ok.mp (mapError_eq_ok.mp same)
    exact ⟨_, _, rfl⟩
  unfold selectTarget at selected
  split at selected
  next profile isScp =>
    cases selected
    exact .inr (.inr (.inl ⟨profile, rfl, isScp⟩))
  · exact .inl (returns selected)
  · obtain ⟨_, _, same⟩ := bind_eq_ok.mp selected
    exact .inl (returns same)
  · cases selected
    exact .inr (.inl ⟨_, rfl⟩)
  next notScp notReturn notRedirect notDirect =>
    cases selected
    refine .inr (.inr (.inr ⟨rfl, fun action isAction => ?_⟩))
    cases action with
    | scp profile => exact absurd isAction (notScp profile)
    | returnRedirect status loc => exact absurd isAction (notReturn status loc)
    | httpRedirect redirect => exact absurd isAction (notRedirect redirect)
    | directResponse status => exact absurd isAction (notDirect status)
    | proxyPass host port tls sni | upstreamGroup name tls => rfl

private lemma fromResolved_eq_ok {selected : SelectedRoute Material}
    (ok : SelectedRoute.fromResolved crates emptyPluginChain snapshot resolved session =
      .ok selected) :
    selectTarget crates resolved session = .ok selected.target ∧
      selected.routeId = resolved.location.routeId := by
  obtain ⟨target, targetOk, _, _, _, _, same⟩ := bind₃_eq_ok.mp ok
  cases same
  exact ⟨targetOk, rfl⟩

private lemma fromResolved_not_lacks (serves : Serves snapshot resolved.location)
    (session : Session) :
    ¬ Lacks (SelectedRoute.fromResolved crates emptyPluginChain snapshot resolved session) := by
  apply not_lacks_bind (selectTarget_not_lacks serves session)
  intro target _
  apply not_lacks_bind
  · unfold selectClientIdentity
    split
    next cert key isCert isKey =>
      obtain ⟨identity, found⟩ := isSome_iff_exists.mp (serves.identity cert isCert key isKey)
      rw [found]
      exact not_lacks_ok _
    · exact not_lacks_ok _
  · intro identity _
    apply not_lacks_bind
    · unfold selectTrustedCa
      cases isSource : resolved.location.upstreamSslOptions.trustedCertificate with
      | none => exact not_lacks_ok _
      | some src =>
        obtain ⟨ca, found⟩ := isSome_iff_exists.mp (serves.trustedCa src isSource)
        rw [traverse_some, found]
        exact not_lacks_ok _
    · intro ca _
      exact not_lacks_ok _

private lemma scpProfile_not_lacks (serves : Serves snapshot resolved.location)
    {chosen : SelectedTarget}
    (selected : selectTarget crates resolved session = .ok chosen) :
    ¬ Lacks (scpProfile snapshot chosen) := by
  obtain ⟨_, _, rfl⟩ | ⟨_, rfl⟩ | ⟨name, rfl, isScp⟩ | ⟨rfl, _⟩ := selectTarget_cases selected
  · exact not_lacks_ok _
  · exact not_lacks_ok _
  · obtain ⟨profile, found⟩ := isSome_iff_exists.mp (serves.scp name isScp)
    rw [scpProfile, found]
    exact not_lacks_ok _
  · exact not_lacks_ok _

/-- No request on a built snapshot fails because the snapshot lacks something: the
selected route, its SCP profile and its backend are found whatever location is
resolved, whatever the request and its headers are by then, and however far the
counters have advanced. -/
theorem built_snapshot_self_contained {platform : Platform} {http : Http} {router : CompiledRouter}
    (accepted : fromHttp platform http = .ok router) {builders : Builders Handle Material}
    {version : String} {generation : UInt64}
    {previous : Option (RuntimeSnapshot Handle Material)}
    {snapshot : RuntimeSnapshot Handle Material}
    (built : buildRuntimeSnapshot platform builders version router generation previous =
      .ok snapshot)
    (crates : Crates) (groups : RuntimeGroups Handle) (emptyPluginChain : Material)
    {session : Session} {resolved : ResolvedLocation}
    (found : resolveRoute crates snapshot.router session = .ok (some resolved))
    (request : Session) :
    ¬ Lacks (SelectedRoute.fromResolved crates emptyPluginChain snapshot resolved request) ∧
      ∀ selected, SelectedRoute.fromResolved crates emptyPluginChain snapshot resolved request =
          .ok selected →
        ¬ Lacks (scpProfile snapshot selected.target) ∧
        ∀ target, selected.target = .pending target →
          ∀ (later : Session) (clientIp : Option IpAddr) (counters : Table UInt64 UInt64),
            SameCounters snapshot counters →
            ¬ Lacks (selectBackendTarget groups snapshot counters selected.routeId target later
              clientIp).2 := by
  obtain ⟨compiled⟩ := compiled_of_fromHttp accepted
  have stages := built_of_build built
  rw [stages.routerEq] at found
  have serves := serves_of_build compiled stages (mem_of_resolveRoute found)
  refine ⟨fromResolved_not_lacks serves request, ?_⟩
  intro selected succeeds
  obtain ⟨targetOk, routeId⟩ := fromResolved_eq_ok succeeds
  refine ⟨scpProfile_not_lacks serves targetOk, ?_⟩
  intro target pending later clientIp counters same
  rw [pending] at targetOk
  obtain ⟨_, _, other⟩ | ⟨_, other⟩ | ⟨_, other, _⟩ | ⟨isTarget, backends⟩ :=
    selectTarget_cases targetOk
  · cases other
  · cases other
  · cases other
  · cases isTarget
    rw [routeId]
    exact selectBackendTarget_not_lacks same serves backends later clientIp

end Serving

namespace AliasRequest

def builders : Builders Unit Unit := .constant () ()

def groups : RuntimeGroups Unit where
  usesConsistentHash _ := false
  hashKey _ := none
  select _ _ := none

def session : Session where
  serverAddr := some (.inet (.v4 { a := 127, b := 0, c := 0, d := 1 }) 8080)
  uri := { path := "/one" }
  headers := { entries := [("host", HeaderValue.ofText "a.example")] }

end AliasRequest

open AliasRequest in
theorem weighted_route_served :
    ∃ router snapshot resolved selected,
      fromHttp Reference.platform AliasExample.http = .ok router ∧
      buildRuntimeSnapshot Reference.platform builders "v1" router 1 none = .ok snapshot ∧
      resolveRoute DotExample.crates snapshot.router session = .ok (some resolved) ∧
      SelectedRoute.fromResolved DotExample.crates () snapshot resolved session = .ok selected ∧
      ∀ target, selected.target = .pending target →
        ¬ Lacks (selectBackendTarget groups snapshot snapshot.backendCounters selected.routeId
          target session none).2 := by
  have run : ∃ router, fromHttp Reference.platform AliasExample.http = .ok router ∧
      ∃ snapshot, buildRuntimeSnapshot Reference.platform builders "v1" router 1 none =
        .ok snapshot ∧
      ∃ resolved, resolveRoute DotExample.crates snapshot.router session = .ok (some resolved) ∧
      ∃ selected, SelectedRoute.fromResolved DotExample.crates () snapshot resolved session =
        .ok selected ∧ True := by decide +kernel
  obtain ⟨router, accepted, snapshot, built, resolved, resolvedOk, selected, selectedOk, _⟩ := run
  refine ⟨router, snapshot, resolved, selected, accepted, built, resolvedOk, selectedOk, ?_⟩
  intro target pending
  exact ((built_snapshot_self_contained accepted built DotExample.crates groups () resolvedOk
    session).2 selected selectedOk).2 target pending session none _ fun _ => rfl

end Ngxora.Routing
