/-
Building a runtime snapshot and applying it.
-/

import Ngxora.Router.FromHttp

namespace Ngxora.Control

open Table List Option Results Router

structure ListenerRestartConfig where
  protocol : ListenerProtocolConfig
  tls : Option ListenerTlsSettings
  deriving DecidableEq

/-- The listeners are an ordered map: its entries by increasing key. -/
structure RestartConfigFingerprint where
  geoip : Option GeoIpConfig
  listeners : List (ListenKey × ListenerRestartConfig)
  allowConnectMethodProxying : Bool
  h2c : Bool
  keepaliveRequests : Option UInt32
  http2 : Http2Options
  deriving DecidableEq

def listenerRestartConfig (router : CompiledRouter) (key : ListenKey) : ListenerRestartConfig :=
  { protocol := (router.listenerProtocols.lookup key).getD {}
    tls := (router.listenerTls.lookup key).map ListenerTlsConfig.settings }

def restartFingerprint (router : CompiledRouter) : RestartConfigFingerprint :=
  { geoip := router.geoip
    listeners := (Table.sortedKeys ListenKey.le router.listeners).map fun key =>
      (key, listenerRestartConfig router key)
    allowConnectMethodProxying := router.httpOptions.allowConnectMethodProxying
    h2c := router.httpOptions.h2c
    keepaliveRequests := router.httpOptions.keepaliveRequests
    http2 := router.httpOptions.http2 }

structure ClientIdentityKey where
  cert : PemSource
  key : PemSource
  deriving DecidableEq

structure RuntimeScp (Handle : Type) where
  root : ApiRoot
  config : ScpProfile
  templates : List CompiledUpstreamGroup
  allowed : List ApiRoot
  cache : Handle

structure RuntimeSnapshot (Handle Material : Type) where
  backendCounters : Table UInt64 UInt64 := ∅
  scpProfiles : Table String (RuntimeScp Handle) := ∅
  generation : UInt64
  version : String
  router : CompiledRouter
  pluginChains : Table UInt64 Material := ∅
  upstreamGroups : Table String Handle := ∅
  trustedCas : Table PemSource Material := ∅
  clientIdentities : Table ClientIdentityKey Material := ∅

/-- What a build loads or creates outside the router: a `Handle` is a shared object,
`Material` a loaded value. Both may differ from one call to the next. -/
structure Builders (Handle Material : Type) where
  validateTlsIdentity : TlsIdentity → Except String Unit
  buildChain : List PluginSpec → Except String Material
  groupFromCompiled : CompiledUpstreamGroup → Except String Handle
  loadTrustedCa : PemSource → Except String Material
  loadClientIdentity : ClientIdentityKey → Except String Material
  newScpCache : ScpProfile → Handle

variable {Handle Material : Type}

/-- Builders that succeed with the same handle and material on everything. -/
def Builders.constant (handle : Handle) (material : Material) : Builders Handle Material where
  validateTlsIdentity _ := .ok ()
  buildChain _ := .ok material
  groupFromCompiled _ := .ok handle
  loadTrustedCa _ := .ok material
  loadClientIdentity _ := .ok material
  newScpCache _ := handle

namespace RuntimeSnapshot

def pluginChain (snapshot : RuntimeSnapshot Handle Material) (emptyPluginChain : Material)
    (routeId : UInt64) : Material :=
  (snapshot.pluginChains.lookup routeId).getD emptyPluginChain

def upstreamGroup (snapshot : RuntimeSnapshot Handle Material) (name : String) : Option Handle :=
  snapshot.upstreamGroups.lookup (Text.toAsciiLowercase (Text.trimEndMatches '.' name))

def trustedCa (snapshot : RuntimeSnapshot Handle Material) (source : PemSource) : Option Material :=
  snapshot.trustedCas.lookup source

def clientIdentity (snapshot : RuntimeSnapshot Handle Material) (cert key : PemSource) :
    Option Material :=
  snapshot.clientIdentities.lookup { cert, key }

end RuntimeSnapshot

def loadOnce {K : Type} [DecidableEq K] (load : K → Except String Material)
    (table : Table K Material) (key : K) : Except String (Table K Material) :=
  if (table.lookup key).isSome then .ok table
  else table.insert key <$> load key

variable (platform : Platform) (builders : Builders Handle Material)

def collectPluginChain (chains : Table UInt64 Material) (location : CompiledLocation) :
    Except String (Table UInt64 Material) :=
  loadOnce (fun routeId => match builders.buildChain location.plugins with
    | .ok chain => .ok chain
    | .error err => .error s!"failed to build plugin chain for route {routeId.toNat}: {err}")
    chains location.routeId

def buildPluginChains (router : CompiledRouter) : Except String (Table UInt64 Material) :=
  (routerLocations router).foldlM (collectPluginChain builders) ∅

def buildRuntimeUpstreamGroups (router : CompiledRouter)
    (previous : Option (RuntimeSnapshot Handle Material)) : Except String (Table String Handle) :=
  Table.traverse (fun name group => let kept := previous.bind fun snapshot =>
      if snapshot.router.upstreams.lookup name = some group then
        snapshot.upstreamGroups.lookup name
      else none
    match kept with
    | some runtimeGroup => .ok runtimeGroup
    | none => builders.groupFromCompiled group) router.upstreams

def trustedCertificates (router : CompiledRouter) : List PemSource :=
  (routerLocations router).filterMap fun location => location.upstreamSslOptions.trustedCertificate

def buildRuntimeTrustedCas (router : CompiledRouter) : Except String (Table PemSource Material) :=
  (trustedCertificates router).foldlM (loadOnce builders.loadTrustedCa) ∅

def clientIdentityKeys (router : CompiledRouter) : List ClientIdentityKey :=
  (routerLocations router).filterMap fun location =>
    match location.upstreamSslOptions.clientCertificate,
      location.upstreamSslOptions.clientCertificateKey with
    | some cert, some key => some { cert, key }
    | _, _ => none

def buildRuntimeClientIdentities (router : CompiledRouter) :
    Except String (Table ClientIdentityKey Material) :=
  (clientIdentityKeys router).foldlM (loadOnce builders.loadClientIdentity) ∅

def RuntimeScp.matches (scp : RuntimeScp Handle) (config : ScpProfile)
    (upstreams : UpstreamTable) : Bool :=
  decide (scp.config = config) &&
    scp.templates.all fun group => decide (upstreams.lookup group.name = some group)

def RuntimeScp.new (config : ScpProfile) (upstreams : UpstreamTable) :
    Except String (RuntimeScp Handle) := do
  validateProfile platform upstreams config
  let root ← ApiRoot.parse platform config.apiRoot
  let templates ← config.discoveryUpstreams.mapM fun name =>
    orFail (upstreams.lookup name) s!"scp references unknown discovery upstream `{name}`"
  let allowed ← config.allowedTargetApiRoots.mapM (ApiRoot.parse platform)
  pure { root, config, templates, allowed, cache := builders.newScpCache config }

def buildScpProfiles (router : CompiledRouter)
    (previous : Option (RuntimeSnapshot Handle Material)) :
    Except String (Table String (RuntimeScp Handle)) :=
  Table.traverse (fun name profile =>
    let kept := (previous.bind fun snapshot => snapshot.scpProfiles.lookup name).filter
      fun scp => RuntimeScp.matches scp profile router.upstreams
    match kept with
    | some scp => .ok scp
    | none => RuntimeScp.new platform builders profile router.upstreams) router.scpProfiles

def backendCounters (router : CompiledRouter) : Table UInt64 UInt64 :=
  (routerLocations router).foldl (fun counters location => match location.target with
    | .weightedBackends _ => counters.insert location.routeId 0
    | .action _ => counters) ∅

def isLeIdentity (router : CompiledRouter) (tls : ListenerTlsConfig) (identity : TlsIdentity) :
    Bool :=
  match router.leConfig with
  | none => false
  | some config =>
    let dir := config.cacheDir.getD (PathBuf.ofText "/var/lib/ngxora/certs")
    tls.named.keys.any fun domain =>
      (validateHostname domain).isOk &&
        decide (identity.cert = .path ((dir.join domain).join "fullchain.pem")) &&
        decide (identity.key = .path ((dir.join domain).join "privkey.pem"))

def validateListenerTls (router : CompiledRouter) (key : ListenKey) : Except String Unit := do
  let tls ← orFail (router.listenerTls.lookup key)
    s!"TLS listener {listenKeyAddr key} has no certificate configuration"
  rejectIf (tls.default.isNone && tls.named.keys.isEmpty)
    s!"TLS listener {listenKeyAddr key} has no certificate identities"
  (tls.default.toList ++ tls.named.values).forM fun identity =>
    if isLeIdentity router tls identity then .ok () else builders.validateTlsIdentity identity

def validateSnapshotTls (router : CompiledRouter) : Except String Unit :=
  (router.listeners.keys.filter ListenKey.ssl).forM (validateListenerTls builders router)

/-- The certificates are checked for a reload, not for the bootstrap snapshot. -/
def validateReload (router : CompiledRouter) (previous : Option (RuntimeSnapshot Handle Material)) :
    Except String Unit :=
  if previous.isSome then validateSnapshotTls builders router else .ok ()

def buildRuntimeSnapshot (version : String) (router : CompiledRouter) (generation : UInt64)
    (previous : Option (RuntimeSnapshot Handle Material)) :
    Except String (RuntimeSnapshot Handle Material) := do
  validateReload builders router previous
  let pluginChains ← buildPluginChains builders router
  let upstreamGroups ← buildRuntimeUpstreamGroups builders router previous
  let trustedCas ← buildRuntimeTrustedCas builders router
  let clientIdentities ← buildRuntimeClientIdentities builders router
  let scpProfiles ← buildScpProfiles platform builders router previous
  pure
    { backendCounters := backendCounters router
      scpProfiles
      generation
      version
      router
      pluginChains
      upstreamGroups
      trustedCas
      clientIdentities }

structure ApplyResult where
  applied : Bool
  restartRequired : Bool
  message : String
  activeVersion : String
  activeGeneration : UInt64

/-- The state several threads share; `poisoned` says that a thread panicked while
it held the apply lock. -/
structure RuntimeState (Handle Material : Type) where
  current : RuntimeSnapshot Handle Material
  bootstrapConfig : RestartConfigFingerprint
  poisoned : Bool

def refused (current : RuntimeSnapshot Handle Material) (restartRequired : Bool)
    (message : String) : ApplyResult :=
  { applied := false
    restartRequired
    message
    activeVersion := current.version
    activeGeneration := current.generation }

def poisonedResult (current : RuntimeSnapshot Handle Material) : ApplyResult :=
  refused current false "snapshot apply lock is poisoned"

def restartResult (current : RuntimeSnapshot Handle Material) : ApplyResult :=
  refused current true "listener or bootstrap transport settings changed; restart required"

def appliedResult (snapshot : RuntimeSnapshot Handle Material) : ApplyResult :=
  { applied := true
    restartRequired := false
    message := "snapshot applied"
    activeVersion := snapshot.version
    activeGeneration := snapshot.generation }

def applySnapshot (state : RuntimeState Handle Material) (next : ConfigSnapshot) :
    ApplyResult × RuntimeState Handle Material :=
  if state.poisoned then (poisonedResult state.current, state)
  else if restartFingerprint next.router ≠ state.bootstrapConfig then
    (restartResult state.current, state)
  else
    match buildRuntimeSnapshot platform builders next.version next.router
        (state.current.generation + 1) (some state.current) with
    | .ok snapshot => (appliedResult snapshot, { state with current := snapshot })
    | .error message => (refused state.current false message, state)

def bootstrapState (snapshot : ConfigSnapshot) : Except String (RuntimeState Handle Material) := do
  let initial ← buildRuntimeSnapshot platform builders snapshot.version snapshot.router 1 none
  pure
    { current := initial, bootstrapConfig := restartFingerprint snapshot.router, poisoned := false }

lemma applySnapshot_restartRequired {state : RuntimeState Handle Material}
    (healthy : state.poisoned = false)
    (next : ConfigSnapshot) :
    (applySnapshot platform builders state next).1.restartRequired = false ↔
      restartFingerprint next.router = state.bootstrapConfig := by
  unfold applySnapshot
  rw [healthy, if_neg Bool.false_ne_true]
  by_cases same : restartFingerprint next.router = state.bootstrapConfig
  · rw [if_neg (not_not.mpr same)]
    split <;> simp [same, appliedResult, refused]
  · rw [if_pos same]
    simp [same, restartResult, refused]

/-- The parts of a snapshot that was built. -/
structure Built (platform : Platform) (builders : Builders Handle Material) (version : String)
    (router : CompiledRouter) (generation : UInt64)
    (previous : Option (RuntimeSnapshot Handle Material))
    (snapshot : RuntimeSnapshot Handle Material) : Prop where
  reloadOk : validateReload builders router previous = .ok ()
  pluginChainsOk : buildPluginChains builders router = .ok snapshot.pluginChains
  upstreamGroupsOk : buildRuntimeUpstreamGroups builders router previous =
    .ok snapshot.upstreamGroups
  trustedCasOk : buildRuntimeTrustedCas builders router = .ok snapshot.trustedCas
  clientIdentitiesOk : buildRuntimeClientIdentities builders router =
    .ok snapshot.clientIdentities
  scpProfilesOk : buildScpProfiles platform builders router previous = .ok snapshot.scpProfiles
  countersEq : snapshot.backendCounters = backendCounters router
  versionEq : snapshot.version = version
  routerEq : snapshot.router = router
  generationEq : snapshot.generation = generation

variable {platform : Platform} {builders : Builders Handle Material} {version : String}
  {router : CompiledRouter} {generation : UInt64}
  {previous : Option (RuntimeSnapshot Handle Material)} {snapshot : RuntimeSnapshot Handle Material}

lemma built_of_build
    (built : buildRuntimeSnapshot platform builders version router generation previous =
      .ok snapshot) : Built platform builders version router generation previous snapshot := by
  unfold buildRuntimeSnapshot at built
  obtain ⟨_, reloadOk, _, chainsOk, _, groupsOk, built⟩ := bind₃_eq_ok.mp built
  obtain ⟨_, casOk, _, identitiesOk, _, profilesOk, same⟩ := bind₃_eq_ok.mp built
  cases same
  exact ⟨reloadOk, chainsOk, groupsOk, casOk, identitiesOk, profilesOk, rfl, rfl, rfl, rfl⟩

variable {K : Type} {table : Table K Material}

lemma lookup_loadOnce {α : Type} [DecidableEq K] {load : α → K → Except String Material}
    {key : α → K} {items : List α}
    (loaded : items.foldlM (fun table item => loadOnce (load item) table (key item)) ∅ =
      .ok table) : (∀ item ∈ items, (table.lookup (key item)).isSome = true) ∧
      ∀ wanted value, table.lookup wanted = some value →
        ∃ item ∈ items, key item = wanted ∧ load item wanted = .ok value := by
  apply foldlM_prefix_invariant (fun done table =>
    (∀ item ∈ done, (table.lookup (key item)).isSome = true) ∧
      ∀ wanted value, table.lookup wanted = some value →
        ∃ item ∈ done, key item = wanted ∧ load item wanted = .ok value) ?_ ?_ loaded
  · exact ⟨fun item mem => absurd mem not_mem_nil, fun wanted value found => by
      rw [AList.lookup_empty] at found
      cases found⟩
  · rintro done state item next _ ⟨present, loads⟩ stepOk
    have widen : ∀ {wanted value}, (∃ item ∈ done, key item = wanted ∧
        load item wanted = .ok value) → ∃ item' ∈ done ++ [item], key item' = wanted ∧
          load item' wanted = .ok value := by
      rintro wanted value ⟨src, mem, loadOk⟩
      exact ⟨src, mem_append_left _ mem, loadOk⟩
    unfold loadOnce at stepOk
    split at stepOk
    next known =>
      cases stepOk
      refine ⟨?_, fun wanted value found => widen (loads wanted value found)⟩
      intro other mem
      rcases mem_append.mp mem with old | here
      · exact present other old
      · rwa [mem_singleton.mp here]
    next new =>
      obtain ⟨value, loadOk, rfl⟩ := map_eq_ok.mp stepOk
      constructor
      · intro other mem
        rw [lookup_insert_eq]
        split
        · rfl
        next differ =>
          rcases mem_append.mp mem with old | here
          · exact present other old
          · rw [mem_singleton.mp here] at differ
            exact absurd rfl differ
      · intro wanted found
        rw [lookup_insert_eq]
        split
        next same =>
          intro isValue
          cases isValue
          subst same
          exact ⟨item, mem_append_right _ (mem_singleton_self item), rfl, loadOk⟩
        next =>
          intro isValue
          exact widen (loads wanted found isValue)

lemma isSome_of_loadOnce [DecidableEq K] {load : K → Except String Material} {keys : List K}
    (loaded : keys.foldlM (loadOnce load) ∅ = .ok table) {key : K} (mem : key ∈ keys) :
    (table.lookup key).isSome = true := by
  have perItem : keys.foldlM (fun table item =>
      loadOnce ((fun _ => load) item) table (id item)) ∅ = .ok table := loaded
  exact (lookup_loadOnce perItem).1 key mem

lemma fields_of_build
    (built : buildRuntimeSnapshot platform builders version router generation previous =
      .ok snapshot) :
    snapshot.version = version ∧ snapshot.router = router ∧ snapshot.generation = generation := by
  have stages := built_of_build built
  exact ⟨stages.versionEq, stages.routerEq, stages.generationEq⟩

lemma upstreamGroups_of_build
    (built : buildRuntimeSnapshot platform builders version router generation previous =
      .ok snapshot) : snapshot.router = router ∧
      ∀ name, (snapshot.upstreamGroups.lookup name).isSome =
        (router.upstreams.lookup name).isSome := by
  have stages := built_of_build built
  refine ⟨stages.routerEq, fun name => ?_⟩
  have related := lookup_traverse stages.upstreamGroupsOk name
  generalize router.upstreams.lookup name = src at related
  generalize snapshot.upstreamGroups.lookup name = res at related
  cases related <;> rfl

lemma buildRuntimeUpstreamGroups_keeps {previous : RuntimeSnapshot Handle Material}
    (complete : ∀ name, (previous.upstreamGroups.lookup name).isSome =
      (previous.router.upstreams.lookup name).isSome)
    (router : CompiledRouter) (builders : Builders Handle Material) :
    (∀ groupFromCompiled, ∃ groups,
        buildRuntimeUpstreamGroups { builders with groupFromCompiled } router
          (some previous) = .ok groups ∧ Table.SameEntries previous.upstreamGroups groups) ↔
      Table.SameEntries previous.router.upstreams router.upstreams := by
  constructor
  · intro keeps name
    -- Builders that build nothing succeed only when every group is kept.
    obtain ⟨groups, groupsOk, sameGroups⟩ := keeps fun _ => .error ""
    have related := lookup_traverse groupsOk name
    rw [← sameGroups name] at related
    have held := complete name
    cases found : router.upstreams.lookup name with
    | none =>
      rw [found] at related
      generalize previous.upstreamGroups.lookup name = kept at related held
      cases related
      exact isNone_iff_eq_none.mp (isSome_eq_false_iff.mp held.symm)
    | some group =>
      rw [found] at related
      by_cases same : previous.router.upstreams.lookup name = some group
      · exact same
      · generalize previous.upstreamGroups.lookup name = kept at related
        cases related with
        | some stepOk => simp [same] at stepOk
  · intro same groupFromCompiled
    have kept : ∀ name group, router.upstreams.lookup name = some group →
        ∃ runtimeGroup, previous.upstreamGroups.lookup name = some runtimeGroup ∧
          previous.router.upstreams.lookup name = some group := by
      intro name group found
      have before : previous.router.upstreams.lookup name = some group := (same name).trans found
      have held := complete name
      rw [before, isSome_some] at held
      obtain ⟨runtimeGroup, runtimeEq⟩ := isSome_iff_exists.mp held
      exact ⟨runtimeGroup, runtimeEq, before⟩
    obtain ⟨groups, groupsOk⟩ : ∃ groups, buildRuntimeUpstreamGroups
        { builders with groupFromCompiled } router (some previous) =
          .ok groups := by
      apply exists_traverse
      intro name group found
      obtain ⟨runtimeGroup, runtimeEq, before⟩ := kept name group found
      exact ⟨runtimeGroup, by simp [before, runtimeEq]⟩
    refine ⟨groups, groupsOk, fun name => ?_⟩
    have related := lookup_traverse groupsOk name
    cases found : router.upstreams.lookup name with
    | none =>
      rw [found] at related
      have held := complete name
      rw [same name, found, isSome_none] at held
      rw [isNone_iff_eq_none.mp (isSome_eq_false_iff.mp held)]
      generalize groups.lookup name = res at related
      cases related
      rfl
    | some group =>
      rw [found] at related
      obtain ⟨runtimeGroup, runtimeEq, before⟩ := kept name group found
      generalize groups.lookup name = res at related
      cases related with
      | some stepOk => simpa [before, runtimeEq] using stepOk

end Ngxora.Control
