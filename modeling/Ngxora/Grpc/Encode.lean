/- Exporting the version and the compiled router as a snapshot of the wire format. -/

import Ngxora.Base.Slots
import Ngxora.Grpc.HttpRoutes
import Ngxora.Grpc.Tls

namespace Ngxora.Grpc

open Proto (WireEnum)
open Results

def protoUpstreamHashKeyFromRuntime : UpstreamHashKey → Proto.UpstreamHashKey
  | .clientIp => { source := some (.clientIp true) }
  | .header name => { source := some (.header name) }

def protoUpstreamHealthCheckFromRuntime (value : CompiledHealthCheck) : Proto.UpstreamHealthCheck :=
  { kind :=
      match value.checkType with
      | .tcp => some .tcp
      | .http host path useTls => some (.http host path useTls)
    timeoutMs := Machine.saturateU64 value.timeout.asMillis
    intervalMs := Machine.saturateU64 value.interval.asMillis
    consecutiveSuccess := Machine.saturateU32 value.consecutiveSuccess
    consecutiveFailure := Machine.saturateU32 value.consecutiveFailure }

def protoNrfEndpointScheme : NrfEndpointScheme → Proto.NrfEndpointScheme
  | .http => .http
  | .https => .https

def protoNrfDiscoveryFromRuntime (value : CompiledNrfDiscovery) : Proto.NrfDiscovery :=
  { apiRoot := Text.trimEndMatches '/' value.apiRoot.toText
    targetNfType := value.targetNfType
    requesterNfType := value.requesterNfType
    serviceName := value.serviceName
    endpointScheme := WireEnum.code (protoNrfEndpointScheme value.endpointScheme)
    timeoutMs := Machine.saturateU64 value.timeout.asMillis
    staleIfErrorMs := Machine.saturateU64 value.staleIfError.asMillis
    tlsOptions := some (protoUpstreamTlsOptionsFromRuntime value.tlsOptions) }

def protoUpstreamBackendFromRuntime (server : CompiledUpstreamServer) : Proto.UpstreamBackend :=
  { host := server.host, port := server.port.toUInt32, weight := server.weight.toUInt32 }

def protoUpstreamGroupFromRuntime (group : CompiledUpstreamGroup) : Proto.UpstreamGroup :=
  { allowEmpty := group.allowEmpty
    name := group.name
    backends := group.servers.map protoUpstreamBackendFromRuntime
    policy := WireEnum.code (protoUpstreamSelectionPolicyFromRuntime group.policy)
    healthCheck := group.healthCheck.map protoUpstreamHealthCheckFromRuntime
    hashKey := group.hashKey.map protoUpstreamHashKeyFromRuntime
    nrfDiscovery := group.nrfDiscovery.map protoNrfDiscoveryFromRuntime }

def protoUpstreamsFromRuntime (upstreams : UpstreamTable) : List Proto.UpstreamGroup :=
  (Table.sortBy Names.le CompiledUpstreamGroup.name upstreams.values).map
    protoUpstreamGroupFromRuntime

def protoMatchFromRuntime (matcher : CompiledMatcher) : Proto.Match :=
  { kind :=
      match matcher with
      | .http matcher => some (.http (httpMatchToProto matcher))
      | .pathPrefix path => some (.pathPrefix path)
      | .exact path => some (.exact path)
      | .preferPrefix path => some (.preferPrefix path)
      | .regex caseInsensitive pattern => some (.regex pattern caseInsensitive)
      | .named name => some (.named name) }

def protoHttpRedirectFromRuntime (config : HttpRedirect) : Proto.HttpRedirect :=
  { status := config.status.toUInt32
    scheme := config.scheme
    hostname := config.hostname
    port := config.port.map UInt16.toUInt32
    path := config.path.map modifierToProto }

def schemeText (tls : Bool) : String := if tls then "https" else "http"

def protoActionFromRuntime : ActionTarget → Proto.RouteAction
  | .directResponse status => .directResponse status.toUInt32
  | .httpRedirect config => .httpRedirect (protoHttpRedirectFromRuntime config)
  | .scp profile => .scpProfile profile
  | .proxyPass host port tls _ =>
    .upstream
      { scheme := schemeText tls, host, port := port.toUInt32, upstreamGroup := "" }
  | .upstreamGroup name tls =>
    .upstream
      { scheme := schemeText tls, host := "", port := 0, upstreamGroup := name }
  | .returnRedirect status location =>
    .redirect
      { status := status.toUInt32, location }

def protoWeightedTargetFromRuntime (target : ActionTarget) :
    Except String Proto.WeightedBackendTarget :=
  match target with
  | .directResponse status => .ok (.directResponse status.toUInt32)
  | .proxyPass _ _ _ _ | .upstreamGroup _ _ =>
    match protoActionFromRuntime target with
    | .upstream upstream => .ok (.upstream upstream)
    | _ => .error "invalid compiled upstream target"
  | _ => .error "weighted backend must be an upstream or direct response"

def protoWeightedBackendFromRuntime (backend : CompiledWeightedBackend) :
    Except String Proto.WeightedBackend := do
  let target ← protoWeightedTargetFromRuntime backend.target
  pure { weight := some backend.weight, target := some target }

def protoRouteActionFromRuntime : RouteTarget → Except String Proto.RouteAction
  | .action target => .ok (protoActionFromRuntime target)
  | .weightedBackends backends =>
    .weightedBackends <$> backends.mapM protoWeightedBackendFromRuntime

def protoCacheKeyModeFromRuntime : CacheKeyMode → Proto.CacheKeyMode
  | .uri => .uri
  | .uriAndMethod => .uriAndMethod
  | .normalizedUri => .normalizedUri

def protoRouteCacheFromRuntime (value : CacheConfig) : Proto.RouteCache :=
  { enabled := WireEnum.code (protoSwitchFromRuntime (if value.enabled then .on else .off))
    maxSizeBytes := value.maxSize.getD 0
    ttlMs := durationToMillis value.ttl
    staleIfErrorMs := durationToMillis value.staleIfError
    keyMode := WireEnum.code (protoCacheKeyModeFromRuntime value.cacheKey)
    minUses := (value.minUses.bind Machine.narrowU32).getD 0
    validStatuses := value.validStatuses.map UInt16.toUInt32 }

def protoUpstreamHttpProtocolFromRuntime :
    Option UpstreamHttpProtocol → Proto.UpstreamHttpProtocol
  | none => .unspecified
  | some .h1 => .h1
  | some .h2 => .h2
  | some .h2c => .h2c

def protoTimeoutsFromRuntime (timeouts : UpstreamTimeouts) : Proto.RouteTimeouts :=
  { connectTimeoutMs := durationToMillis timeouts.connect
    readTimeoutMs := durationToMillis timeouts.read
    writeTimeoutMs := durationToMillis timeouts.write }

variable (platform : Platform)

def protoPluginFromRuntime (plugin : PluginSpec) : Except String Proto.Plugin :=
  match platform.jsonToString plugin.config with
  | .ok text =>
    .ok { name := plugin.name, jsonConfig := text }
  | .error err => .error s!"failed to serialize plugin `{plugin.name}` config: {err}"

def protoUrlRewriteFromRuntime (rewrite : UrlRewrite) : Proto.UrlRewrite :=
  { hostname := rewrite.hostname, path := rewrite.path.map modifierToProto }

/-- The cast of a count of milliseconds to 64 bits, which wraps. -/
def wrappingMillis (duration : Duration) : UInt64 := UInt64.ofNat duration.asMillis

def protoUpstreamHttp2FromRuntime (options : UpstreamHttp2Options) : Proto.UpstreamHttp2Options :=
  { maxConcurrentStreams := options.maxConcurrentStreams
    streamWindowSize := options.streamWindowSize
    connectionWindowSize := options.connectionWindowSize }

def protoRouteFromRuntime (route : CompiledLocation) : Except String Proto.Route := do
  let action ← protoRouteActionFromRuntime route.target
  let plugins ← route.plugins.mapM (protoPluginFromRuntime platform)
  pure
    { accessRules := route.accessRules.map accessToProto
      allowedMethods := route.clientLimits.allowedMethods
      clientMaxBodySizeBytes := route.clientLimits.maxBodySize
      clientBodyTimeoutMs := route.clientLimits.bodyTimeout.map wrappingMillis
      sendTimeoutMs := route.clientLimits.sendTimeout.map wrappingMillis
      urlRewrite := route.urlRewrite.map protoUrlRewriteFromRuntime
      matcher := some (protoMatchFromRuntime route.matcher)
      action := some action
      timeouts := some (protoTimeoutsFromRuntime route.upstreamTimeouts)
      plugins
      tlsOptions := some (protoUpstreamTlsOptionsFromRuntime route.upstreamSslOptions)
      upstreamProtocol := WireEnum.code (protoUpstreamHttpProtocolFromRuntime route.upstreamProtocol)
      cache := route.cache.map protoRouteCacheFromRuntime
      upstreamHttp2 := some (protoUpstreamHttp2FromRuntime route.upstreamHttp2) }

def protoRoutesFromRuntime (routes : ServerRoutes) : Except String (List Proto.Route) :=
  routes.locations.mapM (protoRouteFromRuntime platform)

/-- Add a host name to the first virtual host with its listener, routes and
certificate, or as a virtual host of its own. -/
def mergeOrPushVirtualHost (out : List Proto.VirtualHost) (listenerName : String)
    (defaultServer : Bool) (host : String) (routes : ServerRoutes)
    (identity : Option TlsIdentity) : Except String (List Proto.VirtualHost) := do
  let tls := identity.map protoTlsBindingFromRuntime
  let routes ← protoRoutesFromRuntime platform routes
  pure (Slots.updateFirst (fun current => decide (current.listener = listenerName ∧
      current.defaultServer = defaultServer ∧ current.tls = tls ∧ current.routes = routes))
    (fun current => { current with
      serverNames := (current.serverNames ++ [host]).insertionSort Names.le })
    { listener := listenerName, serverNames := [host], defaultServer, tls, routes }
    out)

def hostIdentity (tls : Option ListenerTlsConfig) (host : String) : Option TlsIdentity :=
  (tls.bind fun config => config.named.lookup host).or (tls.bind ListenerTlsConfig.default)

def pushNamedHost (listenerName : String) (tls : Option ListenerTlsConfig)
    (out : List Proto.VirtualHost) (entry : Sigma fun _ : String => ServerRoutes) :
    Except String (List Proto.VirtualHost) :=
  mergeOrPushVirtualHost platform out listenerName false entry.1 entry.2 (hostIdentity tls entry.1)

def pushDefaultHost (listenerName : String) (tls : Option ListenerTlsConfig)
    (out : List Proto.VirtualHost) (routes : ServerRoutes) :
    Except String (List Proto.VirtualHost) := do
  let routes ← protoRoutesFromRuntime platform routes
  let tls := (tls.bind ListenerTlsConfig.default).map protoTlsBindingFromRuntime
  pure (Slots.updateFirst
    (fun current => decide (current.listener = listenerName ∧ current.routes = routes ∧
      current.tls = tls)) (fun current => { current with defaultServer := true })
    { listener := listenerName, serverNames := [], defaultServer := true, tls, routes }
    out)

def protoVirtualHostsFromRuntime (listenerName : String) (routes : VirtualHostRoutes)
    (tls : Option ListenerTlsConfig) :
    Except String (List Proto.VirtualHost) := do
  let named ← (Table.sortedEntries Names.le routes.named).foldlM
    (pushNamedHost platform listenerName tls) []
  match routes.default with
  | some defaultRoutes => pushDefaultHost platform listenerName tls named defaultRoutes
  | none => pure named

def listenerName (index : Nat) : String := "listener-" ++ toString (index + 1)

def listenerNames (keys : List ListenKey) : Table ListenKey String :=
  keys.zipIdx.foldl (fun names entry => names.insert entry.1 (listenerName entry.2)) ∅

def protoListenerFromRuntime (router : CompiledRouter) (names : Table ListenKey String)
    (key : ListenKey) : Except String Proto.Listener := do
  let protocol := (router.listenerProtocols.lookup key).getD {}
  let tlsOptions := (router.listenerTls.lookup key).map fun tls =>
    protoListenerTlsOptionsFromRuntime tls.settings
  let name ← orFail (names.lookup key) "listener name mapping is incomplete"
  pure
    { name
      address := key.addr.toText
      port := key.port.toUInt32
      tls := key.ssl
      http2 := protocol.http2
      http2Only := protocol.http2Only
      tlsOptions }

def protoHostsOfListener (router : CompiledRouter) (names : Table ListenKey String)
    (key : ListenKey) :
    Except String (List Proto.VirtualHost) := do
  let routes ← orFail (router.listeners.lookup key) "listener disappeared while building snapshot"
  let name ← orFail (names.lookup key) "listener name mapping is incomplete"
  protoVirtualHostsFromRuntime platform name routes (router.listenerTls.lookup key)

def protoHttp2FromRuntime (options : Http2Options) : Proto.Http2Options :=
  { maxConcurrentStreams := options.maxConcurrentStreams
    maxHeaderListSize := options.maxHeaderListSize
    streamWindowSize := options.streamWindowSize
    connectionWindowSize := options.connectionWindowSize }

def protoHttpOptionsFromRuntime (options : HttpRuntimeOptions) : Proto.HttpOptions :=
  { realIp := options.realIp.map realIpToProto
    clientHeaderTimeoutMs := options.clientHeaderTimeout.map wrappingMillis
    clientBodyTimeoutMs := options.clientBodyTimeout.map wrappingMillis
    sendTimeoutMs := options.sendTimeout.map wrappingMillis
    downstreamKeepaliveTimeoutSeconds := options.downstreamKeepaliveTimeout.getD 0
    tcpNodelay := options.tcpNodelay
    keepaliveRequests := options.keepaliveRequests.getD 0
    allowConnectMethodProxying := options.allowConnectMethodProxying
    h2c := options.h2c
    http2 := some (protoHttp2FromRuntime options.http2)
    clientMaxBodySizeBytes := options.clientMaxBodySize.getD 0
    proxyCacheMaxSizeBytes := options.proxyCacheMaxSize.getD 0 }

def protoGeoIpFromRuntime (config : GeoIpConfig) : Proto.GeoIpConfig :=
  { database := config.database.display
    reloadIntervalMs := some (wrappingMillis config.reloadInterval)
    trustedProxies := config.trustedProxies.map IpNet.toText }

def protoScpProfileFromRuntime (profile : ScpProfile) : Proto.ScpProfile :=
  { name := profile.name
    apiRoot := profile.apiRoot
    discoveryUpstreams := profile.discoveryUpstreams
    allowedTargetApiRoots := profile.allowedTargetApiRoots }

def exportedKeys (router : CompiledRouter) : List ListenKey :=
  Table.sortedKeys ListenKey.le router.listeners

def encodedSnapshot (version : String) (router : CompiledRouter) (listeners : List Proto.Listener)
    (virtualHosts : List Proto.VirtualHost) : Proto.ConfigSnapshot :=
  { scpProfiles := (Table.sortBy Names.le ScpProfile.name router.scpProfiles.values).map
      protoScpProfileFromRuntime
    version
    geoip := router.geoip.map protoGeoIpFromRuntime
    http := some (protoHttpOptionsFromRuntime router.httpOptions)
    listeners
    virtualHosts
    upstreams := protoUpstreamsFromRuntime router.upstreams
    leConfig := router.leConfig.map protoLeConfigFromIr }

def protoSnapshotFromRuntime (version : String) (router : CompiledRouter) :
    Except String Proto.ConfigSnapshot := do
  let keys := exportedKeys router
  let names := listenerNames keys
  let listeners ← keys.mapM (protoListenerFromRuntime router names)
  let virtualHosts ← keys.mapM (protoHostsOfListener platform router names)
  pure (encodedSnapshot version router listeners virtualHosts.flatten)

lemma parts_of_protoSnapshot {platform : Platform} {version : String}
    {router : CompiledRouter} {wire : Proto.ConfigSnapshot}
    (ok : protoSnapshotFromRuntime platform version router = .ok wire) : ∃ listeners hosts,
      (exportedKeys router).mapM (protoListenerFromRuntime router
        (listenerNames (exportedKeys router))) = .ok listeners ∧
      (exportedKeys router).mapM (protoHostsOfListener platform router
        (listenerNames (exportedKeys router))) = .ok hosts ∧
      wire = encodedSnapshot version router listeners hosts.flatten := by
  obtain ⟨listeners, listenersOk, hosts, hostsOk, same⟩ := bind₂_eq_ok.mp ok
  cases same
  exact ⟨listeners, hosts, listenersOk, hostsOk, rfl⟩

end Ngxora.Grpc
