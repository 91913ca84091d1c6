/- Importing a snapshot: decode it into the shared representation, then compile it. -/

import Ngxora.Grpc.HttpRoutes
import Ngxora.Grpc.Tls
import Ngxora.Router.FromHttp

namespace Ngxora.Grpc

open Net Results
open Proto (WireEnum tryFrom)

def upstreamBackendFromProto (backend : Proto.UpstreamBackend) : Except String UpstreamServer := do
  rejectIf (Text.isBlank backend.host) "upstream backend host cannot be empty"
  rejectIf (backend.port == 0)
    s!"upstream backend `{backend.host}` port must be greater than zero"
  let port ← orFail (Machine.narrowU16 backend.port)
    s!"upstream backend `{backend.host}` port is out of range"
  let weight ←
    (if backend.weight = 0 then .ok 1
    else orFail (Machine.narrowU16 backend.weight)
      s!"upstream backend `{backend.host}` weight is out of range")
  pure { host := backend.host, port, weight }

variable (platform : Platform)

def upstreamHashKeyFromProto (value : Proto.UpstreamHashKey) : Except String UpstreamHashKey :=
  match value.source with
  | some (.clientIp true) => .ok .clientIp
  | some (.clientIp false) => .error "upstream hash_key client_ip must be true"
  | some (.header name) => do
    rejectIf (platform.headerNameFromBytes name).isNone
      s!"upstream hash_key has invalid HTTP header name `{name}`"
    pure (.header name)
  | none => .error "upstream hash_key source is required"

def healthCheckTypeFromProto :
    Proto.UpstreamHealthCheckKind → Except String UpstreamHealthCheckType
  | .tcp => .ok .tcp
  | .http host path useTls => do
    rejectIf (Text.isBlank host) "upstream health_check http host cannot be empty"
    rejectIf path.isEmpty "upstream health_check http path cannot be empty"
    pure (.http host path useTls)

def upstreamHealthCheckFromProto (healthCheck : Proto.UpstreamHealthCheck) :
    Except String UpstreamHealthCheck := do
  let kind ← orFail healthCheck.kind "upstream health_check kind is required"
  let timeout ← orFail (durationFromMillis healthCheck.timeoutMs)
    "upstream health_check timeout must be greater than zero"
  let interval ← orFail (durationFromMillis healthCheck.intervalMs)
    "upstream health_check interval must be greater than zero"
  -- `usize` holds every 32-bit value on the targets of the program.
  let consecutiveSuccess := healthCheck.consecutiveSuccess.toUInt64
  let consecutiveFailure := healthCheck.consecutiveFailure.toUInt64
  rejectIf (consecutiveSuccess == 0)
    "upstream health_check consecutive_success must be greater than zero"
  rejectIf (consecutiveFailure == 0)
    "upstream health_check consecutive_failure must be greater than zero"
  let checkType ← healthCheckTypeFromProto kind
  pure { checkType, timeout, interval, consecutiveSuccess, consecutiveFailure }

def requiredText (value field : String) : Except String String := do
  rejectIf (Text.trim value).isEmpty s!"nrf_discovery {field} is required"
  pure (Text.trim value)

def nrfEndpointSchemeFromProto (value : Int32) : Except String NrfEndpointScheme :=
  match (tryFrom Proto.NrfEndpointScheme value).getD .unspecified with
  | .http => .ok .http
  | .https => .ok .https
  | .unspecified => .error "nrf_discovery endpoint_scheme is required"

def nrfDiscoveryFromProto (value : Proto.NrfDiscovery) : Except String NrfDiscovery := do
  let endpointScheme ← nrfEndpointSchemeFromProto value.endpointScheme
  let apiRoot ← requiredText value.apiRoot "api_root"
  let targetNfType ← requiredText value.targetNfType "target_nf_type"
  let requesterNfType ← requiredText value.requesterNfType "requester_nf_type"
  let serviceName ← requiredText value.serviceName "service_name"
  let tlsOptions ← upstreamTlsOptionsFromProto value.tlsOptions
  pure
    { apiRoot
      targetNfType
      requesterNfType
      serviceName
      endpointScheme
      timeout := Duration.fromMillis (if value.timeoutMs = 0 then 3000 else value.timeoutMs)
      staleIfError := Duration.fromMillis
        (if value.staleIfErrorMs = 0 then 60000 else value.staleIfErrorMs)
      tlsOptions := tlsOptions.getD {} }

def upstreamFromProto (upstream : Proto.UpstreamGroup) : Except String UpstreamBlock := do
  let name := Text.trim upstream.name
  rejectIf name.isEmpty "upstream group name cannot be empty"
  let servers ← upstream.backends.mapM upstreamBackendFromProto
  rejectIf (servers.isEmpty && upstream.nrfDiscovery.isNone && !upstream.allowEmpty)
    s!"upstream group `{name}` must define at least one backend or nrf_discovery"
  rejectIf (!servers.isEmpty && upstream.nrfDiscovery.isSome)
    s!"upstream group `{name}` cannot combine backends with nrf_discovery"
  let policy ← upstreamSelectionPolicyFromProto upstream.policy
  let hashKey ← Results.traverse (upstreamHashKeyFromProto platform) upstream.hashKey
  let nrfDiscovery ← Results.traverse nrfDiscoveryFromProto upstream.nrfDiscovery
  let healthCheck ← Results.traverse upstreamHealthCheckFromProto upstream.healthCheck
  pure
    { allowEmpty := upstream.allowEmpty, name, policy, hashKey, servers, nrfDiscovery, healthCheck }

def upstreamsFromProto (upstreams : List Proto.UpstreamGroup) :
    Except String (List UpstreamBlock) :=
  upstreams.mapM (upstreamFromProto platform)

def matcherFromProto (value : Option Proto.Match) : Except String LocationMatcher := do
  let matcher ← orFail value "route match is required"
  let kind ← orFail matcher.kind "route match kind is required"
  match kind with
  | .http matcher => pure (.http (httpMatchFromProto matcher))
  | .pathPrefix path => pure (.pathPrefix path)
  | .exact path => pure (.exact path)
  | .preferPrefix path => pure (.preferPrefix path)
  | .regex pattern caseInsensitive => pure (.regex caseInsensitive pattern)
  | .named name => pure (.named name)

def upstreamScheme (scheme : String) : Except String Bool :=
  if scheme = "http" then .ok false
  else if scheme = "https" then .ok true
  else .error s!"unsupported upstream scheme `{scheme}`"

def proxyPassTargetFromProto (upstream : Proto.Upstream) : Except String ProxyPassTarget := do
  let tls ← upstreamScheme upstream.scheme
  let hasDirect := !Text.isBlank upstream.host || upstream.port != 0
  let hasGroup := !Text.isBlank upstream.upstreamGroup
  rejectIf (hasDirect && hasGroup)
    "route upstream must set either host/port or upstream_group, not both"
  if hasGroup then pure (.upstreamGroup upstream.upstreamGroup tls)
  else
    rejectIf (Text.isBlank upstream.host) "upstream host cannot be empty"
    rejectIf (upstream.port == 0) "upstream port must be greater than zero"
    let raw := upstream.scheme ++ "://" ++ upstream.host ++ ":" ++ toString upstream.port.toNat
    match platform.urlParse raw with
    | .ok url => pure (.url url)
    | .error err => .error s!"invalid upstream URL `{raw}`: {err}"

def returnDirectiveFromProto (redirect : Proto.Redirect) : Except String LocationDirective := do
  let status ← orFail (Machine.narrowU16 redirect.status)
    s!"redirect status {redirect.status.toNat} is out of range"
  rejectIf (!(decide (300 ≤ status) && decide (status ≤ 399)))
    s!"redirect status {status.toNat} is not a redirect (expected 3xx)"
  rejectIf redirect.location.isEmpty "redirect location cannot be empty"
  pure (.returnRedirect status redirect.location)

def backendTargetFromProto : Proto.WeightedBackendTarget → Except String BackendTarget
  | .upstream upstream => .upstream <$> proxyPassTargetFromProto platform upstream
  | .directResponse status => .response <$> directStatus status

def weightedBackendFromProto (backend : Proto.WeightedBackend) : Except String WeightedBackend := do
  let target ← orFail backend.target "weighted backend target is required"
  let target ← backendTargetFromProto platform target
  pure { weight := backend.weight.getD 1, target }

def actionDirectiveFromProto : Proto.RouteAction → Except String LocationDirective
  | .weightedBackends backends =>
    .weightedBackends <$> backends.mapM (weightedBackendFromProto platform)
  | .directResponse status => .directResponse <$> directStatus status
  | .httpRedirect config => .httpRedirect <$> httpRedirectFromProto config
  | .scpProfile name => .ok (.scpPass name)
  | .upstream upstream => .proxyPass <$> proxyPassTargetFromProto platform upstream
  | .redirect redirect => returnDirectiveFromProto redirect

def timeoutDirectives (timeouts : Proto.RouteTimeouts) : List LocationDirective :=
  (durationFromMillis timeouts.connectTimeoutMs).toList.map .proxyConnectTimeout ++
    (durationFromMillis timeouts.readTimeoutMs).toList.map .proxyReadTimeout ++
    (durationFromMillis timeouts.writeTimeoutMs).toList.map .proxyWriteTimeout

def sslDirectives (options : UpstreamSslOptions) : List LocationDirective :=
  [.proxySslVerify options.verifyCert] ++
    options.trustedCertificate.toList.map .proxySslTrustedCertificate ++
    options.clientCertificate.toList.map .proxySslCertificate ++
    options.clientCertificateKey.toList.map .proxySslCertificateKey

def http2Directives (options : Proto.UpstreamHttp2Options) : List LocationDirective :=
  options.maxConcurrentStreams.toList.map .proxyHttp2MaxConcurrentStreams ++
    options.streamWindowSize.toList.map .proxyHttp2StreamWindowSize ++
    options.connectionWindowSize.toList.map .proxyHttp2ConnectionWindowSize

def urlRewriteFromProto (rewrite : Proto.UrlRewrite) : Except String UrlRewrite := do
  let path ← Results.traverse modifierFromProto rewrite.path
  pure { hostname := rewrite.hostname, path }

def limitDirectives (route : Proto.Route) : List LocationDirective :=
  route.clientMaxBodySizeBytes.toList.map .clientMaxBodySize ++
    (route.clientBodyTimeoutMs.map Duration.fromMillis).toList.map .clientBodyTimeout ++
    (route.sendTimeoutMs.map Duration.fromMillis).toList.map .sendTimeout ++
    (if route.allowedMethods.isEmpty then [] else [.allowMethods route.allowedMethods])

def upstreamHttpProtocolFromProto (value : Int32) :
    Except String (Option UpstreamHttpProtocol) := do
  let protocol ← orFail (tryFrom Proto.UpstreamHttpProtocol value)
    s!"unknown upstream HTTP protocol value `{value}`"
  match protocol with
  | .unspecified => pure none
  | .h1 => pure (some .h1)
  | .h2 => pure (some .h2)
  | .h2c => pure (some .h2c)

def cacheKeyModeFromProto (value : Int32) : Except String CacheKeyMode := do
  let mode ← orFail (tryFrom Proto.CacheKeyMode value) s!"unknown cache key mode value `{value}`"
  match mode with
  | .unspecified | .uri => pure .uri
  | .uriAndMethod => pure .uriAndMethod
  | .normalizedUri => pure .normalizedUri

def routeCacheFromProto (cache : Proto.RouteCache) : Except String CacheConfig := do
  let config : CacheConfig := {}
  let enabled ← orFail (tryFrom Proto.Switch cache.enabled)
    s!"unknown cache enabled switch value `{cache.enabled}`"
  let cacheKey ← cacheKeyModeFromProto cache.keyMode
  let validStatuses ←
    (if cache.validStatuses.isEmpty then .ok config.validStatuses
    else cache.validStatuses.mapM fun status =>
      orFail (Machine.narrowU16 status) s!"cache valid status {status.toNat} is out of range")
  pure
    { enabled := if enabled = .off then false else config.enabled
      maxSize := noneIfZeroU64 cache.maxSizeBytes
      ttl := (durationFromMillis cache.ttlMs).or config.ttl
      staleIfError := durationFromMillis cache.staleIfErrorMs
      cacheKey
      minUses := (noneIfZero cache.minUses).map UInt32.toUInt64
      validStatuses }

def pluginSpecFromProto (plugin : Proto.Plugin) : Except String PluginSpec := do
  rejectIf (Text.isBlank plugin.name) "plugin name cannot be empty"
  let config ←
    (if Text.isBlank plugin.jsonConfig then .ok Json.null
    else
      match platform.jsonFromStr plugin.jsonConfig with
      | .ok config => .ok config
      | .error err => .error s!"invalid plugin JSON for `{plugin.name}`: {err}")
  pure { name := plugin.name, config }

def locationFromProtoRoute (route : Proto.Route) : Except String Location := do
  let matcher ← matcherFromProto route.matcher
  let tlsOptions ← upstreamTlsOptionsFromProto route.tlsOptions
  let protocol ← upstreamHttpProtocolFromProto route.upstreamProtocol
  let action ← orFail route.action "route action is required"
  let action ← actionDirectiveFromProto platform action
  let rewrite ← Results.traverse urlRewriteFromProto route.urlRewrite
  let accessRules ← route.accessRules.mapM (accessFromProto platform)
  let plugins ← route.plugins.mapM (pluginSpecFromProto platform)
  let cache ← Results.traverse routeCacheFromProto route.cache
  pure
    { matcher
      accessRules
      directives :=
        (route.timeouts.map timeoutDirectives).getD [] ++
          (tlsOptions.map sslDirectives).getD [] ++
          protocol.toList.map .proxyUpstreamProtocol ++
          (route.upstreamHttp2.map http2Directives).getD [] ++
          [action] ++
          rewrite.toList.map .urlRewrite ++
          limitDirectives route
      plugins
      cache }

structure ListenerDef where
  name : String
  listen : Listen
  tlsOptions : DownstreamTlsOptions

def listenerDef (value : Proto.Listener) : Except String ListenerDef := do
  let addr ← orFail (IpAddr.parse value.address)
    s!"invalid listener address `{value.address}`: invalid IP address syntax"
  let port ← orFail (Machine.narrowU16 value.port) s!"invalid listener port `{value.port.toNat}`"
  let tlsOptions ← listenerTlsOptionsFromProto value.tlsOptions
  rejectIf (!value.tls && tlsOptions != {})
    s!"listener `{value.name}` defines TLS options but tls=false"
  pure
    { name := value.name
      listen :=
        { addr
          port
          ssl := value.tls
          defaultServer := false
          http2 := value.http2
          http2Only := value.http2Only }
      tlsOptions }

def addListenerDef (defs : Table String ListenerDef) (listener : Proto.Listener) :
    Except String (Table String ListenerDef) := do
  let name := Text.trim listener.name
  rejectIf name.isEmpty "listener name cannot be empty"
  rejectIf (defs.lookup name).isSome s!"listener `{name}` is duplicated"
  let def' ← listenerDef listener
  pure (defs.insert name def')

def listenerDefs (listeners : List Proto.Listener) : Except String (Table String ListenerDef) :=
  listeners.foldlM addListenerDef ∅

def serverFromProtoVirtualHost (listener : ListenerDef) (virtualHost : Proto.VirtualHost) :
    Except String Server := do
  rejectIf (listener.listen.ssl && virtualHost.tls.isNone)
    s!"virtual host on listener `{listener.name}` requires a TLS binding"
  rejectIf (!listener.listen.ssl && virtualHost.tls.isSome)
    s!"virtual host on listener `{listener.name}` cannot define TLS binding on a plaintext listener"
  let locations ← virtualHost.routes.mapM (locationFromProtoRoute platform)
  let identity ← Results.traverse tlsIdentityFromProto virtualHost.tls
  pure
    { serverNames := virtualHost.serverNames
      locations
      listens := [{ listener.listen with defaultServer := virtualHost.defaultServer }]
      tls := identity.map SslProvider.custom
      tlsOptions := listener.tlsOptions }

def serverOfVirtualHost (defs : Table String ListenerDef) (virtualHost : Proto.VirtualHost) :
    Except String Server := do
  let listener ← orFail (defs.lookup virtualHost.listener)
    s!"virtual host references unknown listener `{virtualHost.listener}`"
  serverFromProtoVirtualHost platform listener virtualHost

def geoIpFromProto (config : Proto.GeoIpConfig) : Except String GeoIpConfig := do
  let trustedProxies ← config.trustedProxies.mapM fun raw =>
    orFail (parseNetwork platform raw) s!"invalid geoip trusted_proxy `{raw}`"
  pure
    { database := PathBuf.ofText config.database
      reloadInterval := Duration.fromMillis (config.reloadIntervalMs.getD 5000)
      trustedProxies }

def http2FromProto (options : Proto.Http2Options) : Http2Options :=
  { maxConcurrentStreams := options.maxConcurrentStreams
    maxHeaderListSize := options.maxHeaderListSize
    streamWindowSize := options.streamWindowSize
    connectionWindowSize := options.connectionWindowSize }

def scpProfileFromProto (profile : Proto.ScpProfile) : ScpProfile :=
  { name := profile.name
    apiRoot := profile.apiRoot
    discoveryUpstreams := profile.discoveryUpstreams
    allowedTargetApiRoots := profile.allowedTargetApiRoots }

def decodedHttp (snapshot : Proto.ConfigSnapshot) (servers : List Server)
    (upstreams : List UpstreamBlock) (realIp : Option RealIpConfig)
    (geoip : Option GeoIpConfig) : Http :=
  let options := snapshot.http.getD {}
  { scpProfiles := snapshot.scpProfiles.map scpProfileFromProto
    upstreams
    servers
    keepaliveTimeout := keepaliveTimeoutFromProto options.downstreamKeepaliveTimeoutSeconds
    keepaliveRequests := noneIfZero options.keepaliveRequests
    clientMaxBodySize := noneIfZeroU64 options.clientMaxBodySizeBytes
    realIp
    clientHeaderTimeout := options.clientHeaderTimeoutMs.map Duration.fromMillis
    clientBodyTimeout := options.clientBodyTimeoutMs.map Duration.fromMillis
    sendTimeout := options.sendTimeoutMs.map Duration.fromMillis
    -- Accepted sockets always have TCP_NODELAY; the field of the wire is not read.
    tcpNodelay := .on
    allowConnectMethodProxying := switchFromBool options.allowConnectMethodProxying
    h2c := switchFromBool options.h2c
    http2 := (options.http2.map http2FromProto).getD {}
    proxyCacheMaxSize := noneIfZeroU64 options.proxyCacheMaxSizeBytes
    sslProvider := snapshot.leConfig.map leConfigFromProto
    geoip }

def httpFromProtoSnapshot (snapshot : Proto.ConfigSnapshot) : Except String Http := do
  let options := snapshot.http.getD {}
  let defs ← listenerDefs snapshot.listeners
  let servers ← snapshot.virtualHosts.mapM (serverOfVirtualHost platform defs)
  let upstreams ← upstreamsFromProto platform snapshot.upstreams
  let realIp ← Results.traverse (realIpFromProto platform) options.realIp
  let geoip ← Results.traverse (geoIpFromProto platform) snapshot.geoip
  pure (decodedHttp snapshot servers upstreams realIp geoip)

def runtimeSnapshotFromProto (snapshot : Proto.ConfigSnapshot) : Except String ConfigSnapshot := do
  let http ← httpFromProtoSnapshot platform snapshot
  let router ← Router.fromHttp platform http
  pure { version := snapshot.version, router }

lemma upstreamHealthCheckFromProto_eq_ok {check : Proto.UpstreamHealthCheck}
    {decoded : UpstreamHealthCheck} (ok : upstreamHealthCheckFromProto check = .ok decoded) :
    durationFromMillis check.timeoutMs = some decoded.timeout ∧
      durationFromMillis check.intervalMs = some decoded.interval ∧
      decoded.consecutiveSuccess = check.consecutiveSuccess.toUInt64 ∧
      decoded.consecutiveFailure = check.consecutiveFailure.toUInt64 := by
  obtain ⟨kind, _, timeout, timeoutOk, interval, intervalOk, ok⟩ := bind₃_eq_ok.mp ok
  obtain ⟨_, _, _, _, checkType, _, same⟩ := bind₃_eq_ok.mp ok
  cases same
  exact ⟨orFail_eq_ok.mp timeoutOk, orFail_eq_ok.mp intervalOk, rfl, rfl⟩

lemma requiredText_eq_ok {value field res : String} :
    requiredText value field = .ok res ↔ Text.trim value ≠ "" ∧ res = Text.trim value := by
  unfold requiredText
  constructor
  · intro ok
    obtain ⟨_, named, same⟩ := bind_eq_ok.mp ok
    rw [rejectIf_eq_ok, String.isEmpty_eq_false_iff] at named
    exact ⟨named, (Except.ok.inj same).symm⟩
  · rintro ⟨named, rfl⟩
    rw [String.isEmpty_eq_false_iff.mpr named]
    rfl

structure Decoded (platform : Platform) (snapshot : Proto.ConfigSnapshot) (http : Http) where
  defs : Table String ListenerDef
  defsOk : listenerDefs snapshot.listeners = .ok defs
  serversOk : snapshot.virtualHosts.mapM (serverOfVirtualHost platform defs) = .ok http.servers
  upstreamsOk : upstreamsFromProto platform snapshot.upstreams = .ok http.upstreams
  realIpOk : Results.traverse (realIpFromProto platform) (snapshot.http.getD {}).realIp =
    .ok http.realIp
  geoipOk : Results.traverse (geoIpFromProto platform) snapshot.geoip = .ok http.geoip
  http_eq : http = decodedHttp snapshot http.servers http.upstreams http.realIp http.geoip

variable {platform : Platform}

lemma decoded_of_proto {snap : Proto.ConfigSnapshot} {http : Http}
    (ok : httpFromProtoSnapshot platform snap = .ok http) :
    Nonempty (Decoded platform snap http) := by
  obtain ⟨defs, defsOk, servers, serversOk, upstreams, upstreamsOk, ok⟩ := bind₃_eq_ok.mp ok
  obtain ⟨realIp, realIpOk, geoip, geoipOk, same⟩ := bind₂_eq_ok.mp ok
  cases same
  exact ⟨{ defs, defsOk, serversOk, upstreamsOk, realIpOk, geoipOk, http_eq := rfl }⟩

lemma stages_of_runtimeSnapshot {wire : Proto.ConfigSnapshot} {snap : ConfigSnapshot}
    (ok : runtimeSnapshotFromProto platform wire = .ok snap) :
    ∃ http, httpFromProtoSnapshot platform wire = .ok http ∧
      Router.fromHttp platform http = .ok snap.router := by
  obtain ⟨http, httpOk, router, routerOk, same⟩ := bind₂_eq_ok.mp ok
  cases same
  exact ⟨http, httpOk, routerOk⟩

end Ngxora.Grpc
