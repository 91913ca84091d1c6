/-
Compiling locations.
-/

import Ngxora.Router.HttpRoutes
import Ngxora.Router.UpstreamGroups

namespace Ngxora.Router

open Net Results

def proxyPassTls (scheme : String) : Option Bool :=
  if scheme = "http" then some false
  else if scheme = "https" then some true
  else none

def proxyPassSni (host : String) (tls : Bool) : String :=
  if tls && (IpAddr.parse host).isNone then host else ""

def upstreamGroupFromUrl (url : Url) (upstreams : UpstreamTable) : Option CompiledUpstreamGroup :=
  if url.port.isSome then none
  else if url.username ≠ "" ∨ url.password.isSome ∨ url.query.isSome ∨ url.fragment.isSome ∨
      url.path ≠ "/" then none
  else
    match url.host with
    | none => none
    | some host => upstreams.lookup (normalizeUpstreamName host)

def validateNrfRouteScheme (group : CompiledUpstreamGroup) (tls : Bool) : Except String Unit :=
  match group.nrfDiscovery with
  | none => .ok ()
  | some discovery =>
    let expectsTls := discovery.endpointScheme == .https
    let expected := if expectsTls then "https" else "http"
    rejectIf (tls != expectsTls)
      s!"proxy_pass scheme for NRF upstream `{group.name}` must match endpoint_scheme {expected}"

def validateDirectStatus (status : UInt16) : Except String Unit :=
  rejectIf (!(decide (200 ≤ status) && decide (status ≤ 599)))
    "direct response status must be 200..599"

def directResponseTarget (status : UInt16) : Except String (Option ActionTarget) := do
  validateDirectStatus status
  pure (some (.directResponse status))

def proxyPassTarget (upstreams : UpstreamTable) :
    ProxyPassTarget → Except String (Option ActionTarget)
  | .url url =>
    match upstreamGroupFromUrl url upstreams with
    | some group => do
      let tls ← orFail (proxyPassTls url.scheme)
        s!"unsupported proxy_pass scheme `{url.scheme}`"
      validateNrfRouteScheme group tls
      pure (some (.upstreamGroup group.name tls))
    | none =>
      -- A URL without host, port or known scheme gives no target.
      match url.host, url.portOrKnownDefault, proxyPassTls url.scheme with
      | some host, some port, some tls =>
        .ok (some (.proxyPass host port tls (proxyPassSni host tls)))
      | _, _, _ => .ok none
  | .upstreamGroup name tls => do
    let group ← orFail (upstreams.lookup (normalizeUpstreamName name))
      s!"proxy_pass references unknown upstream `{name}`"
    validateNrfRouteScheme group tls
    pure (some (.upstreamGroup group.name tls))

lemma proxyPassTarget_url_eq_some {upstreams : UpstreamTable} {url : Url} {action : ActionTarget} :
    proxyPassTarget upstreams (.url url) = .ok (some action) ↔
      (∃ group tls, upstreamGroupFromUrl url upstreams = some group ∧
        proxyPassTls url.scheme = some tls ∧ validateNrfRouteScheme group tls = .ok () ∧
        action = .upstreamGroup group.name tls) ∨ upstreamGroupFromUrl url upstreams = none ∧
        ∃ host port tls, url.host = some host ∧ url.portOrKnownDefault = some port ∧
          proxyPassTls url.scheme = some tls ∧
          action = .proxyPass host port tls (proxyPassSni host tls) := by
  simp only [proxyPassTarget]
  cases upstreamGroupFromUrl url upstreams with
  | some group => simp [bind_eq_ok, orFail_eq_ok, @eq_comm _ action, Unique.exists_iff]
  | none =>
    cases url.host <;> cases url.portOrKnownDefault <;> cases proxyPassTls url.scheme <;>
      simp [@eq_comm _ action]

def backendTarget (upstreams : UpstreamTable) : BackendTarget → Except String (Option ActionTarget)
  | .upstream target => proxyPassTarget upstreams target
  | .response status => directResponseTarget status

def compileWeightedBackend (upstreams : UpstreamTable) (backend : WeightedBackend) :
    Except String CompiledWeightedBackend := do
  rejectIf (decide (backend.weight > 1000000)) "backend weight exceeds 1000000"
  let target ← backendTarget upstreams backend.target
  let target ← orFail target "invalid weighted backend target"
  pure { weight := backend.weight, target }

def routeTargetFromDirective (upstreams : UpstreamTable) :
    LocationDirective → Except String (Option RouteTarget)
  | .directResponse status => Option.map RouteTarget.action <$> directResponseTarget status
  | .httpRedirect redirect => .ok (some (.action (.httpRedirect redirect)))
  | .weightedBackends backends => do
    rejectIf backends.isEmpty "weighted_backends must not be empty"
    pure (some (.weightedBackends (← backends.mapM (compileWeightedBackend upstreams))))
  | .scpPass profile => .ok (some (.action (.scp profile)))
  | .proxyPass target => Option.map RouteTarget.action <$> proxyPassTarget upstreams target
  | .returnRedirect status location => .ok (some (.action (.returnRedirect status location)))
  | _ => .ok none

def routeTarget (upstreams : UpstreamTable) :
    List LocationDirective → Except String (Option RouteTarget)
  | [] => .ok none
  | directive :: rest => do
    match ← routeTargetFromDirective upstreams directive with
    | some target => pure (some target)
    | none => routeTarget upstreams rest

/-- Each setting is gathered by one pass over the directives, which ignores those of other
settings. -/
def setOnce {α : Type} (slot : Option α) (value : α) (message : String) :
    Except String (Option α) := do
  rejectIf slot.isSome message
  pure (some value)

def setTimeoutOnce (slot : Option Duration) (value : Duration) (directive : String) :
    Except String (Option Duration) :=
  setOnce slot value s!"{directive} is duplicated in the same location"

def upstreamTimeoutsStep (timeouts : UpstreamTimeouts) :
    LocationDirective → Except String UpstreamTimeouts
  | .proxyConnectTimeout value => do
    let connect ← setTimeoutOnce timeouts.connect value "proxy_connect_timeout"
    pure { timeouts with connect }
  | .proxyReadTimeout value => do
    pure { timeouts with read := ← setTimeoutOnce timeouts.read value "proxy_read_timeout" }
  | .proxyWriteTimeout value => do
    pure { timeouts with write := ← setTimeoutOnce timeouts.write value "proxy_write_timeout" }
  | _ => .ok timeouts

def compileUpstreamTimeouts (directives : List LocationDirective) :
    Except String UpstreamTimeouts :=
  directives.foldlM upstreamTimeoutsStep {}

def upstreamProtocolStep (protocol : Option UpstreamHttpProtocol) :
    LocationDirective → Except String (Option UpstreamHttpProtocol)
  | .proxyUpstreamProtocol value =>
    setOnce protocol value "proxy_upstream_protocol is duplicated in the same location"
  | _ => .ok protocol

def actionProtocol (protocol : UpstreamHttpProtocol) :
    ActionTarget → Except String (Option UpstreamHttpProtocol)
  | .scp _ =>
    .error "scp_pass chooses HTTP/2 transport from the target scheme; omit proxy_upstream_protocol"
  | .returnRedirect _ _ | .directResponse _ | .httpRedirect _ => .ok none
  | .proxyPass _ _ tls _ | .upstreamGroup _ tls => do
    rejectIf (protocol == .h2 && !tls)
      "proxy_upstream_protocol h2 requires TLS upstream; use https proxy_pass or h2c"
    rejectIf (protocol == .h2c && tls)
      "proxy_upstream_protocol h2c requires plaintext upstream; use http proxy_pass"
    pure (some protocol)

def targetProtocol (protocol : UpstreamHttpProtocol) :
    RouteTarget → Except String (Option UpstreamHttpProtocol)
  | .action target => actionProtocol protocol target
  | .weightedBackends backends => do
    backends.forM fun backend => discard (actionProtocol protocol backend.target)
    pure (some protocol)

def compileUpstreamProtocol (directives : List LocationDirective) (target : RouteTarget) :
    Except String (Option UpstreamHttpProtocol) := do
  match ← directives.foldlM upstreamProtocolStep none with
  | some protocol => targetProtocol protocol target
  | none => pure none

def upstreamSslStep (options : UpstreamSslOptions) :
    LocationDirective → Except String UpstreamSslOptions
  | .proxySslVerify switch => .ok { options with verifyCert := switch }
  | .proxySslTrustedCertificate source =>
    .ok { options with trustedCertificate := some source }
  | .proxySslCertificate source => do
    let certificate ← setOnce options.clientCertificate source
      "proxy_ssl_certificate is duplicated in the same location"
    pure { options with clientCertificate := certificate }
  | .proxySslCertificateKey source => do
    let key ← setOnce options.clientCertificateKey source
      "proxy_ssl_certificate_key is duplicated in the same location"
    pure { options with clientCertificateKey := key }
  | _ => .ok options

def compileUpstreamSslOptions (directives : List LocationDirective) :
    Except String UpstreamSslOptions := do
  let options ← directives.foldlM upstreamSslStep {}
  rejectIf (options.clientCertificate.isSome && options.clientCertificateKey.isNone)
    "proxy_ssl_certificate requires proxy_ssl_certificate_key"
  rejectIf (options.clientCertificate.isNone && options.clientCertificateKey.isSome)
    "proxy_ssl_certificate_key requires proxy_ssl_certificate"
  pure options

def setHttp2Once (slot : Option UInt32) (value : UInt32) (name : String) :
    Except String (Option UInt32) :=
  setOnce slot value s!"{name} is duplicated in the same location"

def upstreamHttp2Step (options : UpstreamHttp2Options) :
    LocationDirective → Except String UpstreamHttp2Options
  | .proxyHttp2MaxConcurrentStreams value => do
    let streams ← setHttp2Once options.maxConcurrentStreams value
      "proxy_http2_max_concurrent_streams"
    pure { options with maxConcurrentStreams := streams }
  | .proxyHttp2StreamWindowSize value => do
    let window ← setHttp2Once options.streamWindowSize value "proxy_http2_stream_window_size"
    pure { options with streamWindowSize := window }
  | .proxyHttp2ConnectionWindowSize value => do
    let window ← setHttp2Once options.connectionWindowSize value
      "proxy_http2_connection_window_size"
    pure { options with connectionWindowSize := window }
  | _ => .ok options

def compileUpstreamHttp2 (directives : List LocationDirective) :
    Except String UpstreamHttp2Options := do
  let options ← directives.foldlM upstreamHttp2Step {}
  options.validate
  pure options

variable (platform : Platform)

def allowMethodsStep (allowed : List String) (method : String) : Except String (List String) := do
  rejectIf (!platform.methodFromBytes method) "invalid allowed HTTP method"
  pure (if method ∈ allowed then allowed else allowed ++ [method])

def clientLimitsStep (state : ClientLimits × Bool) :
    LocationDirective → Except String (ClientLimits × Bool)
  | .clientMaxBodySize value => do
    let size ← setOnce state.1.maxBodySize value
      "client_max_body_size is duplicated in location"
    pure ({ state.1 with maxBodySize := size }, state.2)
  | .clientBodyTimeout value => do
    let timeout ← setTimeoutOnce state.1.bodyTimeout value "client_body_timeout"
    pure ({ state.1 with bodyTimeout := timeout }, state.2)
  | .sendTimeout value => do
    let timeout ← setTimeoutOnce state.1.sendTimeout value "send_timeout"
    pure ({ state.1 with sendTimeout := timeout }, state.2)
  | .allowMethods methods => do
    rejectIf (state.2 || methods.isEmpty) "allow_methods must be nonempty and declared once"
    let allowed ← methods.foldlM (allowMethodsStep platform) state.1.allowedMethods
    pure ({ state.1 with allowedMethods := allowed }, true)
  | _ => .ok state

def compileClientLimits (directives : List LocationDirective) : Except String ClientLimits := do
  let (limits, _) ← directives.foldlM (clientLimitsStep platform) ({}, false)
  validateClientTimeout limits.bodyTimeout
  validateClientTimeout limits.sendTimeout
  pure limits

def isUpstreamTarget : RouteTarget → Bool
  | .action (.proxyPass _ _ _ _) | .action (.upstreamGroup _ _) | .weightedBackends _ => true
  | _ => false

def isScpTarget : RouteTarget → Bool
  | .action (.scp _) => true
  | _ => false

def actionCountStep (count : Nat) : LocationDirective → Except String Nat
  | .proxyPass _ | .scpPass _ | .returnRedirect _ _ | .weightedBackends _ | .directResponse _
  | .httpRedirect _ => .ok (count + 1)
  | .root _ => .error "root is not supported at runtime"
  | .tryFiles _ => .error "try_files is not supported at runtime"
  | _ => .ok count

def validateRewriteHost (hostname : Option String) : Except String Unit :=
  match hostname with
  | some host => validateHostname host
  | none => .ok ()

def urlRewriteStep (target : RouteTarget) (matcher : CompiledMatcher)
    (current : Option UrlRewrite) : LocationDirective → Except String (Option UrlRewrite)
  | .urlRewrite rewrite => do
    let slot ← setOnce current rewrite "duplicate URL rewrite"
    rejectIf (!isUpstreamTarget target) "URL rewrite requires an upstream action"
    validateRewriteHost rewrite.hostname
    validateModifier platform rewrite.path matcher
    pure slot
  | _ => .ok current

def validateTarget (matcher : CompiledMatcher) : RouteTarget → Except String Unit
  | .action (.httpRedirect redirect) => do
    rejectIf (!([301, 302, 303, 307, 308].contains redirect.status)) "invalid HTTP redirect status"
    rejectIf (redirect.scheme.any fun scheme => scheme != "http" && scheme != "https")
      "redirect scheme must be http or https"
    rejectIf (redirect.port == some 0) "redirect port must be positive"
    validateRewriteHost redirect.hostname
    validateModifier platform redirect.path matcher
  | .action (.returnRedirect status location) => do
    rejectIf (!(decide (300 ≤ status) && decide (status < 400))) "return requires a 3xx status"
    let _ ← expandReturn location "example.com" "/" "http"
    rejectIf (!platform.headerValueFromStr location) "invalid redirect location"
  | _ => .ok ()

def compileTarget (location : Location) (target : RouteTarget) (routeId : UInt64) :
    Except String CompiledLocation := do
  let upstreamProtocol ← compileUpstreamProtocol location.directives target
  rejectIf (isScpTarget target && location.cache.isSome)
    "scp_pass cannot be combined with proxy_cache"
  let matcher ← CompiledMatcher.ofMatcher platform location.matcher
  let urlRewrite ← location.directives.foldlM (urlRewriteStep platform target matcher) none
  validateTarget platform matcher target
  let clientLimits ← compileClientLimits platform location.directives
  let upstreamTimeouts ← compileUpstreamTimeouts location.directives
  let upstreamHttp2 ← compileUpstreamHttp2 location.directives
  let upstreamSslOptions ← compileUpstreamSslOptions location.directives
  pure
    { clientLimits
      urlRewrite
      routeId
      matcher
      accessRules := location.accessRules
      target
      upstreamTimeouts
      upstreamProtocol
      upstreamHttp2
      upstreamSslOptions
      plugins := location.plugins
      cache := location.cache }

def compileLocation (upstreams : UpstreamTable) (location : Location) (routeId : UInt64) :
    Except String (Option CompiledLocation) := do
  let actionCount ← location.directives.foldlM actionCountStep 0
  rejectIf (actionCount != 1) "location must contain exactly one proxy_pass or return directive"
  match ← routeTarget upstreams location.directives with
  | none => pure none
  | some target => some <$> compileTarget platform location target routeId

/-- The kept locations and the next route id; a location without a target is
dropped and takes no id. -/
def compileLocationList (platform : Platform) (upstreams : UpstreamTable) :
    UInt64 → List Location → Except String (List CompiledLocation × UInt64)
  | nextRouteId, [] => .ok ([], nextRouteId)
  | nextRouteId, location :: rest => do
    match ← compileLocation platform upstreams location nextRouteId with
    | none => compileLocationList platform upstreams nextRouteId rest
    | some compiled =>
      let (others, nextRouteId) ←
        compileLocationList platform upstreams (nextRouteId + 1) rest
      pure (compiled :: others, nextRouteId)

def LocationMatcher.isHttp : LocationMatcher → Bool
  | .http _ => true
  | _ => false

def compileLocations (upstreams : UpstreamTable) (nextRouteId : UInt64)
    (locations : List Location) : Except String (List CompiledLocation × UInt64) := do
  let httpCount := locations.countP fun location => LocationMatcher.isHttp location.matcher
  rejectIf (httpCount != 0 && httpCount != locations.length)
    "cannot mix HTTP and nginx matchers in one virtual host"
  compileLocationList platform upstreams nextRouteId locations

end Ngxora.Router
