/-
The messages of the control-plane wire format. An enumeration is the number on the wire; a scalar
that is not optional has its zero value when it is absent.
-/

import Mathlib.Data.UInt

namespace Ngxora.Proto

/-- An enumeration of the wire format with the numbers of its values. -/
class WireEnum (α : Type) where
  variants : List α
  code : α → Int32
  found : ∀ value, variants.find? (fun other => code other == code value) = some value

def tryFrom (α : Type) [WireEnum α] (number : Int32) : Option α :=
  (WireEnum.variants : List α).find? fun value => WireEnum.code value == number

@[simp]
lemma tryFrom_code {α : Type} [WireEnum α] (value : α) :
    tryFrom α (WireEnum.code value) = some value :=
  WireEnum.found value

inductive Switch where
  | unspecified
  | on
  | off
  deriving DecidableEq

instance : WireEnum Switch where
  variants := [.unspecified, .on, .off]
  code
    | .unspecified => 0
    | .on => 1
    | .off => 2
  found value := by cases value <;> rfl

inductive UpstreamSelectionPolicy where
  | unspecified
  | roundRobin
  | random
  | consistentHash
  deriving DecidableEq

instance : WireEnum UpstreamSelectionPolicy where
  variants := [.unspecified, .roundRobin, .random, .consistentHash]
  code
    | .unspecified => 0
    | .roundRobin => 1
    | .random => 2
    | .consistentHash => 3
  found value := by cases value <;> rfl

inductive UpstreamHttpProtocol where
  | unspecified
  | h1
  | h2
  | h2c
  deriving DecidableEq

instance : WireEnum UpstreamHttpProtocol where
  variants := [.unspecified, .h1, .h2, .h2c]
  code
    | .unspecified => 0
    | .h1 => 1
    | .h2 => 2
    | .h2c => 3
  found value := by cases value <;> rfl

inductive NrfEndpointScheme where
  | unspecified
  | http
  | https
  deriving DecidableEq

instance : WireEnum NrfEndpointScheme where
  variants := [.unspecified, .http, .https]
  code
    | .unspecified => 0
    | .http => 1
    | .https => 2
  found value := by cases value <;> rfl

inductive TlsProtocolVersion where
  | unspecified
  | tls1
  | tls1_2
  | tls1_3
  deriving DecidableEq

instance : WireEnum TlsProtocolVersion where
  variants := [.unspecified, .tls1, .tls1_2, .tls1_3]
  code
    | .unspecified => 0
    | .tls1 => 1
    | .tls1_2 => 2
    | .tls1_3 => 3
  found value := by cases value <;> rfl

inductive TlsVerifyClient where
  | unspecified
  | off
  | optional
  | required
  deriving DecidableEq

instance : WireEnum TlsVerifyClient where
  variants := [.unspecified, .off, .optional, .required]
  code
    | .unspecified => 0
    | .off => 1
    | .optional => 2
    | .required => 3
  found value := by cases value <;> rfl

inductive CacheKeyMode where
  | unspecified
  | uri
  | uriAndMethod
  | normalizedUri
  deriving DecidableEq

instance : WireEnum CacheKeyMode where
  variants := [.unspecified, .uri, .uriAndMethod, .normalizedUri]
  code
    | .unspecified => 0
    | .uri => 1
    | .uriAndMethod => 2
    | .normalizedUri => 3
  found value := by cases value <;> rfl

inductive AccessAction where
  | unspecified
  | allow
  | deny
  deriving DecidableEq

instance : WireEnum AccessAction where
  variants := [.unspecified, .allow, .deny]
  code
    | .unspecified => 0
    | .allow => 1
    | .deny => 2
  found value := by cases value <;> rfl

inductive PemSourceKind where
  | path (path : String)
  | inlinePem (pem : String)
  deriving DecidableEq

structure PemSource where
  source : Option PemSourceKind
  deriving DecidableEq

structure TlsBinding where
  cert : Option PemSource
  key : Option PemSource
  deriving DecidableEq

structure ListenerTlsOptions where
  minProtocol : Int32
  maxProtocol : Int32
  verifyClient : Int32
  clientCertificate : Option PemSource

structure UpstreamTlsOptions where
  verify : Int32
  trustedCertificate : Option PemSource
  clientCertificate : Option PemSource
  clientCertificateKey : Option PemSource
  deriving DecidableEq

structure LetsEncryptConfig where
  acmeDirectory : String
  email : String
  cacheDir : String

structure UpstreamBackend where
  host : String
  port : UInt32
  weight : UInt32

inductive UpstreamHashKeySource where
  | clientIp (enabled : Bool)
  | header (name : String)

structure UpstreamHashKey where
  source : Option UpstreamHashKeySource

inductive UpstreamHealthCheckKind where
  | tcp
  | http (host path : String) (useTls : Bool)

structure UpstreamHealthCheck where
  kind : Option UpstreamHealthCheckKind
  timeoutMs : UInt64
  intervalMs : UInt64
  consecutiveSuccess : UInt32
  consecutiveFailure : UInt32

structure NrfDiscovery where
  apiRoot : String
  targetNfType : String
  requesterNfType : String
  serviceName : String
  endpointScheme : Int32
  timeoutMs : UInt64
  staleIfErrorMs : UInt64
  tlsOptions : Option UpstreamTlsOptions

structure UpstreamGroup where
  name : String
  backends : List UpstreamBackend
  policy : Int32
  healthCheck : Option UpstreamHealthCheck
  hashKey : Option UpstreamHashKey
  nrfDiscovery : Option NrfDiscovery
  allowEmpty : Bool

inductive HttpMatchPath where
  | exact (path : String)
  | pathPrefix (path : String)
  deriving DecidableEq

structure ExactCondition where
  name : String
  value : String
  deriving DecidableEq

structure HttpMatch where
  path : Option HttpMatchPath
  method : Option String
  headers : List ExactCondition
  queryParams : List ExactCondition
  deriving DecidableEq

inductive MatchKind where
  | pathPrefix (path : String)
  | exact (path : String)
  | preferPrefix (path : String)
  | regex (pattern : String) (caseInsensitive : Bool)
  | named (name : String)
  | http (matcher : HttpMatch)
  deriving DecidableEq

structure Match where
  kind : Option MatchKind
  deriving DecidableEq

structure Upstream where
  scheme : String
  host : String
  port : UInt32
  upstreamGroup : String
  deriving DecidableEq

inductive WeightedBackendTarget where
  | upstream (upstream : Upstream)
  | directResponse (status : UInt32)
  deriving DecidableEq

structure WeightedBackend where
  weight : Option UInt32
  target : Option WeightedBackendTarget
  deriving DecidableEq

inductive PathModifierKind where
  | replaceFullPath (path : String)
  | replacePrefixMatch (path : String)
  deriving DecidableEq

structure PathModifier where
  kind : Option PathModifierKind
  deriving DecidableEq

structure HttpRedirect where
  status : UInt32
  scheme : Option String
  hostname : Option String
  port : Option UInt32
  path : Option PathModifier
  deriving DecidableEq

structure UrlRewrite where
  hostname : Option String
  path : Option PathModifier
  deriving DecidableEq

structure Redirect where
  status : UInt32
  location : String
  deriving DecidableEq

inductive RouteAction where
  | upstream (upstream : Upstream)
  | redirect (redirect : Redirect)
  | scpProfile (profile : String)
  | weightedBackends (backends : List WeightedBackend)
  | directResponse (status : UInt32)
  | httpRedirect (redirect : HttpRedirect)
  deriving DecidableEq

structure RouteTimeouts where
  connectTimeoutMs : UInt64
  readTimeoutMs : UInt64
  writeTimeoutMs : UInt64
  deriving DecidableEq

structure Plugin where
  name : String
  jsonConfig : String
  deriving DecidableEq

structure RouteCache where
  enabled : Int32
  maxSizeBytes : UInt64
  ttlMs : UInt64
  staleIfErrorMs : UInt64
  keyMode : Int32
  minUses : UInt32
  validStatuses : List UInt32
  deriving DecidableEq

structure UpstreamHttp2Options where
  maxConcurrentStreams : Option UInt32
  streamWindowSize : Option UInt32
  connectionWindowSize : Option UInt32
  deriving DecidableEq

structure IpAccessRule where
  action : Int32
  source : String
  deriving DecidableEq

structure Route where
  matcher : Option Match
  action : Option RouteAction
  timeouts : Option RouteTimeouts
  plugins : List Plugin
  tlsOptions : Option UpstreamTlsOptions
  upstreamProtocol : Int32
  cache : Option RouteCache
  urlRewrite : Option UrlRewrite
  upstreamHttp2 : Option UpstreamHttp2Options
  accessRules : List IpAccessRule
  allowedMethods : List String
  clientMaxBodySizeBytes : Option UInt64
  clientBodyTimeoutMs : Option UInt64
  sendTimeoutMs : Option UInt64
  deriving DecidableEq

structure Listener where
  name : String
  address : String
  port : UInt32
  tls : Bool
  http2 : Bool
  http2Only : Bool
  tlsOptions : Option ListenerTlsOptions

structure VirtualHost where
  listener : String
  serverNames : List String
  defaultServer : Bool
  tls : Option TlsBinding
  routes : List Route

structure Http2Options where
  maxConcurrentStreams : Option UInt32
  maxHeaderListSize : Option UInt32
  streamWindowSize : Option UInt32
  connectionWindowSize : Option UInt32

structure RealIpConfig where
  trustedProxies : List String
  header : String
  recursive : Option Bool

structure HttpOptions where
  downstreamKeepaliveTimeoutSeconds : UInt64 := 0
  tcpNodelay : Bool := false
  keepaliveRequests : UInt32 := 0
  allowConnectMethodProxying : Bool := false
  h2c : Bool := false
  clientMaxBodySizeBytes : UInt64 := 0
  proxyCacheMaxSizeBytes : UInt64 := 0
  http2 : Option Http2Options := none
  realIp : Option RealIpConfig := none
  clientHeaderTimeoutMs : Option UInt64 := none
  clientBodyTimeoutMs : Option UInt64 := none
  sendTimeoutMs : Option UInt64 := none

structure GeoIpConfig where
  database : String
  reloadIntervalMs : Option UInt64
  trustedProxies : List String

structure ScpProfile where
  name : String
  apiRoot : String
  discoveryUpstreams : List String
  allowedTargetApiRoots : List String

structure ConfigSnapshot where
  version : String
  http : Option HttpOptions
  listeners : List Listener
  virtualHosts : List VirtualHost
  upstreams : List UpstreamGroup
  leConfig : Option LetsEncryptConfig
  scpProfiles : List ScpProfile
  geoip : Option GeoIpConfig

end Ngxora.Proto
