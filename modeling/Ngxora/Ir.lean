/-
The intermediate representation that the text configuration and the control-plane snapshot are
lowered to, with the checks it makes of its own values.
-/

import Ngxora.Base.Machine
import Ngxora.Base.Path
import Ngxora.Extern

namespace Ngxora

open Machine Net Results

inductive Switch where
  | on
  | off
  deriving DecidableEq, Inhabited

structure RealIpConfig where
  trustedProxies : List IpNet := []
  header : String := "X-Forwarded-For"
  recursive : Bool := true

def RealIpConfig.validate (config : RealIpConfig) : Except String Unit :=
  rejectIf (!Text.eqIgnoreAsciiCase config.header "x-forwarded-for" &&
      !Text.eqIgnoreAsciiCase config.header "x-real-ip")
    "real_ip_header must be X-Forwarded-For or X-Real-IP"

/-- Route overrides; zero is an explicit disabled limit. -/
structure ClientLimits where
  maxBodySize : Option UInt64 := none
  bodyTimeout : Option Duration := none
  sendTimeout : Option Duration := none
  allowedMethods : List String := []

def validateClientTimeout (value : Option Duration) : Except String Unit :=
  rejectIf (value.any fun timeout =>
      decide (timeout.asMillis > maxU64.toNat) || timeout.subsecNanos % 1000000 != 0)
    "client timeout must be whole milliseconds fitting uint64"

structure GeoIpConfig where
  database : PathBuf
  reloadInterval : Duration
  trustedProxies : List IpNet
  deriving DecidableEq

def GeoIpConfig.validate (config : GeoIpConfig) : Except String Unit := do
  rejectIf config.database.isEmpty "geoip database must be a nonempty UTF-8 path"
  rejectIf (decide (config.reloadInterval.nanos < (Duration.fromMillis 1).nanos) ||
      decide (config.reloadInterval.asMillis > maxU64.toNat) ||
      config.reloadInterval.subsecNanos % 1000000 != 0)
    "geoip reload_interval must be a positive whole number of milliseconds fitting uint64"

inductive PemSource where
  | path (path : PathBuf)
  | inlinePem (pem : String)
  deriving DecidableEq

structure TlsIdentity where
  cert : PemSource
  key : PemSource
  deriving DecidableEq

inductive SslProvider where
  | custom (identity : TlsIdentity)
  | letsEncrypt
  deriving DecidableEq

structure LetsEncryptConfig where
  acmeDirectory : Option String := none
  email : Option String := none
  cacheDir : Option PathBuf := none

inductive TlsProtocolVersion where
  | tls1
  | tls1_2
  | tls1_3
  deriving DecidableEq

def TlsProtocolVersion.rank : TlsProtocolVersion → Nat
  | .tls1 => 0
  | .tls1_2 => 1
  | .tls1_3 => 2

structure TlsProtocolBounds where
  min : TlsProtocolVersion
  max : TlsProtocolVersion
  deriving DecidableEq

inductive TlsVerifyClient where
  | off
  | optional
  | required
  deriving DecidableEq

structure DownstreamTlsOptions where
  protocols : Option TlsProtocolBounds := none
  verifyClient : TlsVerifyClient := .off
  clientCertificate : Option PemSource := none
  deriving DecidableEq

structure UpstreamSslOptions where
  verifyCert : Switch := .on
  trustedCertificate : Option PemSource := none
  clientCertificate : Option PemSource := none
  clientCertificateKey : Option PemSource := none
  deriving DecidableEq

structure Http2Options where
  maxConcurrentStreams : Option UInt32 := none
  maxHeaderListSize : Option UInt32 := none
  streamWindowSize : Option UInt32 := none
  connectionWindowSize : Option UInt32 := none
  deriving DecidableEq

structure UpstreamHttp2Options where
  maxConcurrentStreams : Option UInt32 := none
  streamWindowSize : Option UInt32 := none
  connectionWindowSize : Option UInt32 := none

def validateHttp2Value (value : Option UInt32) (max : UInt32) (name : String) :
    Except String Unit :=
  rejectIf (value.any fun value => value == 0 || decide (value > max))
    s!"{name}: expected a value between 1 and {max.toNat}"

def Http2Options.validate (options : Http2Options) : Except String Unit := do
  validateHttp2Value options.maxConcurrentStreams maxU32 "http2_max_concurrent_streams"
  validateHttp2Value options.maxHeaderListSize maxU32 "http2_max_header_list_size"
  validateHttp2Value options.streamWindowSize maxI32 "http2_stream_window_size"
  validateHttp2Value options.connectionWindowSize maxI32 "http2_connection_window_size"

def UpstreamHttp2Options.validate (options : UpstreamHttp2Options) : Except String Unit := do
  validateHttp2Value options.maxConcurrentStreams maxU32
    "proxy_http2_max_concurrent_streams"
  validateHttp2Value options.streamWindowSize maxI32 "proxy_http2_stream_window_size"
  validateHttp2Value options.connectionWindowSize maxI32
    "proxy_http2_connection_window_size"

inductive NrfEndpointScheme where
  | http
  | https
  deriving DecidableEq

structure NrfDiscovery where
  apiRoot : String
  targetNfType : String
  requesterNfType : String
  serviceName : String
  endpointScheme : NrfEndpointScheme
  timeout : Duration
  staleIfError : Duration
  tlsOptions : UpstreamSslOptions

structure UpstreamServer where
  host : String
  port : UInt16
  weight : UInt16

inductive UpstreamSelectionPolicy where
  | roundRobin
  | random
  | consistentHash
  deriving DecidableEq

inductive UpstreamHashKey where
  | clientIp
  | header (name : String)
  deriving DecidableEq

inductive UpstreamHealthCheckType where
  | tcp
  | http (host path : String) (useTls : Bool)

/-- The thresholds are `usize`, 64 bits wide on the targets of the program. -/
structure UpstreamHealthCheck where
  checkType : UpstreamHealthCheckType
  timeout : Duration
  interval : Duration
  consecutiveSuccess : UInt64
  consecutiveFailure : UInt64

structure UpstreamBlock where
  allowEmpty : Bool
  name : String
  policy : UpstreamSelectionPolicy
  hashKey : Option UpstreamHashKey
  servers : List UpstreamServer
  nrfDiscovery : Option NrfDiscovery
  healthCheck : Option UpstreamHealthCheck

structure ScpProfile where
  name : String := ""
  apiRoot : String := ""
  discoveryUpstreams : List String := []
  allowedTargetApiRoots : List String := []
  deriving DecidableEq

inductive LocationIpRule where
  | allow (network : IpNet)
  | deny (network : IpNet)
  | allowAll
  | denyAll

def LocationIpRule.isAllow : LocationIpRule → Bool
  | .allow _ | .allowAll => true
  | .deny _ | .denyAll => false

inductive CacheKeyMode where
  | uri
  | uriAndMethod
  | normalizedUri
  deriving DecidableEq

structure CacheConfig where
  enabled : Bool := true
  maxSize : Option UInt64 := none
  ttl : Option Duration := some (Duration.fromSecs 60)
  staleIfError : Option Duration := none
  cacheKey : CacheKeyMode := .uri
  minUses : Option UInt64 := none
  validStatuses : List UInt16 := [200, 301, 404]
  deriving DecidableEq

structure UpstreamTimeouts where
  connect : Option Duration := none
  read : Option Duration := none
  write : Option Duration := none

inductive HttpPathMatch where
  | exact (path : String)
  | pathPrefix (path : String)
  deriving DecidableEq

structure HttpMatch where
  path : HttpPathMatch
  method : Option String
  headers : List (String × String)
  queryParams : List (String × String)
  deriving DecidableEq

inductive LocationMatcher where
  | http (matcher : HttpMatch)
  | pathPrefix (path : String)
  | exact (path : String)
  | regex (caseInsensitive : Bool) (pattern : String)
  | preferPrefix (path : String)
  | named (name : String)

inductive ProxyPassTarget where
  | url (url : Url)
  | upstreamGroup (name : String) (tls : Bool)

inductive BackendTarget where
  | upstream (target : ProxyPassTarget)
  | response (status : UInt16)

structure WeightedBackend where
  weight : UInt32
  target : BackendTarget

inductive PathModifier where
  | replaceFullPath (path : String)
  | replacePrefixMatch (path : String)
  deriving DecidableEq

structure HttpRedirect where
  status : UInt16
  scheme : Option String
  hostname : Option String
  port : Option UInt16
  path : Option PathModifier
  deriving DecidableEq

structure UrlRewrite where
  hostname : Option String
  path : Option PathModifier

inductive UpstreamHttpProtocol where
  | h1
  | h2
  | h2c
  deriving DecidableEq

inductive LocationDirective where
  | clientMaxBodySize (bytes : UInt64)
  | clientBodyTimeout (timeout : Duration)
  | sendTimeout (timeout : Duration)
  | allowMethods (methods : List String)
  | weightedBackends (backends : List WeightedBackend)
  | directResponse (status : UInt16)
  | httpRedirect (redirect : HttpRedirect)
  | urlRewrite (rewrite : UrlRewrite)
  | scpPass (profile : String)
  | proxyPass (target : ProxyPassTarget)
  | proxyConnectTimeout (timeout : Duration)
  | proxyReadTimeout (timeout : Duration)
  | proxyWriteTimeout (timeout : Duration)
  | proxyUpstreamProtocol (protocol : UpstreamHttpProtocol)
  | proxyHttp2MaxConcurrentStreams (value : UInt32)
  | proxyHttp2StreamWindowSize (value : UInt32)
  | proxyHttp2ConnectionWindowSize (value : UInt32)
  | proxySslVerify (switch : Switch)
  | proxySslTrustedCertificate (source : PemSource)
  | proxySslCertificate (source : PemSource)
  | proxySslCertificateKey (source : PemSource)
  | root (path : String)
  | tryFiles (files : String)
  | returnRedirect (status : UInt16) (location : String)

structure PluginSpec where
  name : String
  config : Json

structure Location where
  matcher : LocationMatcher
  accessRules : List LocationIpRule := []
  directives : List LocationDirective
  plugins : List PluginSpec := []
  cache : Option CacheConfig := none

structure Listen where
  addr : IpAddr := .v4 { a := 127, b := 0, c := 0, d := 1 }
  port : UInt16 := 80
  ssl : Bool := false
  defaultServer : Bool := false
  http2 : Bool := false
  http2Only : Bool := false

structure Server where
  serverNames : List String := []
  locations : List Location := []
  listens : List Listen := []
  tls : Option SslProvider := none
  tlsOptions : DownstreamTlsOptions := {}

inductive KeepaliveTimeout where
  | off
  | timeout (idle : Duration) (header : Option Duration)

structure Http where
  realIp : Option RealIpConfig := none
  clientHeaderTimeout : Option Duration := none
  clientBodyTimeout : Option Duration := none
  sendTimeout : Option Duration := none
  scpProfiles : List ScpProfile := []
  upstreams : List UpstreamBlock := []
  servers : List Server := []
  keepaliveTimeout : KeepaliveTimeout := .timeout (Duration.fromSecs 60) none
  keepaliveRequests : Option UInt32 := none
  clientMaxBodySize : Option UInt64 := none
  proxyCacheMaxSize : Option UInt64 := none
  tcpNodelay : Switch := .on
  allowConnectMethodProxying : Switch := .off
  h2c : Switch := .off
  http2 : Http2Options := {}
  sslProvider : Option LetsEncryptConfig := none
  geoip : Option GeoIpConfig := none

end Ngxora
