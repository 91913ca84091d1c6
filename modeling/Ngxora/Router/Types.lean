/-
The compiled router: what the dataplane reads and restart checks compare.
-/

import Ngxora.Base.Table
import Ngxora.Ir
import Ngxora.Net.IpAddrRoundTrip

namespace Ngxora

open List Net Digits

structure ListenKey where
  addr : IpAddr
  port : UInt16
  ssl : Bool
  deriving DecidableEq

def ListenKey.ofListen (listen : Listen) : ListenKey :=
  { addr := listen.addr, port := listen.port, ssl := listen.ssl }

def socketAddrText (addr : IpAddr) (port : UInt16) : String :=
  match addr with
  | .v4 _ => addr.toText ++ ":" ++ toString port.toNat
  | .v6 _ => "[" ++ addr.toText ++ "]:" ++ toString port.toNat

def listenKeyAddr (key : ListenKey) : String := socketAddrText key.addr key.port

def enclosed : IpAddr → List Char
  | .v4 address => address.display
  | .v6 address => '[' :: address.display ++ [']']

lemma enclosed_injective {left right : IpAddr} (same : enclosed left = enclosed right) :
    left = right := by
  have plain : ∀ (address : Ipv4Addr) rest, address.display ≠ '[' :: rest := by
    intro address rest shape
    exact address.notMem_display rfl (by decide) (shape ▸ mem_cons_self)
  have shown : left.display = right.display := by
    cases left with
    | v4 left =>
      cases right with
      | v4 right => exact same
      | v6 right => exact absurd same (plain left _)
    | v6 left =>
      cases right with
      | v4 right => exact absurd same.symm (plain right _)
      | v6 right => exact append_cancel_right (List.cons.inj same).2
  exact IpAddr.toText_injective (congrArg String.ofList shown)

lemma socketAddrText_injective {left right : IpAddr} {leftPort rightPort : UInt16}
    (same : socketAddrText left leftPort = socketAddrText right rightPort) :
    left = right ∧ leftPort = rightPort := by
  -- Read from the end, the first colon stands before the address.
  have split : ∀ (addr : IpAddr) (port : UInt16),
      Text.splitOnce ':' (String.ofList (socketAddrText addr port).toList.reverse) =
        some (String.ofList (Nat.toDigits 10 port.toNat).reverse,
          String.ofList (enclosed addr).reverse) := by
    intro addr port
    have colon : ':' ∉ (Nat.toDigits 10 port.toNat).reverse := fun mem => absurd
      (isDigit_of_mem_toDigits (by decide) (by decide) (mem_reverse.mp mem)) (by decide)
    rw [← Text.splitOnce_append _ colon]
    cases addr <;> simp [socketAddrText, enclosed, IpAddr.toText, IpAddr.display]
  have parts := split left leftPort
  rw [same, split] at parts
  simp only [Option.some.injEq, Prod.mk.injEq, String.ofList_inj, reverse_inj] at parts
  have port := congrArg (valueOf 10) parts.1
  rw [valueOf_toDigits (by decide) (by decide), valueOf_toDigits (by decide) (by decide)] at port
  exact ⟨(enclosed_injective parts.2).symm, (UInt16.toNat_inj.mp port).symm⟩

/-- A target other than a weighted set; a weighted backend has one of these. -/
inductive ActionTarget where
  | directResponse (status : UInt16)
  | httpRedirect (redirect : HttpRedirect)
  | scp (profile : String)
  | proxyPass (host : String) (port : UInt16) (tls : Bool) (sni : String)
  | upstreamGroup (name : String) (tls : Bool)
  | returnRedirect (status : UInt16) (location : String)
  deriving DecidableEq

structure CompiledWeightedBackend where
  weight : UInt32
  target : ActionTarget
  deriving DecidableEq

inductive RouteTarget where
  | weightedBackends (backends : List CompiledWeightedBackend)
  | action (target : ActionTarget)
  deriving DecidableEq

structure NrfServiceMetadata where
  authority : Option String
  nfInstanceId : String
  serviceInstanceId : String
  priority : UInt16
  capacity : UInt16
  deriving DecidableEq

structure CompiledUpstreamServer where
  host : String
  port : UInt16
  weight : UInt16
  apiPrefix : Option String := none
  nrfService : Option NrfServiceMetadata := none
  deriving DecidableEq

inductive HealthCheckType where
  | tcp
  | http (host path : String) (useTls : Bool)
  deriving DecidableEq

structure CompiledHealthCheck where
  checkType : HealthCheckType
  timeout : Duration
  interval : Duration
  consecutiveSuccess : UInt64
  consecutiveFailure : UInt64
  deriving DecidableEq

structure CompiledNrfDiscovery where
  apiRoot : Url
  targetNfType : String
  requesterNfType : String
  serviceName : String
  endpointScheme : NrfEndpointScheme
  timeout : Duration
  staleIfError : Duration
  tlsOptions : UpstreamSslOptions
  deriving DecidableEq

structure CompiledUpstreamGroup where
  allowEmpty : Bool
  name : String
  policy : UpstreamSelectionPolicy
  hashKey : Option UpstreamHashKey
  servers : List CompiledUpstreamServer
  nrfDiscovery : Option CompiledNrfDiscovery
  healthCheck : Option CompiledHealthCheck
  deriving DecidableEq

abbrev UpstreamTable : Type := Table String CompiledUpstreamGroup

inductive CompiledMatcher where
  | http (matcher : HttpMatch)
  | pathPrefix (path : String)
  | exact (path : String)
  | regex (caseInsensitive : Bool) (pattern : String)
  | preferPrefix (path : String)
  | named (name : String)

structure CompiledLocation where
  clientLimits : ClientLimits
  urlRewrite : Option UrlRewrite
  routeId : UInt64
  matcher : CompiledMatcher
  accessRules : List LocationIpRule
  target : RouteTarget
  upstreamTimeouts : UpstreamTimeouts
  upstreamProtocol : Option UpstreamHttpProtocol
  upstreamHttp2 : UpstreamHttp2Options
  upstreamSslOptions : UpstreamSslOptions
  plugins : List PluginSpec
  cache : Option CacheConfig

structure ServerRoutes where
  locations : List CompiledLocation := []

structure VirtualHostRoutes where
  named : Table String ServerRoutes := ∅
  default : Option ServerRoutes := none

structure ListenerProtocolConfig where
  http2 : Bool := false
  http2Only : Bool := false
  deriving DecidableEq

structure ListenerTlsSettings where
  protocols : Option TlsProtocolBounds := none
  verifyClient : TlsVerifyClient := .off
  clientCertificate : Option PemSource := none
  deriving DecidableEq

def ListenerTlsSettings.ofOptions (options : DownstreamTlsOptions) : ListenerTlsSettings :=
  { protocols := options.protocols
    verifyClient := options.verifyClient
    clientCertificate := options.clientCertificate }

structure ListenerTlsConfig where
  named : Table String TlsIdentity := ∅
  default : Option TlsIdentity := none
  settings : ListenerTlsSettings := {}

structure HttpRuntimeOptions where
  realIp : Option RealIpConfig := none
  clientHeaderTimeout : Option Duration := none
  clientBodyTimeout : Option Duration := none
  sendTimeout : Option Duration := none
  downstreamKeepaliveTimeout : Option UInt64 := none
  keepaliveRequests : Option UInt32 := none
  clientMaxBodySize : Option UInt64 := none
  proxyCacheMaxSize : Option UInt64 := none
  tcpNodelay : Bool := false
  allowConnectMethodProxying : Bool := false
  h2c : Bool := false
  http2 : Http2Options := {}

structure CompiledRouter where
  geoip : Option GeoIpConfig := none
  scpProfiles : Table String ScpProfile := ∅
  upstreams : UpstreamTable := ∅
  listeners : Table ListenKey VirtualHostRoutes := ∅
  listenerProtocols : Table ListenKey ListenerProtocolConfig := ∅
  listenerTls : Table ListenKey ListenerTlsConfig := ∅
  httpOptions : HttpRuntimeOptions := {}
  leConfig : Option LetsEncryptConfig := none

def routerLocations (router : CompiledRouter) : List CompiledLocation :=
  router.listeners.values.flatMap fun hosts =>
    (hosts.named.values ++ hosts.default.toList).flatMap ServerRoutes.locations

structure ConfigSnapshot where
  version : String
  router : CompiledRouter

namespace ListenKey

def orderKey (key : ListenKey) : List Nat :=
  key.addr.orderKey ++ [key.port.toNat, key.ssl.toNat]

def le (left right : ListenKey) : Prop := left.orderKey ≤ right.orderKey

instance : DecidableRel le := fun left right =>
  inferInstanceAs (Decidable (left.orderKey ≤ right.orderKey))

lemma orderKey_injective {left right : ListenKey} (same : left.orderKey = right.orderKey) :
    left = right := by
  obtain ⟨addrs, ports⟩ := append_inj' same rfl
  have addr := IpAddr.orderKey_injective addrs
  simp only [List.cons.injEq, and_true] at ports
  have port : left.port = right.port := UInt16.toNat_inj.mp ports.1
  have ssl : left.ssl = right.ssl := by
    have same := ports.2
    revert same
    cases left.ssl <;> cases right.ssl <;> decide
  cases left
  cases right
  simp_all

instance : Std.Total le := ⟨fun left right => le_total left.orderKey right.orderKey⟩

instance : IsTrans ListenKey le := ⟨fun _ _ _ => le_trans⟩

instance : Std.Antisymm le := ⟨fun _ _ below above => orderKey_injective (le_antisymm below above)⟩

end ListenKey

namespace Names

def le (left right : String) : Prop := left ≤ right

instance : DecidableRel le := fun left right => inferInstanceAs (Decidable (left ≤ right))

instance : Std.Total le := ⟨fun left right => le_total left right⟩

instance : IsTrans String le := ⟨fun _ _ _ => le_trans⟩

instance : Std.Antisymm le := ⟨fun _ _ => le_antisymm⟩

end Names
end Ngxora
