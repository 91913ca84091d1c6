/-
Compiling an `Http` value into the router.
-/

import Ngxora.Router.Routes
import Ngxora.Router.Scp

namespace Ngxora.Router

open Results

structure Contribution where
  serverNames : List String
  listen : Listen
  routes : ServerRoutes
  tlsOptions : DownstreamTlsOptions
  identity : Option TlsIdentity

def Contribution.key (contribution : Contribution) : ListenKey :=
  ListenKey.ofListen contribution.listen

def protocolConfig (listen : Listen) : ListenerProtocolConfig :=
  { http2 := listen.http2, http2Only := listen.http2Only }

def mergeListenerProtocols (protocols : Table ListenKey ListenerProtocolConfig) (key : ListenKey)
    (listen : Listen) : Except String (Table ListenKey ListenerProtocolConfig) :=
  match protocols.lookup key with
  | some current => do
    rejectIf (current != protocolConfig listen)
      s!"listener {listenKeyAddr key} has conflicting protocol settings across server blocks"
    pure protocols
  | none => pure (protocols.insert key (protocolConfig listen))

def mergeListenerTlsSettings (listenerTls : Table ListenKey ListenerTlsConfig) (key : ListenKey)
    (options : DownstreamTlsOptions) : Except String (Table ListenKey ListenerTlsConfig) :=
  let settings := ListenerTlsSettings.ofOptions options
  match listenerTls.lookup key with
  | some current => do
    rejectIf (current.settings != settings)
      s!"listener {listenKeyAddr key} has conflicting TLS settings across server blocks"
    pure listenerTls
  | none => pure (listenerTls.insert key { settings })

/-- Who becomes the default host: a `default_server` block, or the first block
without names. -/
def routeDefaultRule {α : Type} (serverNames : List String) (listen : Listen) (value : α)
    (current : Option α) : Option α :=
  if listen.defaultServer || (serverNames.isEmpty && current.isNone) then some value
  else current

/-- Who gives the default certificate: a `default_server` block, the first block
and any block without names. -/
def tlsDefaultRule {α : Type} (serverNames : List String) (listen : Listen) (value : α)
    (current : Option α) : Option α :=
  if listen.defaultServer || current.isNone || serverNames.isEmpty then some value
  else current

def addRoutes (contribution : Contribution) (listener : VirtualHostRoutes) : VirtualHostRoutes :=
  { named := Table.insertAll (contribution.serverNames.map normalizeHostname)
      contribution.routes listener.named
    default := routeDefaultRule contribution.serverNames contribution.listen
      contribution.routes listener.default }

def addIdentity (contribution : Contribution) (identity : TlsIdentity)
    (tls : ListenerTlsConfig) : ListenerTlsConfig :=
  { named := Table.insertAll (contribution.serverNames.map normalizeHostname) identity tls.named
    default := tlsDefaultRule contribution.serverNames contribution.listen identity tls.default
    settings := tls.settings }

def addTls (contribution : Contribution) (tls : ListenerTlsConfig) : ListenerTlsConfig :=
  match contribution.identity with
  | some identity => addIdentity contribution identity tls
  | none => tls

/-- What one listen directive runs of the program's `add_server`. -/
def addListen (router : CompiledRouter) (contribution : Contribution) :
    Except String CompiledRouter := do
  let key := contribution.key
  let protocols ← mergeListenerProtocols router.listenerProtocols key contribution.listen
  let listener := addRoutes contribution ((router.listeners.lookup key).getD {})
  let router :=
    { router with
      listenerProtocols := protocols
      listeners := router.listeners.insert key listener }
  if contribution.listen.ssl then
    let listenerTls ← mergeListenerTlsSettings router.listenerTls key contribution.tlsOptions
    let tls := (listenerTls.lookup key).getD
      { settings := ListenerTlsSettings.ofOptions contribution.tlsOptions }
    pure { router with listenerTls := listenerTls.insert key (addTls contribution tls) }
  else pure router

variable (platform : Platform) (leConfig : Option LetsEncryptConfig)

/-- The identity of a server block; automatic certificates are found by name in
the cache directory. -/
def tlsIdentity (serverNames : List String) : SslProvider → TlsIdentity
  | .custom identity => identity
  | .letsEncrypt =>
    let cacheDir := (leConfig.bind LetsEncryptConfig.cacheDir).getD
      (PathBuf.ofText "/var/lib/ngxora/certs")
    let domain := serverNames.head?.getD ""
    { cert := .path ((cacheDir.join domain).join "fullchain.pem")
      key := .path ((cacheDir.join domain).join "privkey.pem") }

def validateServerName (name : String) : Except String Unit :=
  if Text.contains '*' name then do
    let suffix ← orFail (Text.afterStart "*." name) "only leading *. hostnames are supported"
    validateHostname (Text.trimEndMatches '.' suffix)
  else .ok ()

def validateScpRoute (router : CompiledRouter) (listens : List Listen)
    (location : CompiledLocation) : Except String Unit :=
  match location.target with
  | .action (.scp profile) => do
    rejectIf (router.scpProfiles.lookup profile).isNone
      s!"scp_pass references unknown profile `{profile}`"
    rejectIf (listens.any fun listen =>
        if listen.ssl then !listen.http2 else !router.httpOptions.h2c)
      "scp_pass requires an HTTP/2 listener"
  | _ => .ok ()

def compileServer (router : CompiledRouter) (nextRouteId : UInt64) (server : Server) :
    Except String (ServerRoutes × UInt64) := do
  rejectIf (server.tls == some .letsEncrypt && server.serverNames.length != 1)
    "ssl listener with LetsEncrypt currently supports exactly one server_name; split aliases into separate server blocks or use a manual certificate"
  server.serverNames.forM validateServerName
  let (locations, nextRouteId) ←
    compileLocations platform router.upstreams nextRouteId server.locations
  locations.forM (validateScpRoute router server.listens)
  pure ({ locations }, nextRouteId)

def contribution (server : Server) (routes : ServerRoutes) (listen : Listen) : Contribution :=
  { serverNames := server.serverNames
    listen
    routes
    tlsOptions := server.tlsOptions
    identity := server.tls.map (tlsIdentity leConfig server.serverNames) }

def addServer (state : CompiledRouter × UInt64) (server : Server) :
    Except String (CompiledRouter × UInt64) := do
  let (router, nextRouteId) := state
  let (routes, nextRouteId) ← compileServer platform router nextRouteId server
  let router ← (server.listens.map (contribution router.leConfig server routes)).foldlM
    addListen router
  pure (router, nextRouteId)

def downstreamKeepaliveTimeoutSecs : KeepaliveTimeout → Option UInt64
  | .off => none
  | .timeout idle _ =>
    if idle.asMillis = 0 then none
    else Machine.narrowU64 ((idle.asMillis + 999) / 1000)

def runtimeOptions (http : Http) : HttpRuntimeOptions :=
  { realIp := http.realIp
    clientHeaderTimeout := http.clientHeaderTimeout
    clientBodyTimeout := http.clientBodyTimeout
    sendTimeout := http.sendTimeout
    downstreamKeepaliveTimeout := downstreamKeepaliveTimeoutSecs http.keepaliveTimeout
    keepaliveRequests := http.keepaliveRequests
    clientMaxBodySize := http.clientMaxBodySize
    proxyCacheMaxSize := http.proxyCacheMaxSize
    tcpNodelay := http.tcpNodelay == .on
    allowConnectMethodProxying := http.allowConnectMethodProxying == .on
    h2c := http.h2c == .on
    http2 := http.http2 }

def validateHttpOptions (http : Http) : Except String Unit := do
  rejectIf (http.tcpNodelay == .off)
    "tcp_nodelay off is not supported: Pingora enables TCP_NODELAY on accepted downstream sockets"
  http.http2.validate
  (http.realIp.toList).forM RealIpConfig.validate
  [http.clientHeaderTimeout, http.clientBodyTimeout, http.sendTimeout].forM validateClientTimeout
  (http.geoip.toList).forM GeoIpConfig.validate

def isPositive (timeout : Option Duration) : Bool := timeout.any fun value => !value.isZero

def hasBodyTimeout (location : Location) : Bool :=
  location.directives.any fun directive =>
    match directive with
    | .clientBodyTimeout value => !value.isZero
    | _ => false

/-- Downstream read timeouts are not enforced on HTTP/2 connections. -/
def validateBodyTimeout (http : Http) (server : Server) : Except String Unit :=
  let acceptsH2 := server.listens.any fun listen =>
    (listen.ssl && (listen.http2 || listen.http2Only)) || (!listen.ssl && http.h2c == .on)
  rejectIf (acceptsH2 && (isPositive http.clientBodyTimeout || server.locations.any hasBodyTimeout))
    "client_body_timeout is not supported on HTTP/2 listeners by Pingora 0.9; disable HTTP/2 or omit the body timeout"

def validateHeaderTimeout (http : Http) : Except String Unit :=
  rejectIf (http.h2c == .on && isPositive http.clientHeaderTimeout)
    "client_header_timeout requires h2c off; Pingora performs plaintext protocol detection before the header deadline"

def initialRouter (http : Http) : Except String CompiledRouter := do
  let upstreams ← compileUpstreams platform http.upstreams
  let profiles ← http.scpProfiles.foldlM (addProfile platform upstreams) ∅
  pure
    { geoip := http.geoip
      scpProfiles := profiles
      upstreams
      httpOptions := runtimeOptions http
      leConfig := http.sslProvider }

def fromHttp (http : Http) : Except String CompiledRouter := do
  validateHttpOptions http
  let router ← initialRouter platform http
  let (router, _) ← http.servers.foldlM (addServer platform) (router, 1)
  http.servers.forM (validateBodyTimeout http)
  validateHeaderTimeout http
  pure router

end Ngxora.Router
