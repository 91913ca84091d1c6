/-
The sockets bound at start-up and their settings, for builds with OpenSSL.
-/

import Mathlib.Data.Prod.Lex
import Ngxora.Control.Snapshot
import Ngxora.Reference
import Ngxora.Router.Blocks

namespace Ngxora.Server

open Table List Option Net Results Router Control Reference

inductive SslVersion where
  | tls1
  | tls1_2
  | tls1_3

inductive Alpn where
  | h1
  | h2
  | h2h1

structure SslVerifyMode where
  peer : Bool
  failIfNoPeerCert : Bool

structure TlsSettings where
  callbacks : ListenKey
  alpn : Alpn := .h1
  minProtoVersion : Option SslVersion := none
  maxProtoVersion : Option SslVersion := none
  verify : SslVerifyMode := { peer := false, failIfNoPeerCert := false }
  caFile : Option String := none

structure TlsLibrary where
  withCallbacks : Except String Unit
  setMinProtoVersion : SslVersion → Except String Unit
  setMaxProtoVersion : SslVersion → Except String Unit
  setCaFile : String → Except String Unit

def sslVersion : TlsProtocolVersion → SslVersion
  | .tls1 => .tls1
  | .tls1_2 => .tls1_2
  | .tls1_3 => .tls1_3

def listenerAlpn (protocol : ListenerProtocolConfig) : Alpn :=
  if protocol.http2Only then .h2
  else if protocol.http2 then .h2h1
  else .h1

def pemSourcePath (label : String) : PemSource → Except String String
  | .path path => .ok path.display
  | .inlinePem _ => .error s!"{label} inline PEM is not supported for listeners yet"

def explain {α : Type} (context : String) (result : Except String α) : Except String α :=
  result.mapError fun message => context ++ message

def applyProtocolBounds (library : TlsLibrary) (settings : TlsSettings)
    (protocols : TlsProtocolBounds) : Except String TlsSettings := do
  explain "failed to set minimum TLS version: "
    (library.setMinProtoVersion (sslVersion protocols.min))
  explain "failed to set maximum TLS version: "
    (library.setMaxProtoVersion (sslVersion protocols.max))
  pure
    { settings with
      minProtoVersion := some (sslVersion protocols.min)
      maxProtoVersion := some (sslVersion protocols.max) }

def verifyMode : TlsVerifyClient → SslVerifyMode
  | .off => { peer := false, failIfNoPeerCert := false }
  | .optional => { peer := true, failIfNoPeerCert := false }
  | .required => { peer := true, failIfNoPeerCert := true }

def applyClientVerification (library : TlsLibrary) (settings : TlsSettings)
    (tls : ListenerTlsSettings) : Except String TlsSettings :=
  let settings := { settings with verify := verifyMode tls.verifyClient }
  if tls.verifyClient = .off then .ok settings
  else do
    let clientCa ← orFail tls.clientCertificate "ssl_verify_client requires ssl_client_certificate"
    let clientCaPath ← pemSourcePath "ssl client certificate authority" clientCa
    explain s!"failed to set ssl_client_certificate `{clientCaPath}`: "
      (library.setCaFile clientCaPath)
    pure { settings with caFile := some clientCaPath }

def applyListenerTlsSettings (library : TlsLibrary) (settings : TlsSettings)
    (protocol : ListenerProtocolConfig) (tls : ListenerTlsSettings) :
    Except String TlsSettings := do
  let settings := { settings with alpn := listenerAlpn protocol }
  let settings ←
    match tls.protocols with
    | some protocols => applyProtocolBounds library settings protocols
    | none => pure settings
  applyClientVerification library settings tls

def listenerTlsSettings (library : TlsLibrary) (key : ListenKey) (tls : ListenerTlsConfig)
    (protocol : ListenerProtocolConfig) : Except String TlsSettings := do
  library.withCallbacks
  applyListenerTlsSettings library { callbacks := key } protocol tls.settings

structure HttpServerOptions where
  h2c : Bool
  allowConnectMethodProxying : Bool
  keepaliveRequestLimit : Option UInt32

structure H2Options where
  maxConcurrentStreams : Option UInt32
  maxHeaderListSize : Option UInt32
  initialWindowSize : Option UInt32
  initialConnectionWindowSize : Option UInt32

inductive Endpoint where
  | tcp (addr : String)
  | tls (addr : String) (settings : TlsSettings)

/-- The endpoints are in the order they are added. -/
structure BindPlan where
  serverOptions : HttpServerOptions
  h2Options : H2Options
  endpoints : List Endpoint

def configureProxyService (router : CompiledRouter) : HttpServerOptions × H2Options :=
  ({ h2c := router.httpOptions.h2c
     allowConnectMethodProxying := router.httpOptions.allowConnectMethodProxying
     keepaliveRequestLimit := router.httpOptions.keepaliveRequests },
   { maxConcurrentStreams := router.httpOptions.http2.maxConcurrentStreams
     maxHeaderListSize := router.httpOptions.http2.maxHeaderListSize
     initialWindowSize := router.httpOptions.http2.streamWindowSize
     initialConnectionWindowSize := router.httpOptions.http2.connectionWindowSize })

/-- Sockets are bound in the order of the text of their address, their port and
whether they use TLS. -/
def bindRank (key : ListenKey) : String ×ₗ (Nat ×ₗ Bool) :=
  toLex (key.addr.toText, toLex (key.port.toNat, key.ssl))

def bindsBefore (left right : ListenKey) : Prop := bindRank left ≤ bindRank right

instance : DecidableRel bindsBefore := fun left right =>
  inferInstanceAs (Decidable (bindRank left ≤ bindRank right))

def sortedListenerKeys (router : CompiledRouter) : List ListenKey :=
  Table.sortedKeys bindsBefore router.listeners

def listenerProtocol (router : CompiledRouter) (key : ListenKey) (addr : String) :
    Except String ListenerProtocolConfig :=
  orFail (router.listenerProtocols.lookup key)
    s!"listener {addr} is missing protocol configuration"

def listenerTls (router : CompiledRouter) (key : ListenKey) (addr : String) :
    Except String ListenerTlsConfig :=
  orFail (router.listenerTls.lookup key)
    s!"ssl listener {addr} is missing certificate configuration"

def bindListener (library : TlsLibrary) (router : CompiledRouter) (key : ListenKey) :
    Except String Endpoint :=
  let addr := listenKeyAddr key
  if key.ssl then do
    let tls ← listenerTls router key addr
    let protocol ← listenerProtocol router key addr
    pure (.tls addr (← listenerTlsSettings library key tls protocol))
  else .ok (.tcp addr)

def bindListeners (library : TlsLibrary) (router : CompiledRouter) : Except String BindPlan := do
  let (serverOptions, h2Options) := configureProxyService router
  let endpoints ← (sortedListenerKeys router).mapM (bindListener library router)
  pure { serverOptions, h2Options, endpoints }

private lemma bindRank_injective {left right : ListenKey} (same : bindRank left = bindRank right) :
    left = right := by
  have parts : left.addr.toText = right.addr.toText ∧ left.port.toNat = right.port.toNat ∧
      left.ssl = right.ssl := by
    simpa [bindRank] using same
  have addr := IpAddr.toText_injective parts.1
  have port := UInt16.toNat_inj.mp parts.2.1
  cases left
  cases right
  simp_all

instance : Std.Total bindsBefore := ⟨fun left right => le_total (bindRank left) (bindRank right)⟩

instance : IsTrans ListenKey bindsBefore := ⟨fun _ _ _ => le_trans⟩

instance : Std.Antisymm bindsBefore :=
  ⟨fun _ _ before after => bindRank_injective (le_antisymm before after)⟩

variable {left right : CompiledRouter} {key : ListenKey}

private lemma mem_listeners_of_fingerprint
    (same : restartFingerprint left = restartFingerprint right)
    (key : ListenKey) : key ∈ left.listeners ↔ key ∈ right.listeners := by
  have keys := congrArg (fun fingerprint => fingerprint.listeners.map Prod.fst) same
  simp only [restartFingerprint, List.map_map, Function.comp_def, List.map_id'] at keys
  rw [← mem_sortedKeys ListenKey.le, keys, mem_sortedKeys]

private lemma listenerRestartConfig_of_fingerprint
    (same : restartFingerprint left = restartFingerprint right) (here : key ∈ left.listeners) :
    listenerRestartConfig left key = listenerRestartConfig right key := by
  have entries := congrArg RestartConfigFingerprint.listeners same
  have sortedKeys := sortedKeys_congr ListenKey.le (mem_listeners_of_fingerprint same)
  simp only [restartFingerprint, ← sortedKeys] at entries
  have entry := map_inj_left.mp entries key ((mem_sortedKeys ListenKey.le).mpr here)
  exact congrArg Prod.snd entry

def endpointOf (library : TlsLibrary) (key : ListenKey) (config : ListenerRestartConfig) :
    Except String Endpoint :=
  match config.tls with
  | some settings => Endpoint.tls (listenKeyAddr key) <$> (do
      library.withCallbacks
      applyListenerTlsSettings library { callbacks := key } config.protocol settings)
  | none => .ok (.tcp (listenKeyAddr key))

private lemma bindListener_eq (library : TlsLibrary) {platform : Platform} {http : Http}
    {router : CompiledRouter} (built : Compiled platform http router)
    (here : key ∈ router.listeners) : bindListener library router key =
      endpointOf library key (listenerRestartConfig router key) := by
  obtain ⟨hosts, found⟩ := mem_iff_lookup.mp here
  unfold bindListener
  cases ssl : key.ssl with
  | false =>
    simp only [endpointOf, listenerRestartConfig, built.listenerTls_plain ssl, map_none]
    rfl
  | true =>
    obtain ⟨first, firstMember, tlsFound⟩ := built.exists_listenerTls ssl found
    have settings := settings_of_addListens built.listensOk (mem_filter.mp firstMember).1
    rw [built.key_of_mem firstMember] at settings
    have protocol : router.listenerProtocols.lookup key = some (protocolConfig first.listen) :=
      settings.1
    simp only [endpointOf, listenerRestartConfig, listenerTls, listenerProtocol, tlsFound, protocol,
      orFail_some, ok_bind, map_some, getD_some, if_true, listenerTlsSettings]
    cases library.withCallbacks with
    | error msg => rfl
    | ok _ =>
      generalize applyListenerTlsSettings library _ _ _ = res
      cases res <;> rfl

/-- Routers within one restart boundary are bound in the same way. -/
theorem same_fingerprint_same_bind_plan (library : TlsLibrary) {platform : Platform}
    {leftHttp rightHttp : Http} {left right : CompiledRouter}
    (leftAccepted : fromHttp platform leftHttp = .ok left)
    (rightAccepted : fromHttp platform rightHttp = .ok right)
    (same : restartFingerprint left = restartFingerprint right) :
    bindListeners library left = bindListeners library right := by
  obtain ⟨leftCompiled⟩ := compiled_of_fromHttp leftAccepted
  obtain ⟨rightCompiled⟩ := compiled_of_fromHttp rightAccepted
  have options : configureProxyService left = configureProxyService right := by
    have h2c := congrArg RestartConfigFingerprint.h2c same
    have connect := congrArg RestartConfigFingerprint.allowConnectMethodProxying same
    have keepalive := congrArg RestartConfigFingerprint.keepaliveRequests same
    have http2 := congrArg RestartConfigFingerprint.http2 same
    simp only [restartFingerprint] at h2c connect keepalive http2
    simp only [configureProxyService, h2c, connect, keepalive, http2]
  have keys : sortedListenerKeys left = sortedListenerKeys right :=
    sortedKeys_congr bindsBefore (mem_listeners_of_fingerprint same)
  have endpoints : (sortedListenerKeys left).mapM (bindListener library left) =
      (sortedListenerKeys left).mapM (bindListener library right) := by
    refine mapM_congr fun key member => ?_
    have present := (mem_sortedKeys bindsBefore).mp member
    rw [bindListener_eq library leftCompiled present,
      bindListener_eq library rightCompiled ((mem_listeners_of_fingerprint same key).mp present),
      listenerRestartConfig_of_fingerprint same present]
  simp only [bindListeners, options, ← keys, endpoints]

namespace SameSocket

def server (name : String) : Server :=
  { serverNames := [name]
    locations := [{ matcher := .pathPrefix "/", directives := [.directResponse 200] }]
    listens := [{ port := 443, ssl := true, http2 := true }]
    tls := some (.custom
      { cert := .path (PathBuf.ofText "/site.pem"), key := .path (PathBuf.ofText "/site.key") }) }

def library : TlsLibrary :=
  { withCallbacks := .ok ()
    setMinProtoVersion := fun _ => .ok ()
    setMaxProtoVersion := fun _ => .ok ()
    setCaFile := fun _ => .ok () }

end SameSocket

open SameSocket in
theorem added_name_same_bind_plan :
    ∃ left right plan,
      fromHttp platform { servers := [server "a.example"] } = .ok left ∧
      fromHttp platform { servers := [server "b.example", server "a.example"] } =
        .ok right ∧
      bindListeners library left = .ok plan ∧ bindListeners library right = .ok plan := by
  have run : ∃ left, fromHttp platform { servers := [server "a.example"] } = .ok left ∧
      ∃ right, fromHttp platform { servers := [server "b.example", server "a.example"] } =
        .ok right ∧
      ∃ plan, bindListeners library left = .ok plan ∧
        restartFingerprint left = restartFingerprint right := by decide +kernel
  obtain ⟨left, leftAccepted, right, rightAccepted, plan, planned, same⟩ := run
  refine ⟨left, right, plan, leftAccepted, rightAccepted, planned, ?_⟩
  rw [← same_fingerprint_same_bind_plan library leftAccepted rightAccepted same]
  exact planned

def Endpoint.addr : Endpoint → String
  | .tcp addr | .tls addr _ => addr

def listensOf (http : Http) : List Listen := http.servers.flatMap Server.listens

/-- A socket is either plain or TLS everywhere. -/
def OneMode (http : Http) : Prop :=
  ∀ left ∈ listensOf http, ∀ right ∈ listensOf http,
    left.addr = right.addr → left.port = right.port → left.ssl = right.ssl

private lemma mem_listeners_iff {platform : Platform} {http : Http} {router : CompiledRouter}
    (built : Compiled platform http router) :
    key ∈ router.listeners ↔ ∃ listen ∈ listensOf http, ListenKey.ofListen listen = key := by
  have lengths := compileServers_length built.routesOk
  have keys : built.contributions.map Contribution.key =
      (listensOf http).map ListenKey.ofListen := by
    have blocks : (http.servers.zip built.routes).map Prod.fst = http.servers :=
      map_fst_zip lengths.ge
    rw [listensOf, ← blocks, flatMap_map, map_flatMap, Compiled.contributions,
      Router.contributions, map_flatMap]
    simp only [List.map_map]
    rfl
  rw [mem_iff_lookup, ← List.mem_map, ← keys, List.mem_map, built.listeners_lookup]
  have filtered : built.contributionsAt key = [] ↔
      ∀ entry ∈ built.contributions, entry.key ≠ key := by
    simp [Compiled.contributionsAt, contributionsAt]
  by_cases empty : built.contributionsAt key = []
  · simpa [empty] using filtered.mp empty
  · simpa [empty] using filtered.not.mp empty

private lemma bindListener_addr {library : TlsLibrary} {router : CompiledRouter}
    {endpoint : Endpoint}
    (bound : bindListener library router key = .ok endpoint) :
    endpoint.addr = listenKeyAddr key := by
  unfold bindListener at bound
  split at bound
  · obtain ⟨_, _, _, _, _, _, same⟩ := bind₃_eq_ok.mp bound
    cases same
    rfl
  · cases bound
    rfl

/-- Each socket is bound once exactly when no two listen directives ask for one
address and port with and without TLS. -/
theorem sockets_bound_once_iff {platform : Platform} {http : Http} {router : CompiledRouter}
    (accepted : fromHttp platform http = .ok router) :
    ((∀ left ∈ router.listeners, ∀ right ∈ router.listeners,
        left.addr = right.addr → left.port = right.port → left = right) ∧
      ∀ library plan, bindListeners library router = .ok plan →
        (plan.endpoints.map Endpoint.addr).Nodup) ↔ OneMode http := by
  obtain ⟨compiled⟩ := compiled_of_fromHttp accepted
  constructor
  · rintro ⟨distinct, _⟩ left leftListed right rightListed sameAddr samePort
    have present := fun {listen} (listed : listen ∈ listensOf http) =>
      (mem_listeners_iff compiled).mpr ⟨listen, listed, rfl⟩
    exact congrArg ListenKey.ssl
      (distinct _ (present leftListed) _ (present rightListed) sameAddr samePort)
  · intro oneMode
    have distinct : ∀ left ∈ router.listeners, ∀ right ∈ router.listeners,
        left.addr = right.addr → left.port = right.port → left = right := by
      intro left leftPresent right rightPresent sameAddr samePort
      obtain ⟨leftListen, leftListed, rfl⟩ := (mem_listeners_iff compiled).mp leftPresent
      obtain ⟨rightListen, rightListed, rfl⟩ := (mem_listeners_iff compiled).mp rightPresent
      have sameMode := oneMode _ leftListed _ rightListed sameAddr samePort
      simp only [ListenKey.ofListen] at sameAddr samePort ⊢
      rw [sameAddr, samePort, sameMode]
    refine ⟨distinct, fun library plan planned => ?_⟩
    obtain ⟨endpoints, bound, same⟩ := bind_eq_ok.mp planned
    cases same
    have addrs : endpoints.map Endpoint.addr = (sortedListenerKeys router).map listenKeyAddr := by
      rw [← forall₂_eq_eq_eq, forall₂_map_left_iff, forall₂_map_right_iff]
      exact (mapM_eq_ok.mp bound).flip.imp fun _ _ => bindListener_addr
    rw [addrs]
    refine List.Nodup.map_on ?_ (sortedKeys_nodup _ _)
    intro left leftMember right rightMember sameText
    have same := socketAddrText_injective sameText
    exact distinct left ((mem_sortedKeys _).mp leftMember) right
      ((mem_sortedKeys _).mp rightMember) same.1 same.2

open SameSocket in
theorem two_ports_bound_once :
    ∃ router plan, fromHttp platform
        { servers := [{ server "a.example" with
            listens := [{ port := 80 }, { port := 443, ssl := true }] }] } = .ok router ∧
      bindListeners library router = .ok plan ∧ plan.endpoints.length = 2 ∧
      (plan.endpoints.map Endpoint.addr).Nodup := by
  have run : ∃ router, fromHttp platform
      { servers := [{ server "a.example" with
          listens := [{ port := 80 }, { port := 443, ssl := true }] }] } = .ok router ∧
      ∃ plan, bindListeners library router = .ok plan ∧ plan.endpoints.length = 2 := by
    decide +kernel
  obtain ⟨router, accepted, plan, bound, two⟩ := run
  refine ⟨router, plan, accepted, bound, two,
    ((sockets_bound_once_iff accepted).mpr ?_).2 library plan bound⟩
  intro left leftListed right rightListed _ samePort
  rcases mem_pair.mp leftListed with rfl | rfl <;> rcases mem_pair.mp rightListed with rfl | rfl
  · rfl
  · cases samePort
  · cases samePort
  · rfl

open SameSocket in
/-- The key of a listener holds more than its socket: one port is bound twice. -/
theorem port_bound_twice :
    ∃ router, fromHttp platform
        { servers := [{ server "a.example" with
            listens := [{ port := 443 }, { port := 443, ssl := true }] }] } = .ok router ∧
      ∃ plan, bindListeners library router = .ok plan ∧
        plan.endpoints.map Endpoint.addr = ["127.0.0.1:443", "127.0.0.1:443"] := by
  decide +kernel

end Ngxora.Server
