/-
Lowering a parsed configuration.
-/

import Ngxora.Config.ServerBlocks
import Ngxora.Config.UpstreamBlocks

namespace Ngxora.Config

open Results

structure GeoIpDraft where
  database : Option PathBuf := none
  interval : Option Duration := none
  trustedProxies : List IpNet := []

variable (platform : Platform) (formats : Formats)

def geoIpDirective (draft : GeoIpDraft) (name : String) (args : List String) :
    Except Stop GeoIpDraft :=
  match args with
  | [value] =>
    if name = "database" ∧ draft.database.isNone then
      .ok { draft with database := some (PathBuf.ofText value) }
    else if name = "reload_interval" ∧ draft.interval.isNone then do
      let interval ← parseSingleDurationDirective args "geoip reload_interval"
      pure { draft with interval := some interval }
    else if name = "trusted_proxy" then do
      let network ← orFail (networkFromText platform value)
        (.lowerErr "invalid geoip trusted_proxy: expected IP or CIDR")
      pure { draft with trustedProxies := draft.trustedProxies ++ [network] }
    else .error (.lowerErr "unknown or duplicate geoip directive")
  | _ => .error (.lowerErr "geoip directives require exactly one argument")

def lowerGeoip (args : List String) (children : List Node) : Except Stop GeoIpConfig := do
  rejectIf (!args.isEmpty) (.lowerErr "geoip block takes no arguments")
  let draft ← foldDirectives (geoIpDirective platform)
    (fun _ => "geoip does not accept nested blocks") {} children
  let database ← orFail draft.database (.lowerErr "geoip requires database")
  let config : GeoIpConfig :=
    { database
      reloadInterval := draft.interval.getD (Duration.fromSecs 5)
      trustedProxies := draft.trustedProxies }
  config.validate.mapError Stop.lowerErr
  pure config

def replaceOnce {α : Type} (slot : Option α) (value : α) (name : String) :
    Except Stop (Option α) := do
  rejectIf slot.isSome (.lowerErr s!"{name} is duplicated in http")
  pure (some value)

def http2Slot (slot : Option UInt32) (name : String) (args : List String) :
    Except Stop (Option UInt32) := do
  let value ← parseHttp2Value name args
  replaceOnce slot value name

def clientTimeout (slot : Option Duration) (name : String) (args : List String) :
    Except Stop (Option Duration) := do
  let value ← parseSingleDurationDirective args name
  replaceOnce slot value name

def applyHttp2Directive (options : Http2Options) (name : String) (args : List String) :
    Option (Except Stop Http2Options) :=
  if name = "http2_max_concurrent_streams" then some do
    pure { options with maxConcurrentStreams := ← http2Slot options.maxConcurrentStreams name args }
  else if name = "http2_max_header_list_size" then some do
    pure { options with maxHeaderListSize := ← http2Slot options.maxHeaderListSize name args }
  else if name = "http2_stream_window_size" then some do
    pure { options with streamWindowSize := ← http2Slot options.streamWindowSize name args }
  else if name = "http2_connection_window_size" then some do
    pure { options with connectionWindowSize := ← http2Slot options.connectionWindowSize name args }
  else none

def applyRealIpDirective (config : RealIpConfig) (name : String) (args : List String) :
    Option (Except Stop RealIpConfig) :=
  if name = "set_real_ip_from" then some do
    let value ← parseExactlyOneArgument args name
    let network ← orFail (networkFromText platform value)
      (.lowerErr "set_real_ip_from: expected IP or CIDR")
    pure { config with trustedProxies := config.trustedProxies ++ [network] }
  else if name = "real_ip_header" then some do
    let header ← parseExactlyOneArgument args name
    let config := { config with header }
    config.validate.mapError Stop.lowerErr
    pure config
  else if name = "real_ip_recursive" then some do
    pure { config with recursive := (← getDirectiveSwitch name args) == .on }
  else none

def applyHttpOption (http : Http) (name : String) (args : List String) : Except Stop Http :=
  if name = "client_header_timeout" then do
    pure { http with clientHeaderTimeout := ← clientTimeout http.clientHeaderTimeout name args }
  else if name = "client_body_timeout" then do
    pure { http with clientBodyTimeout := ← clientTimeout http.clientBodyTimeout name args }
  else if name = "send_timeout" then do
    pure { http with sendTimeout := ← clientTimeout http.sendTimeout name args }
  else if name = "keepalive_timeout" then do
    pure { http with keepaliveTimeout := ← parseKeepaliveTimeout args }
  else if name = "keepalive_requests" then do
    pure { http with keepaliveRequests := some (← parseKeepaliveRequests args) }
  else if name = "client_max_body_size" then do
    pure { http with clientMaxBodySize := ← parseClientMaxBodySize args }
  else if name = "tcp_nodelay" then do
    pure { http with tcpNodelay := ← getDirectiveSwitch name args }
  else if name = "allow_connect_method_proxying" then do
    pure { http with allowConnectMethodProxying := ← getDirectiveSwitch name args }
  else if name = "h2c" then do
    pure { http with h2c := ← getDirectiveSwitch name args }
  else if name = "proxy_cache_max_size" then do
    let raw ← parseExactlyOneArgument args name
    pure { http with proxyCacheMaxSize := some (← parseSizeLiteral raw name) }
  else .error (.lowerErr s!"unsupported http directive: {name}")

def applyHttpDirective (http : Http) (name : String) (args : List String) : Except Stop Http :=
  match applyHttp2Directive http.http2 name args with
  | some update => do
    pure { http with http2 := ← update }
  | none =>
    match applyRealIpDirective platform (http.realIp.getD {}) name args with
    | some update => do
      pure { http with realIp := some (← update) }
    | none => applyHttpOption http name args

def httpNode (http : Http) : Node → Except Stop Http
  | .directive name args => applyHttpDirective platform http name args
  | .block name args children =>
    if name = "geoip" then do
      rejectIf http.geoip.isSome (.lowerErr "duplicate geoip block")
      pure { http with geoip := some (← lowerGeoip platform args children) }
    else if name = "scp" then do
      pure { http with scpProfiles := http.scpProfiles ++ [← lowerScp args children] }
    else if name = "server" then do
      pure { http with servers := http.servers ++ [← lowerServer platform formats children] }
    else if name = "upstream" then do
      pure { http with upstreams := http.upstreams ++ [← lowerUpstream platform args children] }
    else if name = "ssl_provider" then do
      rejectIf http.sslProvider.isSome (.lowerErr "duplicate ssl_provider block")
      pure { http with sslProvider := some (← lowerSslProvider args children) }
    else .error (.lowerErr s!"Unknown block name: {formats.debug name}")

def hasSslListener (server : Server) : Bool := server.listens.any (·.ssl)

def assignProvider (server : Server) : Server :=
  if hasSslListener server && server.tls.isNone then
    { server with tls := some .letsEncrypt }
  else server

def validateCertificate (http : Http) (server : Server) : Except Stop Unit :=
  if hasSslListener server then
    match server.tls with
    | some (.custom identity) => do
      rejectIf (identity.cert == noPem) (.lowerErr "ssl listener requires ssl_certificate")
      rejectIf (identity.key == noPem) (.lowerErr "ssl listener requires ssl_certificate_key")
    | some .letsEncrypt => do
      rejectIf http.sslProvider.isNone
        (.lowerErr <| "ssl listener with LetsEncrypt provider requires an ssl_provider " ++
          "letsencrypt \x7b ... \x7d block in http")
      rejectIf server.serverNames.isEmpty
        (.lowerErr <| "ssl listener with LetsEncrypt requires at least one server_name " ++
          "for certificate issuance")
      rejectIf (decide (server.serverNames.length > 1))
        (.lowerErr <| "ssl listener with LetsEncrypt currently supports exactly one " ++
          "server_name; split aliases into separate server blocks or use a manual certificate")
    | none =>
      .error (.lowerErr <| "ssl listener requires a certificate: use ssl_certificate / " ++
        "ssl_certificate_key, or enable ssl_provider letsencrypt")
  else .ok ()

def lowerHttp (children : List Node) : Except Stop Http := do
  let http ← children.foldlM (httpNode platform formats) {}
  let http :=
    if http.sslProvider.isSome then { http with servers := http.servers.map assignProvider }
    else http
  http.servers.forM (validateCertificate http)
  pure http

/-- `Ir::from_ast`: the `http` field of the result. -/
def fromAst (ast : Ast) : Except Stop (Option Http) :=
  ast.items.foldlM (fun http node => match node with
    | .directive _ _ => .ok http
    | .block name _ children =>
      if name = "http" then some <$> lowerHttp platform formats children else .ok http) none

def keepaliveAfter (limit : Option UInt32) : Node → Option UInt32
  | .directive name args =>
    if name = "keepalive_requests" then args.head?.bind Digits.parseU32 else limit
  | .block _ _ _ => limit

def keepaliveRequestsOf (ast : Ast) : Option UInt32 :=
  ast.items.foldl (fun limit node => match node with
    | .directive _ _ => limit
    | .block name _ children =>
      if name = "http" then children.foldl keepaliveAfter none else limit) none

variable {next http : Http} {platform : Platform} {formats : Formats}

def followed (http : Http) : Option UInt32 × List Server × List UpstreamBlock × List ScpProfile :=
  (http.keepaliveRequests, http.servers, http.upstreams, http.scpProfiles)

lemma followed_of_update {α : Type} {parsed : Except Stop α} {update : α → Http}
    {parts : Option UInt32 × List Server × List UpstreamBlock × List ScpProfile}
    (applied : (do let value ← parsed; pure (update value)) = .ok next)
    (kept : ∀ value, followed (update value) = parts) : followed next = parts := by
  obtain ⟨value, _, done⟩ := bind_eq_ok.mp applied
  cases done
  exact kept value

lemma followed_of_option {name : String} {args : List String}
    (applied : applyHttpOption http name args = .ok next) :
    followed next = (keepaliveAfter http.keepaliveRequests (.directive name args),
      (followed http).2) := by
  by_cases named : name = "keepalive_requests"
  · subst named
    obtain ⟨requests, parsed, done⟩ := bind_eq_ok.mp applied
    cases done
    match args, parsed with
    | [value], parsed => exact congrArg (·, _) (orFail_eq_ok.mp parsed).symm
  · rw [keepaliveAfter, if_neg named]
    simp only [applyHttpOption, if_neg named] at applied
    iterate 8
      split at applied
      · exact followed_of_update applied fun _ => rfl
    split at applied
    · obtain ⟨raw, _, sized⟩ := bind_eq_ok.mp applied
      exact followed_of_update sized fun _ => rfl
    · cases applied

lemma followed_of_directive {name : String} {args : List String}
    (lowered : httpNode platform formats http (.directive name args) = .ok next) :
    followed next = (keepaliveAfter http.keepaliveRequests (.directive name args),
      (followed http).2) := by
  simp only [httpNode, applyHttpDirective] at lowered
  split at lowered
  next update http2 =>
    have other : name ≠ "keepalive_requests" := by
      rintro rfl
      cases http2
    rw [keepaliveAfter, if_neg other]
    exact followed_of_update lowered fun _ => rfl
  next =>
    split at lowered
    next update realIp =>
      have other : name ≠ "keepalive_requests" := by
        rintro rfl
        cases realIp
      rw [keepaliveAfter, if_neg other]
      exact followed_of_update lowered fun _ => rfl
    next => exact followed_of_option lowered

/-- What lowering a block of each name adds. -/
inductive BlockEffect (platform : Platform) (formats : Formats) (http next : Http)
    (args : List String) (children : List Node) : String → Prop where
  | server {server : Server} (lowered : lowerServer platform formats children = .ok server)
      (parts : followed next =
        (http.keepaliveRequests, http.servers ++ [server], http.upstreams, http.scpProfiles)) :
      BlockEffect platform formats http next args children "server"
  | upstream {upstream : UpstreamBlock} (lowered : lowerUpstream platform args children = .ok upstream)
      (parts : followed next =
        (http.keepaliveRequests, http.servers, http.upstreams ++ [upstream], http.scpProfiles)) :
      BlockEffect platform formats http next args children "upstream"
  | scp {profile : ScpProfile} (lowered : lowerScp args children = .ok profile)
      (parts : followed next =
        (http.keepaliveRequests, http.servers, http.upstreams, http.scpProfiles ++ [profile])) :
      BlockEffect platform formats http next args children "scp"
  | other {name : String} (unnamed : name ≠ "server" ∧ name ≠ "upstream" ∧ name ≠ "scp")
      (parts : followed next = followed http) :
      BlockEffect platform formats http next args children name

lemma blockEffect_of_block {name : String} {args : List String} {children : List Node}
    (lowered : httpNode platform formats http (.block name args children) = .ok next) :
    BlockEffect platform formats http next args children name := by
  simp only [httpNode] at lowered
  split at lowered
  next named =>
    obtain ⟨_, _, lowered⟩ := bind_eq_ok.mp lowered
    exact .other (by simp [named]) (followed_of_update lowered fun _ => rfl)
  split at lowered
  next named =>
    obtain ⟨profile, loweredOk, done⟩ := bind_eq_ok.mp lowered
    cases done
    exact named ▸ .scp loweredOk rfl
  split at lowered
  next named =>
    obtain ⟨server, loweredOk, done⟩ := bind_eq_ok.mp lowered
    cases done
    exact named ▸ .server loweredOk rfl
  split at lowered
  next named =>
    obtain ⟨upstream, loweredOk, done⟩ := bind_eq_ok.mp lowered
    cases done
    exact named ▸ .upstream loweredOk rfl
  split at lowered
  next named =>
    obtain ⟨_, _, lowered⟩ := bind_eq_ok.mp lowered
    exact .other (by simp [named]) (followed_of_update lowered fun _ => rfl)
  next => cases lowered

lemma keepalive_of_node {node : Node} (lowered : httpNode platform formats http node = .ok next) :
    next.keepaliveRequests = keepaliveAfter http.keepaliveRequests node := by
  cases node with
  | directive name args => exact congrArg Prod.fst (followed_of_directive lowered)
  | block name args children =>
    cases blockEffect_of_block lowered with
    | server _ parts | upstream _ parts | scp _ parts | other _ parts =>
      exact congrArg Prod.fst parts

lemma keepaliveRequests_of_lowerHttp {children : List Node}
    (lowered : lowerHttp platform formats children = .ok http) :
    http.keepaliveRequests = children.foldl keepaliveAfter none := by
  obtain ⟨raw, looped, _, _, done⟩ := bind₂_eq_ok.mp lowered
  have limit := foldlM_observe Http.keepaliveRequests keepaliveAfter
    (fun _ _ _ => keepalive_of_node) looped
  cases done
  rw [← limit]
  split <;> rfl

lemma keepaliveRequests_of_fromAst {ast : Ast}
    (lowered : fromAst platform formats ast = .ok (some http)) :
    http.keepaliveRequests = keepaliveRequestsOf ast := by
  have observed := foldlM_observe (fun http : Option Http => http.bind Http.keepaliveRequests)
    (fun limit node => match node with
      | .directive _ _ => limit
      | .block name _ children =>
        if name = "http" then children.foldl keepaliveAfter none else limit)
    (fun state node next step => ?_) lowered
  · exact observed
  · cases node with
    | directive name args =>
      cases step
      rfl
    | block name args children =>
      simp only at step ⊢
      split at step
      next named =>
        obtain ⟨block, inner, done⟩ := map_eq_ok.mp step
        cases done
        rw [if_pos named]
        exact keepaliveRequests_of_lowerHttp inner
      next other =>
        cases step
        rw [if_neg other]

end Ngxora.Config
