/-
Upstream groups, health checks and discovery blocks.
-/

import Ngxora.Config.LocationBlocks

namespace Ngxora.Config

open Results Digits

def applyScpDirective (profile : ScpProfile) (name : String) (args : List String) :
    Except Stop ScpProfile := do
  let value ← parseExactlyOneArgument args name
  if name = "api_root" ∧ profile.apiRoot.isEmpty then pure { profile with apiRoot := value }
  else if name = "discovery_upstream" then
    pure { profile with discoveryUpstreams := profile.discoveryUpstreams ++ [value] }
  else if name = "allow_target_api_root" then
    pure { profile with allowedTargetApiRoots := profile.allowedTargetApiRoots ++ [value] }
  else .error (.lowerErr s!"scp: unsupported or duplicate directive `{name}`")

def lowerScp (args : List String) (children : List Node) : Except Stop ScpProfile := do
  let name ← parseExactlyOneArgument args "scp"
  foldDirectives applyScpDirective (fun _ => "scp: nested blocks are not supported")
    { name } children

structure NrfDiscoveryDraft where
  apiRoot : Option String := none
  targetNfType : Option String := none
  requesterNfType : Option String := none
  serviceName : Option String := none
  endpointScheme : Option NrfEndpointScheme := none
  timeout : Option Duration := none
  staleIfError : Option Duration := none
  tlsOptions : UpstreamSslOptions := {}

def nrfText (slot : Option String) (name : String) (args : List String) :
    Except Stop (Option String) := do
  let value ← parseExactlyOneArgument args name
  rejectIf (Text.isBlank value) (.lowerErr s!"nrf_discovery {name}: value cannot be empty")
  setOnce slot value s!"nrf_discovery {name}"

def nrfDuration (slot : Option Duration) (name : String) (args : List String) :
    Except Stop (Option Duration) := do
  let context := s!"nrf_discovery {name}"
  let value ← parseSingleDurationDirective args context
  ensureNonZeroDuration value context
  setOnce slot value context

def nrfPem (slot : Option PemSource) (name : String) (args : List String) :
    Except Stop (Option PemSource) := do
  let value ← parseExactlyOneArgument args name
  setOnce slot (pemSource value) s!"nrf_discovery {name}"

def nrfEndpointScheme (value : String) : Except Stop NrfEndpointScheme :=
  if value = "http" then .ok .http
  else if value = "https" then .ok .https
  else .error (.lowerErr
    s!"nrf_discovery endpoint_scheme: unsupported value `{value}`; expected http|https")

def applyNrfDiscoveryDirective (draft : NrfDiscoveryDraft) (name : String)
    (args : List String) : Except Stop NrfDiscoveryDraft :=
  if name = "api_root" then do
    pure { draft with apiRoot := ← nrfText draft.apiRoot name args }
  else if name = "target_nf_type" then do
    pure { draft with targetNfType := ← nrfText draft.targetNfType name args }
  else if name = "requester_nf_type" then do
    pure { draft with requesterNfType := ← nrfText draft.requesterNfType name args }
  else if name = "service_name" then do
    pure { draft with serviceName := ← nrfText draft.serviceName name args }
  else if name = "endpoint_scheme" then do
    let value ← parseExactlyOneArgument args "nrf_discovery endpoint_scheme"
    let scheme ← nrfEndpointScheme value
    let slot ← setOnce draft.endpointScheme scheme "nrf_discovery endpoint_scheme"
    pure { draft with endpointScheme := slot }
  else if name = "timeout" then do
    pure { draft with timeout := ← nrfDuration draft.timeout name args }
  else if name = "stale_if_error" then do
    pure { draft with staleIfError := ← nrfDuration draft.staleIfError name args }
  else if name = "ssl_verify" then do
    let switch ← getDirectiveSwitch name args
    pure { draft with tlsOptions := { draft.tlsOptions with verifyCert := switch } }
  else if name = "ssl_trusted_certificate" then do
    let slot ← nrfPem draft.tlsOptions.trustedCertificate name args
    pure { draft with tlsOptions := { draft.tlsOptions with trustedCertificate := slot } }
  else if name = "ssl_certificate" then do
    let slot ← nrfPem draft.tlsOptions.clientCertificate name args
    pure { draft with tlsOptions := { draft.tlsOptions with clientCertificate := slot } }
  else if name = "ssl_certificate_key" then do
    let slot ← nrfPem draft.tlsOptions.clientCertificateKey name args
    pure { draft with tlsOptions := { draft.tlsOptions with clientCertificateKey := slot } }
  else .error (.lowerErr s!"unsupported nrf_discovery directive: {name}")

def requiredSetting {α : Type} (value : Option α) (name : String) : Except Stop α :=
  orFail value (.lowerErr s!"nrf_discovery: {name} is required")

def lowerNrfDiscovery (args : List String) (children : List Node) :
    Except Stop NrfDiscovery := do
  rejectArguments "nrf_discovery" args
  let draft ← foldDirectives applyNrfDiscoveryDirective
    (fun _ => "nrf_discovery block: nested blocks are not supported") {} children
  let apiRoot ← requiredSetting draft.apiRoot "api_root"
  let targetNfType ← requiredSetting draft.targetNfType "target_nf_type"
  let requesterNfType ← requiredSetting draft.requesterNfType "requester_nf_type"
  let serviceName ← requiredSetting draft.serviceName "service_name"
  let endpointScheme ← requiredSetting draft.endpointScheme "endpoint_scheme"
  pure
    { apiRoot
      targetNfType
      requesterNfType
      serviceName
      endpointScheme
      timeout := draft.timeout.getD (Duration.fromSecs 3)
      staleIfError := draft.staleIfError.getD (Duration.fromSecs 60)
      tlsOptions := draft.tlsOptions }

inductive UpstreamHealthCheckKind where
  | tcp
  | http

structure UpstreamHealthCheckDraft where
  checkType : Option UpstreamHealthCheckKind := none
  timeout : Option Duration := none
  interval : Option Duration := none
  consecutiveSuccess : Option UInt64 := none
  consecutiveFailure : Option UInt64 := none
  host : Option String := none
  path : Option String := none
  useTls : Option Bool := none

def healthCheckKind (value : String) : Except Stop UpstreamHealthCheckKind :=
  if value = "tcp" then .ok .tcp
  else if value = "http" then .ok .http
  else .error (.lowerErr s!"health_check type: unsupported value `{value}`; expected tcp|http")

def healthCheckDuration (slot : Option Duration) (directive : String) (args : List String) :
    Except Stop (Option Duration) := do
  let value ← parseSingleDurationDirective args directive
  ensureNonZeroDuration value directive
  setOnce slot value directive

def healthCheckCount (slot : Option UInt64) (directive : String) (args : List String) :
    Except Stop (Option UInt64) := do
  let value ← parsePositiveUsize args directive
  setOnce slot value directive

def applyUpstreamHealthCheckDirective (draft : UpstreamHealthCheckDraft) (name : String)
    (args : List String) : Except Stop UpstreamHealthCheckDraft :=
  if name = "type" then do
    let value ← parseExactlyOneArgument args "health_check type"
    let kind ← healthCheckKind value
    pure { draft with checkType := ← setOnce draft.checkType kind "health_check type" }
  else if name = "timeout" then do
    pure { draft with timeout := ← healthCheckDuration draft.timeout "health_check timeout" args }
  else if name = "interval" then do
    let slot ← healthCheckDuration draft.interval "health_check interval" args
    pure { draft with interval := slot }
  else if name = "consecutive_success" then do
    let slot ← healthCheckCount draft.consecutiveSuccess "health_check consecutive_success" args
    pure { draft with consecutiveSuccess := slot }
  else if name = "consecutive_failure" then do
    let slot ← healthCheckCount draft.consecutiveFailure "health_check consecutive_failure" args
    pure { draft with consecutiveFailure := slot }
  else if name = "host" then do
    let value ← parseExactlyOneArgument args "health_check host"
    rejectIf (Text.isBlank value) (.lowerErr "health_check host: value cannot be empty")
    pure { draft with host := ← setOnce draft.host value "health_check host" }
  else if name = "path" then do
    let value ← parseExactlyOneArgument args "health_check path"
    pure { draft with path := ← setOnce draft.path value "health_check path" }
  else if name = "use_tls" then do
    let switch ← getDirectiveSwitch name args
    pure { draft with useTls := ← setOnce draft.useTls (switch == .on) "health_check use_tls" }
  else .error (.lowerErr s!"unsupported health_check directive: {name}")

def healthCheckType (draft : UpstreamHealthCheckDraft) : Except Stop UpstreamHealthCheckType :=
  match draft.checkType.getD .tcp with
  | .tcp => do
    rejectIf (draft.host.isSome || draft.path.isSome || draft.useTls.isSome)
      (.lowerErr "health_check: host/path/use_tls are only supported for type http")
    pure .tcp
  | .http => do
    let host ← orFail draft.host (.lowerErr "health_check: host is required for type http")
    let path := draft.path.getD "/"
    rejectIf path.isEmpty (.lowerErr "health_check: path cannot be empty")
    pure (.http host path (draft.useTls.getD false))

def lowerUpstreamHealthCheck (args : List String) (children : List Node) :
    Except Stop UpstreamHealthCheck := do
  rejectArguments "health_check" args
  let draft ← foldDirectives applyUpstreamHealthCheckDirective
    (fun nested => s!"health_check block: nested blocks are not supported: {nested}") {} children
  let checkType ← healthCheckType draft
  pure
    { checkType
      timeout := draft.timeout.getD (Duration.fromSecs 1)
      interval := draft.interval.getD (Duration.fromSecs 5)
      consecutiveSuccess := draft.consecutiveSuccess.getD 1
      consecutiveFailure := draft.consecutiveFailure.getD 1 }

def parseUpstreamPolicy (args : List String) : Except Stop UpstreamSelectionPolicy :=
  match args with
  | [value] =>
    if value = "round_robin" then .ok .roundRobin
    else if value = "random" then .ok .random
    else if value = "consistent_hash" then .ok .consistentHash
    else .error (.lowerErr <| s!"policy: unsupported upstream selection policy `{value}`; " ++
      "expected round_robin|random|consistent_hash")
  | [] => .error (.lowerErr "policy: expected 1 argument")
  | _ => .error (.lowerErr "policy: expected exactly 1 argument")

def parseUpstreamHashKey (platform : Platform) (args : List String) : Except Stop UpstreamHashKey :=
  let unexpected : Except Stop UpstreamHashKey :=
    .error (.lowerErr "hash_key: expected `client_ip` or `header <name>`")
  match args with
  | [value] => if value = "client_ip" then .ok .clientIp else unexpected
  | [kind, name] =>
    if kind = "header" then do
      let _ ← orFail (platform.headerNameFromBytes name)
        (.lowerErr s!"hash_key: invalid HTTP header name `{name}`")
      pure (.header name)
    else unexpected
  | _ => unexpected

def isUrlMark (char : Char) : Bool :=
  char == '/' || char == '?' || char == '#' || char == '@'

/-- `str::rsplit_once`. -/
def rsplitOnce (separator : Char) (text : List Char) : Option (List Char × List Char) :=
  if text.contains separator then
    let after := text.rtakeWhile (· ≠ separator)
    some (text.take (text.length - (after.length + 1)), after)
  else none

def splitUpstreamHostPort (raw : String) : Option (String × String) :=
  match raw.toList with
  | '[' :: rest =>
    if rest.contains ']' then
      let host := rest.takeWhile (· ≠ ']')
      match rest.drop (host.length + 1) with
      | ':' :: port =>
        if host.isEmpty || port.isEmpty || port.any isUrlMark then none
        else some (String.ofList host, String.ofList port)
      | _ => none
    else none
  | text =>
    match rsplitOnce ':' text with
    | some (host, port) =>
      if host.isEmpty || port.isEmpty || host.any isUrlMark ||
          port.any (fun char => isUrlMark char || char == ':') then none
      else some (String.ofList host, String.ofList port)
    | none => none

def upstreamServerParameter (weight : Option UInt16) (parameter : String) :
    Except Stop (Option UInt16) := do
  let value ← orFail (Text.afterStart "weight=" parameter)
    (.lowerErr s!"upstream server: unsupported parameter `{parameter}`")
  rejectIf weight.isSome (.lowerErr "upstream server: weight is duplicated")
  let parsed ← orFail (parseU16 value) (.lowerErr s!"upstream server: invalid weight `{value}`")
  rejectIf (parsed == 0) (.lowerErr "upstream server: weight must be greater than zero")
  pure (some parsed)

def parseUpstreamServer (args : List String) : Except Stop UpstreamServer :=
  match args with
  | [] => .error (.lowerErr "upstream server: expected host:port")
  | raw :: parameters => do
    let (host, port) ← orFail (splitUpstreamHostPort raw)
      (.lowerErr s!"upstream server: expected host:port, got `{raw}`")
    rejectIf host.isEmpty (.lowerErr s!"upstream server: missing host in `{raw}`")
    let port ← orFail (parseU16 port) (.lowerErr s!"upstream server: invalid port in `{raw}`")
    let weight ← parameters.foldlM upstreamServerParameter none
    pure { host, port, weight := weight.getD 1 }

def applyUpstreamDirective (platform : Platform) (upstream : UpstreamBlock) (name : String)
    (args : List String) : Except Stop UpstreamBlock :=
  if name = "server" then do
    pure { upstream with servers := upstream.servers ++ [← parseUpstreamServer args] }
  else if name = "policy" then do
    pure { upstream with policy := ← parseUpstreamPolicy args }
  else if name = "hash_key" then do
    rejectIf upstream.hashKey.isSome (.lowerErr "hash_key: directive is duplicated")
    pure { upstream with hashKey := some (← parseUpstreamHashKey platform args) }
  else .error (.lowerErr s!"unsupported upstream directive: {name}")

def upstreamNode (platform : Platform) (upstream : UpstreamBlock) :
    Node → Except Stop UpstreamBlock
  | .directive name args => applyUpstreamDirective platform upstream name args
  | .block name args children =>
    if name = "health_check" then do
      rejectIf upstream.healthCheck.isSome
        (.lowerErr "upstream block: health_check block is duplicated")
      pure { upstream with healthCheck := some (← lowerUpstreamHealthCheck args children) }
    else if name = "nrf_discovery" then do
      rejectIf upstream.nrfDiscovery.isSome
        (.lowerErr "upstream block: nrf_discovery block is duplicated")
      pure { upstream with nrfDiscovery := some (← lowerNrfDiscovery args children) }
    else .error (.lowerErr s!"upstream block: nested blocks are not supported: {name}")

def upstreamName (args : List String) : Except Stop String :=
  match args with
  | [name] =>
    if Text.isBlank name then .error (.lowerErr "upstream block: expected exactly 1 argument")
    else .ok name
  | [] => .error (.lowerErr "upstream block: expected upstream name")
  | _ => .error (.lowerErr "upstream block: expected exactly 1 argument")

def lowerUpstream (platform : Platform) (args : List String) (children : List Node) :
    Except Stop UpstreamBlock := do
  let name ← upstreamName args
  children.foldlM (upstreamNode platform)
    { allowEmpty := false
      name
      policy := .roundRobin
      hashKey := none
      servers := []
      nrfDiscovery := none
      healthCheck := none }

end Ngxora.Config
