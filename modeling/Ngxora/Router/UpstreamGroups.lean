/-
Compiling upstream groups: endpoints, balancing, health checks and NRF settings.
-/

import Ngxora.Router.Types

namespace Ngxora.Router

open Text Machine Bool List Option Results

def normalizeUpstreamName (name : String) : String :=
  toAsciiLowercase (trimEndMatches '.' name)

def compileUpstreamServer (server : UpstreamServer) : Except String CompiledUpstreamServer := do
  rejectIf (isBlank server.host) "upstream server host cannot be empty"
  rejectIf (server.port == 0)
    s!"upstream server `{server.host}` port must be greater than zero"
  pure { host := server.host, port := server.port, weight := server.weight }

variable (platform : Platform)

def compileHealthCheckType : UpstreamHealthCheckType → Except String HealthCheckType
  | .tcp => .ok .tcp
  | .http host path useTls => do
    rejectIf (isBlank host) "health_check http host cannot be empty"
    match platform.uriParse path with
    | .error err => .error s!"invalid health_check path `{path}`: {err}"
    | .ok uri =>
      rejectIf (uri.scheme.isSome || uri.authority.isSome || !startsWith "/" path)
        s!"health_check path `{path}` must be an origin-form path starting with `/`"
      pure (.http host path useTls)

def compileUpstreamHealthCheck (healthCheck : UpstreamHealthCheck) :
    Except String CompiledHealthCheck := do
  rejectIf healthCheck.timeout.isZero "health_check timeout must be greater than zero"
  rejectIf healthCheck.interval.isZero "health_check interval must be greater than zero"
  rejectIf (healthCheck.consecutiveSuccess == 0)
    "health_check consecutive_success must be greater than zero"
  rejectIf (healthCheck.consecutiveFailure == 0)
    "health_check consecutive_failure must be greater than zero"
  let checkType ← compileHealthCheckType platform healthCheck.checkType
  pure
    { checkType
      timeout := healthCheck.timeout
      interval := healthCheck.interval
      consecutiveSuccess := healthCheck.consecutiveSuccess
      consecutiveFailure := healthCheck.consecutiveFailure }

def validateApiRoot (apiRoot : Url) : Except String Unit := do
  rejectIf (!apiRoot.isHttp) "nrf_discovery api_root must use http or https"
  rejectIf (apiRoot.host.isNone || apiRoot.cannotBeABase)
    "nrf_discovery api_root must be an absolute HTTP URL"
  rejectIf (apiRoot.query.isSome || apiRoot.fragment.isSome)
    "nrf_discovery api_root must not contain a query or fragment"

def certificatePaired (options : UpstreamSslOptions) : Bool :=
  options.clientCertificate.isSome == options.clientCertificateKey.isSome

def compileNrfDiscovery (discovery : NrfDiscovery) : Except String CompiledNrfDiscovery :=
  match platform.urlParse discovery.apiRoot with
  | .error err => .error s!"nrf_discovery api_root is invalid: {err}"
  | .ok apiRoot => do
    validateApiRoot apiRoot
    rejectIf discovery.timeout.isZero "nrf_discovery timeout must be greater than zero"
    rejectIf discovery.staleIfError.isZero
      "nrf_discovery stale_if_error must be greater than zero"
    rejectIf (!certificatePaired discovery.tlsOptions)
      "nrf_discovery ssl_certificate and ssl_certificate_key must be configured together"
    pure
      { apiRoot
        targetNfType := toAsciiUppercase (trim discovery.targetNfType)
        requesterNfType := toAsciiUppercase (trim discovery.requesterNfType)
        serviceName := trim discovery.serviceName
        endpointScheme := discovery.endpointScheme
        timeout := discovery.timeout
        staleIfError := discovery.staleIfError
        tlsOptions := discovery.tlsOptions }

/-- The step of the two checks of the weights, which report errors of different types. -/
def weightStep {ε : Type} (report : String → ε) (name : String) (total : UInt32)
    (server : UpstreamServer) : Except ε UInt32 := do
  rejectIf (server.weight == 0) (report
    s!"upstream `{name}` backend `{server.host}:{server.port.toNat}` weight must be greater than zero")
  pure (total + server.weight.toUInt32)

def checkWeights {ε : Type} (report : String → ε) (upstream : UpstreamBlock) : Except ε Unit := do
  let total ← upstream.servers.foldlM (weightStep report upstream.name) 0
  rejectIf (decide (total > maxU16.toUInt32))
    (report s!"upstream `{upstream.name}` total backend weight must not exceed 65535")

/-- The check of `compile_upstreams`. -/
def compileWeights : UpstreamBlock → Except String Unit := checkWeights id

def validateUpstream (upstream : UpstreamBlock) : Except String Unit := do
  rejectIf (upstream.servers.isEmpty && upstream.nrfDiscovery.isNone && !upstream.allowEmpty)
    s!"upstream `{upstream.name}` must define at least one server or nrf_discovery"
  rejectIf (!upstream.servers.isEmpty && upstream.nrfDiscovery.isSome)
    s!"upstream `{upstream.name}` cannot combine server directives with nrf_discovery"
  rejectIf (upstream.nrfDiscovery.isSome && upstream.healthCheck.isNone)
    s!"upstream `{upstream.name}` with nrf_discovery must define health_check"
  compileWeights upstream
  rejectIf (upstream.hashKey.isSome && upstream.policy != .consistentHash)
    s!"upstream `{upstream.name}` hash_key requires policy consistent_hash"
  match upstream.hashKey with
  | some (.header name) =>
    rejectIf (platform.headerNameFromBytes name).isNone
      s!"upstream `{upstream.name}` hash_key has invalid HTTP header name `{name}`"
  | _ => pure ()

def compileUpstreamGroup (upstream : UpstreamBlock) : Except String CompiledUpstreamGroup := do
  let servers ← upstream.servers.mapM compileUpstreamServer
  let nrfDiscovery ← Results.traverse (compileNrfDiscovery platform) upstream.nrfDiscovery
  let healthCheck ← Results.traverse (compileUpstreamHealthCheck platform) upstream.healthCheck
  pure
    { allowEmpty := upstream.allowEmpty
      name := upstream.name
      policy := upstream.policy
      hashKey := upstream.hashKey
      servers
      nrfDiscovery
      healthCheck }

def compileUpstream (compiled : UpstreamTable) (upstream : UpstreamBlock) :
    Except String UpstreamTable := do
  let name := normalizeUpstreamName upstream.name
  rejectIf name.isEmpty "upstream name cannot be empty"
  validateUpstream platform upstream
  let group ← compileUpstreamGroup platform upstream
  rejectIf (compiled.lookup name).isSome s!"upstream `{upstream.name}` is duplicated"
  pure (compiled.insert name group)

def compileUpstreams (upstreams : List UpstreamBlock) : Except String UpstreamTable :=
  upstreams.foldlM (compileUpstream platform) ∅

def weightSum (servers : List UpstreamServer) : UInt32 :=
  servers.foldl (fun total server => total + server.weight.toUInt32) 0

section Weights

variable {ε : Type} {report : String → ε} {name : String} {servers : List UpstreamServer}
  {start total : UInt32}

lemma weightSteps_eq_ok : servers.foldlM (weightStep report name) start = .ok total ↔
    (∀ server ∈ servers, server.weight ≠ 0) ∧
      servers.foldl (fun total server => total + server.weight.toUInt32) start = total := by
  induction servers generalizing start with
  | nil => simp
  | cons server rest ih =>
    rw [foldlM_cons_eq_ok, forall_mem_cons, foldl_cons]
    constructor
    · rintro ⟨next, stepOk, restOk⟩
      obtain ⟨_, pos, same⟩ := bind_eq_ok.mp stepOk
      cases same
      obtain ⟨restPositive, sum⟩ := ih.mp restOk
      exact ⟨⟨by simpa using pos, restPositive⟩, sum⟩
    · rintro ⟨⟨pos, restPositive⟩, sum⟩
      have ok : (server.weight == 0) = false := by simpa using pos
      exact ⟨start + server.weight.toUInt32, by rw [weightStep, ok]; rfl,
        ih.mpr ⟨restPositive, sum⟩⟩

lemma checkWeights_eq_ok {upstream : UpstreamBlock} {done : Unit} :
    checkWeights report upstream = .ok done ↔ (∀ server ∈ upstream.servers, server.weight ≠ 0) ∧
        weightSum upstream.servers ≤ maxU16.toUInt32 := by
  unfold checkWeights
  simp only [bind_eq_ok, weightSteps_eq_ok, rejectIf_eq_ok, decide_eq_false_iff_not]
  constructor
  · rintro ⟨_, ⟨pos, rfl⟩, bound⟩
    exact ⟨pos, UInt32.not_lt.mp bound⟩
  · rintro ⟨pos, bound⟩
    exact ⟨_, ⟨pos, rfl⟩, UInt32.not_lt.mpr bound⟩

end Weights

/-- What `validate_upstream` checks. -/
structure UpstreamValid (platform : Platform) (upstream : UpstreamBlock) : Prop where
  nonempty : (upstream.servers.isEmpty && upstream.nrfDiscovery.isNone &&
    !upstream.allowEmpty) = false
  oneSource : (!upstream.servers.isEmpty && upstream.nrfDiscovery.isSome) = false
  checked : (upstream.nrfDiscovery.isSome && upstream.healthCheck.isNone) = false
  weighted : ∀ server ∈ upstream.servers, server.weight ≠ 0
  bounded : weightSum upstream.servers ≤ maxU16.toUInt32
  hashed : (upstream.hashKey.isSome && upstream.policy != .consistentHash) = false
  header : ∀ name, upstream.hashKey = some (.header name) →
    (platform.headerNameFromBytes name).isNone = false

variable {platform : Platform} {upstream : UpstreamBlock}

variable {done : Unit} {group : CompiledUpstreamGroup}

lemma validateUpstream_eq_ok :
    validateUpstream platform upstream = .ok done ↔ UpstreamValid platform upstream := by
  constructor
  · intro ok
    obtain ⟨_, ne, _, oneSource, _, checked, ok⟩ := bind₃_eq_ok.mp ok
    obtain ⟨_, weights, _, hashed, ok⟩ := bind₂_eq_ok.mp ok
    obtain ⟨weighted, bound⟩ := checkWeights_eq_ok.mp weights
    rw [rejectIf_eq_ok] at ne oneSource checked hashed
    refine ⟨ne, oneSource, checked, weighted, bound, hashed, ?_⟩
    intro name isHeader
    rw [isHeader] at ok
    exact rejectIf_eq_ok.mp ok
  · intro valid
    have weights : compileWeights upstream = .ok () :=
      checkWeights_eq_ok.mpr ⟨valid.weighted, valid.bounded⟩
    simp only [validateUpstream, valid.nonempty, valid.oneSource, valid.checked, weights,
      valid.hashed, rejectIf_false, ok_bind]
    cases key : upstream.hashKey with
    | none => rfl
    | some source =>
      cases source with
      | clientIp => rfl
      | header name => exact rejectIf_eq_ok.mpr (valid.header name key)

lemma fields_of_server {server : UpstreamServer} {built : CompiledUpstreamServer}
    (ok : compileUpstreamServer server = .ok built) :
    isBlank server.host = false ∧ server.port ≠ 0 ∧
      built = { host := server.host, port := server.port, weight := server.weight } := by
  obtain ⟨_, hostOk, _, portOk, same⟩ := bind₂_eq_ok.mp ok
  cases same
  exact ⟨rejectIf_eq_ok.mp hostOk, by simpa using portOk, rfl⟩

lemma fields_of_healthCheck {check : UpstreamHealthCheck} {built : CompiledHealthCheck}
    (ok : compileUpstreamHealthCheck platform check = .ok built) :
    (built.timeout.isZero = false ∧ built.interval.isZero = false ∧
        built.consecutiveSuccess ≠ 0 ∧ built.consecutiveFailure ≠ 0) ∧
      compileHealthCheckType platform check.checkType = .ok built.checkType ∧
      built.timeout = check.timeout ∧ built.interval = check.interval ∧
      built.consecutiveSuccess = check.consecutiveSuccess ∧
      built.consecutiveFailure = check.consecutiveFailure := by
  obtain ⟨_, timeoutOk, _, intervalOk, _, successOk, ok⟩ := bind₃_eq_ok.mp ok
  obtain ⟨_, failureOk, checkType, typeOk, same⟩ := bind₂_eq_ok.mp ok
  cases same
  exact ⟨⟨rejectIf_eq_ok.mp timeoutOk, rejectIf_eq_ok.mp intervalOk, by simpa using successOk,
    by simpa using failureOk⟩, typeOk, rfl, rfl, rfl, rfl⟩

lemma compileHealthCheckType_eq_ok {kind : UpstreamHealthCheckType} {built : HealthCheckType}
    (succeeds : compileHealthCheckType platform kind = .ok built) :
    (kind = .tcp ∧ built = .tcp) ∨
      ∃ host path useTls, kind = .http host path useTls ∧ built = .http host path useTls ∧
        isBlank host = false ∧ startsWith "/" path = true := by
  cases kind with
  | tcp =>
    cases succeeds
    exact .inl ⟨rfl, rfl⟩
  | http host path useTls =>
    obtain ⟨_, hostOk, succeeds⟩ := bind_eq_ok.mp succeeds
    cases parsed : platform.uriParse path with
    | error err => simp [parsed] at succeeds
    | ok uri =>
      rw [parsed] at succeeds
      obtain ⟨_, formOk, same⟩ := bind_eq_ok.mp succeeds
      cases same
      simp only [rejectIf_eq_ok, or_eq_false_iff, not_eq_false'] at formOk hostOk
      exact .inr ⟨host, path, useTls, rfl, rfl, hostOk, formOk.2⟩

lemma compileNrfDiscovery_eq_ok {discovery : NrfDiscovery} {built : CompiledNrfDiscovery} :
    compileNrfDiscovery platform discovery = .ok built ↔
      platform.urlParse discovery.apiRoot = .ok built.apiRoot ∧
      (validateApiRoot built.apiRoot = .ok () ∧ built.timeout.isZero = false ∧
        built.staleIfError.isZero = false ∧ certificatePaired built.tlsOptions = true) ∧
      built.targetNfType = toAsciiUppercase (trim discovery.targetNfType) ∧
      built.requesterNfType = toAsciiUppercase (trim discovery.requesterNfType) ∧
      built.serviceName = trim discovery.serviceName ∧
      built.endpointScheme = discovery.endpointScheme ∧
      built.timeout = discovery.timeout ∧ built.staleIfError = discovery.staleIfError ∧
      built.tlsOptions = discovery.tlsOptions := by
  unfold compileNrfDiscovery
  constructor
  · intro succeeds
    cases parsed : platform.urlParse discovery.apiRoot with
    | error err => simp [parsed] at succeeds
    | ok apiRoot =>
      rw [parsed] at succeeds
      obtain ⟨_, rootOk, _, timeoutOk, _, staleOk, succeeds⟩ := bind₃_eq_ok.mp succeeds
      obtain ⟨_, pairedOk, same⟩ := bind_eq_ok.mp succeeds
      cases same
      exact ⟨rfl, ⟨rootOk, rejectIf_eq_ok.mp timeoutOk, rejectIf_eq_ok.mp staleOk,
        by simpa using pairedOk⟩, rfl, rfl, rfl, rfl, rfl, rfl, rfl⟩
  · obtain ⟨apiRoot, target, requester, service, scheme, timeout, stale, tls⟩ := built
    rintro ⟨parsed, ⟨rootOk, timeoutOk, staleOk, pairedOk⟩, rfl, rfl, rfl, rfl, rfl, rfl, rfl⟩
    simp only at rootOk timeoutOk staleOk pairedOk
    simp [parsed, rootOk, timeoutOk, staleOk, pairedOk]

lemma plain_of_validateApiRoot {apiRoot : Url} (ok : validateApiRoot apiRoot = .ok done) :
    apiRoot.isHttp = true ∧ apiRoot.query = none ∧ apiRoot.fragment = none := by
  obtain ⟨_, schemeOk, _, _, rest⟩ := bind₂_eq_ok.mp ok
  simp only [rejectIf_eq_ok, or_eq_false_iff, not_eq_false', isSome_eq_false_iff,
    isNone_iff_eq_none] at schemeOk rest
  exact ⟨schemeOk, rest⟩

def groupKey (group : CompiledUpstreamGroup) : String := normalizeUpstreamName group.name

structure CompilesTo (platform : Platform) (upstream : UpstreamBlock)
    (group : CompiledUpstreamGroup) : Prop where
  named : (normalizeUpstreamName upstream.name).isEmpty = false
  valid : validateUpstream platform upstream = .ok ()
  compiled : compileUpstreamGroup platform upstream = .ok group

lemma compileUpstreamGroup_eq_ok : compileUpstreamGroup platform upstream = .ok group ↔
    group.allowEmpty = upstream.allowEmpty ∧ group.name = upstream.name ∧
      group.policy = upstream.policy ∧ group.hashKey = upstream.hashKey ∧
      upstream.servers.mapM compileUpstreamServer = .ok group.servers ∧
      Results.traverse (compileNrfDiscovery platform) upstream.nrfDiscovery =
        .ok group.nrfDiscovery ∧
      Results.traverse (compileUpstreamHealthCheck platform) upstream.healthCheck =
        .ok group.healthCheck := by
  constructor
  · intro ok
    obtain ⟨servers, serversOk, nrf, nrfOk, check, checkOk, same⟩ := bind₃_eq_ok.mp ok
    cases same
    exact ⟨rfl, rfl, rfl, rfl, serversOk, nrfOk, checkOk⟩
  · obtain ⟨allowEmpty, name, policy, hashKey, servers, nrf, check⟩ := group
    rintro ⟨rfl, rfl, rfl, rfl, serversOk, nrfOk, checkOk⟩
    simp only at serversOk nrfOk checkOk
    simp only [compileUpstreamGroup, serversOk, nrfOk, checkOk, ok_bind, pure_eq_ok]

lemma CompilesTo.name_eq (compiles : CompilesTo platform upstream group) :
    group.name = upstream.name :=
  (compileUpstreamGroup_eq_ok.mp compiles.compiled).2.1

lemma compileUpstream_eq_ok (table : UpstreamTable) (upstream : UpstreamBlock)
    (next : UpstreamTable) : compileUpstream platform table upstream = .ok next ↔
      ∃ group, CompilesTo platform upstream group ∧ table.lookup (groupKey group) = none ∧
        next = table.insert (groupKey group) group := by
  constructor
  · intro ok
    obtain ⟨_, named, _, valid, group, built, ok⟩ := bind₃_eq_ok.mp ok
    obtain ⟨_, absent, same⟩ := bind_eq_ok.mp ok
    cases same
    have compiles : CompilesTo platform upstream group := ⟨rejectIf_eq_ok.mp named, valid, built⟩
    rw [rejectIf_eq_ok, isSome_eq_false_iff, isNone_iff_eq_none] at absent
    refine ⟨group, compiles, ?_, ?_⟩ <;> rw [groupKey, compiles.name_eq]
    exact absent
  · rintro ⟨group, compiles, absent, same⟩
    rw [groupKey, compiles.name_eq] at absent same
    subst same
    simp [compileUpstream, compiles.named, compiles.valid, compiles.compiled, absent]

lemma compileUpstreams_eq_ok {upstreams : List UpstreamBlock} {table : UpstreamTable} :
    compileUpstreams platform upstreams = .ok table ↔
      ∃ groups, List.Forall₂ (CompilesTo platform) upstreams groups ∧
        (groups.map groupKey).Nodup ∧ table = Table.indexBy groupKey groups :=
  Table.foldlM_insert_eq_ok groupKey compileUpstream_eq_ok

structure ValidateErr where
  message : String

/-- The check of `Ir::validate`. -/
def validateWeights : UpstreamBlock → Except ValidateErr Unit := checkWeights ValidateErr.mk

/-- An addition of the fold leaves 32 bits; the fold ends at a weight of zero. -/
def weightsOverflow : UInt32 → List UpstreamServer → Bool
  | _, [] => false
  | total, server :: rest =>
    server.weight != 0 && (decide (2 ^ 32 ≤ total.toNat + server.weight.toNat) ||
      weightsOverflow (total + server.weight.toUInt32) rest)

def weightTotal (servers : List UpstreamServer) : Nat :=
  (servers.map (·.weight.toNat)).sum

def positiveStart (servers : List UpstreamServer) : List UpstreamServer :=
  servers.takeWhile (·.weight != 0)

lemma weightSum_toNat (servers : List UpstreamServer) (start : UInt32) :
    (servers.foldl (fun total server => total + server.weight.toUInt32) start).toNat =
      (start.toNat + weightTotal servers) % 2 ^ 32 := by
  induction servers generalizing start with
  | nil => exact (Nat.mod_eq_of_lt start.toNat_lt).symm
  | cons server rest ih =>
    rw [foldl_cons, ih, UInt32.toNat_add, UInt16.toNat_toUInt32, Nat.mod_add_mod, Nat.add_assoc]
    rfl

lemma weightsOverflow_iff {servers : List UpstreamServer} {start : UInt32} :
    weightsOverflow start servers = true ↔
      2 ^ 32 ≤ start.toNat + weightTotal (positiveStart servers) := by
  induction servers generalizing start with
  | nil => simpa [weightsOverflow, weightTotal, positiveStart] using start.toNat_lt
  | cons server rest ih =>
    by_cases zero : server.weight = 0
    · simpa [weightsOverflow, weightTotal, positiveStart, zero] using start.toNat_lt
    · have total : weightTotal (positiveStart (server :: rest)) =
          server.weight.toNat + weightTotal (positiveStart rest) := by
        simp [positiveStart, weightTotal, zero]
      rw [weightsOverflow, total, bne_iff_ne.mpr zero, Bool.true_and, Bool.or_eq_true,
        decide_eq_true_eq, ih, UInt32.toNat_add, UInt16.toNat_toUInt32]
      omega

lemma sum_le_limit_iff {servers : List UpstreamServer} (fits : weightTotal servers < 2 ^ 32) :
    weightSum servers ≤ maxU16.toUInt32 ↔ weightTotal servers ≤ 65535 := by
  rw [UInt32.le_iff_toNat_le, weightSum, weightSum_toNat, UInt32.toNat_zero, Nat.zero_add,
    Nat.mod_eq_of_lt fits]
  rfl

/-- No weight is zero and their sum fits 16 bits. -/
def WithinLimit (servers : List UpstreamServer) : Prop :=
  (∀ server ∈ servers, server.weight ≠ 0) ∧ weightTotal servers ≤ 65535

/-- Both checks are exact and stay in range exactly when the weights before the
first zero add up to less than 32 bits hold. -/
theorem weight_limit_exact_iff (upstream : UpstreamBlock) :
    ((validateWeights upstream = .ok () ↔ WithinLimit upstream.servers) ∧
        (compileWeights upstream = .ok () ↔ WithinLimit upstream.servers) ∧
        weightsOverflow 0 upstream.servers = false) ↔
      weightTotal (positiveStart upstream.servers) < 2 ^ 32 := by
  have inRange : weightsOverflow 0 upstream.servers = false ↔
      weightTotal (positiveStart upstream.servers) < 2 ^ 32 := by
    rw [← not_eq_true, weightsOverflow_iff, not_le, UInt32.toNat_zero, Nat.zero_add]
  constructor
  · rintro ⟨_, _, kept⟩
    exact inRange.mp kept
  · intro fits
    have exact' : ((∀ server ∈ upstream.servers, server.weight ≠ 0) ∧
        weightSum upstream.servers ≤ maxU16.toUInt32) ↔ WithinLimit upstream.servers := by
      refine and_congr_right fun positive => sum_le_limit_iff ?_
      rwa [positiveStart, takeWhile_eq_self_iff.mpr (by simpa using positive)] at fits
    exact ⟨checkWeights_eq_ok.trans exact', checkWeights_eq_ok.trans exact', inRange.mpr fits⟩

namespace ManyServers

def wide : UpstreamBlock :=
  { allowEmpty := false, name := "wide", policy := .roundRobin, hashKey := none
    nrfDiscovery := none, healthCheck := none
    servers := List.replicate 65537 { host := "a", port := 80, weight := 65535 } ++
      [{ host := "a", port := 80, weight := 1 }] }

end ManyServers

open ManyServers in
/-- The sum wraps to zero, and both checks accept the weights. -/
theorem wrapped_weights_accepted :
    validateWeights wide = .ok () ∧ compileWeights wide = .ok () ∧
      weightTotal wide.servers = 2 ^ 32 := by
  have total : weightTotal wide.servers = 2 ^ 32 := by
    rw [weightTotal, wide, map_append, map_replicate, sum_append, sum_replicate]
    rfl
  have positive : ∀ server ∈ wide.servers, server.weight ≠ 0 := by
    simp only [wide, mem_append, mem_replicate, mem_singleton]
    rintro server (⟨_, rfl⟩ | rfl) <;> decide
  have bounded : weightSum wide.servers ≤ maxU16.toUInt32 := by
    rw [UInt32.le_iff_toNat_le, weightSum, weightSum_toNat, total]
    decide
  exact ⟨checkWeights_eq_ok.mpr ⟨positive, bounded⟩, checkWeights_eq_ok.mpr ⟨positive, bounded⟩,
    total⟩

end Ngxora.Router
