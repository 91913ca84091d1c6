/-
Upstream groups exported and imported again.
-/

import Ngxora.Control.Snapshot
import Ngxora.Grpc.Decode
import Ngxora.Grpc.Encode
import Ngxora.Reference
import Ngxora.Router.Blocks

namespace Ngxora.Grpc

open Reference Control Machine Text Table List Option

open Proto (WireEnum)
open Results Router

/-- The times are whole milliseconds and the counts fit 32 bits. -/
@[mk_iff]
structure ExportableCheck (check : CompiledHealthCheck) : Prop where
  timeout : check.timeout.WholeMillis
  interval : check.interval.WholeMillis
  success : check.consecutiveSuccess.toNat < 2 ^ 32
  failure : check.consecutiveFailure.toNat < 2 ^ 32

@[mk_iff]
structure ExportableNrf (nrf : CompiledNrfDiscovery) : Prop where
  target : nrf.targetNfType ≠ ""
  requester : nrf.requesterNfType ≠ ""
  service : nrf.serviceName ≠ ""
  timeout : nrf.timeout.WholeMillis
  staleIfError : nrf.staleIfError.WholeMillis
  apiRoot : nrf.apiRoot.path = "/" ∨ endsWith "/" nrf.apiRoot.path = false

/-- A group comes back as the same value exactly when it is exportable. -/
@[mk_iff]
structure ExportableGroup (group : CompiledUpstreamGroup) : Prop where
  name : trim group.name = group.name
  healthCheck : ∀ check ∈ group.healthCheck, ExportableCheck check
  nrfDiscovery : ∀ nrf ∈ group.nrfDiscovery, ExportableNrf nrf

instance (check : CompiledHealthCheck) : Decidable (ExportableCheck check) :=
  decidable_of_iff' _ (exportableCheck_iff check)

instance (nrf : CompiledNrfDiscovery) : Decidable (ExportableNrf nrf) :=
  decidable_of_iff' _ (exportableNrf_iff nrf)

instance (group : CompiledUpstreamGroup) : Decidable (ExportableGroup group) :=
  decidable_of_iff' _ (exportableGroup_iff group)

private lemma toUInt32_ne_zero {value : UInt16} (pos : value ≠ 0) : value.toUInt32 ≠ 0 := by
  intro zero
  apply pos
  have narrowed := congrArg UInt32.toUInt16 zero
  simpa using narrowed

private lemma upstreamBackendFromProto_encode {server : UpstreamServer}
    {built : CompiledUpstreamServer}
    (compiles : compileUpstreamServer server = .ok built) (weighted : server.weight ≠ 0) :
    upstreamBackendFromProto (protoUpstreamBackendFromRuntime built) = .ok server := by
  obtain ⟨hostOk, portOk, same⟩ := fields_of_server compiles
  subst same
  have portSent := beq_eq_false_iff_ne.mpr (toUInt32_ne_zero portOk)
  simp [upstreamBackendFromProto, protoUpstreamBackendFromRuntime, hostOk, portSent,
    toUInt32_ne_zero weighted]

variable {platform : Platform} {duration : Duration} {group : CompiledUpstreamGroup}

private lemma upstreamHashKeyFromProto_encode {key : UpstreamHashKey}
    (known : ∀ name, key = .header name → (platform.headerNameFromBytes name).isNone = false) :
    upstreamHashKeyFromProto platform (protoUpstreamHashKeyFromRuntime key) = .ok key := by
  cases key with
  | clientIp => rfl
  | header name => simp [upstreamHashKeyFromProto, protoUpstreamHashKeyFromRuntime, known name rfl]

private lemma healthCheckType_roundTrip {kind : UpstreamHealthCheckType} {built : HealthCheckType}
    (compiles : compileHealthCheckType platform kind = .ok built) :
    (match built with
      | .tcp => healthCheckTypeFromProto .tcp
      | .http host path useTls => healthCheckTypeFromProto (.http host path useTls)) =
      .ok kind := by
  rcases compileHealthCheckType_eq_ok compiles with ⟨rfl, rfl⟩ |
    ⟨host, path, useTls, rfl, rfl, hostOk, pathOk⟩
  · rfl
  · have named : path.isEmpty = false := by
      rw [String.isEmpty_eq_false_iff]
      rintro rfl
      exact absurd pathOk (by decide)
    simp [healthCheckTypeFromProto, hostOk, named]

private lemma durationFromMillis_saturate :
    durationFromMillis (saturateU64 duration.asMillis) = some duration ↔
      duration.WholeMillis ∧ duration.isZero = false := by
  have general : durationFromMillis (durationToMillis (some duration)) = some duration ↔ _ :=
    durationFromMillis_durationToMillis
  simpa [durationToMillis] using general

private lemma healthCheck_roundTrip {source : UpstreamHealthCheck} {check : CompiledHealthCheck}
    (compiles : compileUpstreamHealthCheck platform source = .ok check) : (∃ decoded,
        upstreamHealthCheckFromProto (protoUpstreamHealthCheckFromRuntime check) = .ok decoded ∧
        compileUpstreamHealthCheck platform decoded = .ok check) ↔ ExportableCheck check := by
  obtain ⟨⟨timeoutOk, intervalOk, successOk, failureOk⟩, typeOk, timeoutEq, intervalEq, successEq,
    failureEq⟩ := fields_of_healthCheck compiles
  constructor
  · rintro ⟨decoded, decodeOk, again⟩
    obtain ⟨timeout, interval, success, failure⟩ := upstreamHealthCheckFromProto_eq_ok decodeOk
    obtain ⟨_, _, timeoutAgain, intervalAgain, successAgain, failureAgain⟩ :=
      fields_of_healthCheck again
    rw [← timeoutAgain] at timeout
    rw [← intervalAgain] at interval
    rw [← successAgain] at success
    rw [← failureAgain] at failure
    exact
      { timeout := (durationFromMillis_saturate.mp timeout).1
        interval := (durationFromMillis_saturate.mp interval).1
        success := (widen_saturateU32 _).mp success.symm
        failure := (widen_saturateU32 _).mp failure.symm }
  · intro exportable
    have timeout := durationFromMillis_saturate.mpr ⟨exportable.timeout, timeoutOk⟩
    have interval := durationFromMillis_saturate.mpr ⟨exportable.interval, intervalOk⟩
    have success := (widen_saturateU32 _).mpr exportable.success
    have failure := (widen_saturateU32 _).mpr exportable.failure
    have kindOk := healthCheckType_roundTrip typeOk
    refine ⟨source, ?_, compiles⟩
    obtain ⟨sourceType, sourceTimeout, sourceInterval, sourceSuccess, sourceFailure⟩ := source
    simp only at timeoutEq intervalEq successEq failureEq kindOk
    simp only [upstreamHealthCheckFromProto, protoUpstreamHealthCheckFromRuntime, timeout, interval,
      orFail_some, ok_bind, success, failure, beq_eq_false_iff_ne.mpr successOk,
      beq_eq_false_iff_ne.mpr failureOk, rejectIf_false]
    cases kind : check.checkType with
    | tcp | http host path useTls =>
      rw [kind] at kindOk
      simp only at kindOk
      simp [kindOk, timeoutEq, intervalEq, successEq, failureEq]

variable {url : Url} {value field : String} {source : UpstreamBlock} {table : UpstreamTable}
  {groups : List CompiledUpstreamGroup}

private lemma trimPath_eq_self (starts : startsWith "/" url.path = true) :
    url.trimPath = url ↔ url.path = "/" ∨ endsWith "/" url.path = false := by
  have ends : endsWith "/" url.path = false ↔ trimEndMatches '/' url.path = url.path := by
    rw [trimEndMatches_eq_self, show "/" = String.singleton '/' by decide,
      endsWith_singleton]
  have pathOnly : url.trimPath = url ↔ (if trimEndMatches '/' url.path = "" then "/"
        else trimEndMatches '/' url.path) = url.path := by
    obtain ⟨scheme, username, password, host, port, path, query, fragment, cannot⟩ := url
    simp [Url.trimPath]
  have ne : url.path ≠ "" := by
    intro empty
    rw [empty] at starts
    exact absurd starts (by decide)
  rw [pathOnly, ends]
  by_cases allSlashes : trimEndMatches '/' url.path = ""
  · rw [if_pos allSlashes, allSlashes]
    exact ⟨fun same => .inl same.symm,
      fun cases => cases.elim Eq.symm fun empty => absurd empty.symm ne⟩
  · rw [if_neg allSlashes]
    refine ⟨.inr, fun cases => cases.elim (fun root => ?_) id⟩
    rw [root] at allSlashes
    exact absurd (by decide) allSlashes

private lemma requiredText_trimmed (trimmed : trim value = value) (named : value ≠ "") :
    requiredText value field = .ok value :=
  requiredText_eq_ok.mpr ⟨trimmed.symm ▸ named, trimmed.symm⟩

private lemma ne_empty_of_requiredText {res : String}
    (ok : requiredText value field = .ok res) : value ≠ "" := by
  rintro rfl
  exact (requiredText_eq_ok.mp ok).1 (by decide)

private lemma nrfEndpointSchemeFromProto_encode (scheme : NrfEndpointScheme) :
    nrfEndpointSchemeFromProto (WireEnum.code (protoNrfEndpointScheme scheme)) = .ok scheme := by
  cases scheme <;> rfl

private lemma apiRoot_roundTrip (lawful : platform.Lawful) {text : String}
    (parsed : platform.urlParse text = .ok url) (valid : validateApiRoot url = .ok ()) :
    requiredText (trimEndMatches '/' url.toText) "api_root" =
        .ok (trimEndMatches '/' url.toText) ∧
      platform.urlParse (trimEndMatches '/' url.toText) = .ok url.trimPath ∧
      (url.trimPath = url ↔ url.path = "/" ∨ endsWith "/" url.path = false) := by
  obtain ⟨isHttp, noQuery, noFragment⟩ := plain_of_validateApiRoot valid
  obtain ⟨_, _, _, clean⟩ := lawful.httpHost parsed isHttp
  have isStart := trimEndMatches_toList_isPrefix '/' url.toText
  have trimmed : trim (trimEndMatches '/' url.toText) =
      trimEndMatches '/' url.toText :=
    trim_eq_self fun char mem => clean char (isStart.mem mem)
  have colon : ':' ∈ url.toText.toList := by simp [Url.toText]
  exact ⟨requiredText_trimmed trimmed (trimEndMatches_ne_empty colon (by decide)),
    lawful.reparseTrimmed parsed isHttp noQuery noFragment,
    trimPath_eq_self (lawful.httpPath parsed isHttp).1⟩

private lemma wholeMillis_of_sent {millis : UInt64} (same : duration = Duration.fromMillis millis) :
    duration.WholeMillis :=
  same ▸ Duration.wholeMillis_fromMillis millis

private lemma sent_ne_zero (whole : duration.WholeMillis) (pos : duration.isZero = false) :
    saturateU64 duration.asMillis ≠ 0 ∧
      Duration.fromMillis (saturateU64 duration.asMillis) = duration :=
  durationFromMillis_eq_some.mp (durationFromMillis_saturate.mpr ⟨whole, pos⟩)

private lemma nrfDiscovery_roundTrip (lawful : platform.Lawful) {source : NrfDiscovery}
    {nrf : CompiledNrfDiscovery} (compiles : compileNrfDiscovery platform source = .ok nrf) :
    (∃ decoded, nrfDiscoveryFromProto (protoNrfDiscoveryFromRuntime nrf) = .ok decoded ∧
        compileNrfDiscovery platform decoded = .ok nrf) ↔ ExportableNrf nrf := by
  obtain ⟨parsed, ⟨rootOk, timeoutOk, staleOk, paired⟩, target, requester, service, _⟩ :=
    compileNrfDiscovery_eq_ok.mp compiles
  obtain ⟨rootSent, rootParsed, rootKept⟩ := apiRoot_roundTrip lawful parsed rootOk
  have tlsOk := upstreamTlsOptionsFromProto_encode paired
  constructor
  · rintro ⟨decoded, decodeOk, again⟩
    obtain ⟨scheme, _, root, rootDecoded, _, targetOk, decodeOk⟩ := bind₃_eq_ok.mp decodeOk
    obtain ⟨_, requesterOk, _, serviceOk, _, _, same⟩ := bind₃_eq_ok.mp decodeOk
    cases same
    obtain ⟨parsedAgain, _, _, _, _, _, timeoutAgain, staleAgain, _⟩ :=
      compileNrfDiscovery_eq_ok.mp again
    have rootEq : root = trimEndMatches '/' nrf.apiRoot.toText :=
      Except.ok.inj (rootDecoded.symm.trans rootSent)
    rw [rootEq, rootParsed] at parsedAgain
    exact
      { target := ne_empty_of_requiredText targetOk
        requester := ne_empty_of_requiredText requesterOk
        service := ne_empty_of_requiredText serviceOk
        timeout := wholeMillis_of_sent timeoutAgain
        staleIfError := wholeMillis_of_sent staleAgain
        apiRoot := rootKept.mp (Except.ok.inj parsedAgain) }
  · intro exportable
    have targetTrimmed : trim nrf.targetNfType = nrf.targetNfType := by
      rw [target, trim_toAsciiUppercase, trim_trim]
    have requesterTrimmed : trim nrf.requesterNfType = nrf.requesterNfType := by
      rw [requester, trim_toAsciiUppercase, trim_trim]
    have serviceTrimmed : trim nrf.serviceName = nrf.serviceName := by rw [service, trim_trim]
    obtain ⟨timeoutSent, timeoutKept⟩ := sent_ne_zero exportable.timeout timeoutOk
    obtain ⟨staleSent, staleKept⟩ := sent_ne_zero exportable.staleIfError staleOk
    refine ⟨{
      apiRoot := trimEndMatches '/' nrf.apiRoot.toText
      targetNfType := nrf.targetNfType
      requesterNfType := nrf.requesterNfType
      serviceName := nrf.serviceName
      endpointScheme := nrf.endpointScheme
      timeout := nrf.timeout
      staleIfError := nrf.staleIfError
      tlsOptions := nrf.tlsOptions }, ?_, ?_⟩
    · simp only [nrfDiscoveryFromProto, protoNrfDiscoveryFromRuntime,
        nrfEndpointSchemeFromProto_encode, rootSent,
        requiredText_trimmed targetTrimmed exportable.target,
        requiredText_trimmed requesterTrimmed exportable.requester,
        requiredText_trimmed serviceTrimmed exportable.service, tlsOk, ok_bind, pure_eq_ok,
        getD_some, timeoutSent, staleSent, if_false, timeoutKept, staleKept]
    · rw [compileNrfDiscovery_eq_ok]
      refine ⟨?_, ⟨rootOk, timeoutOk, staleOk, paired⟩, ?_, ?_, serviceTrimmed.symm, rfl, rfl, rfl,
        rfl⟩
      · rw [rootParsed, rootKept.mpr exportable.apiRoot]
      · rw [targetTrimmed, target, toAsciiUppercase_idem]
      · rw [requesterTrimmed, requester, toAsciiUppercase_idem]

private lemma servers_roundTrip {servers : List UpstreamServer}
    {built : List CompiledUpstreamServer}
    (compiles : servers.mapM compileUpstreamServer = .ok built)
    (weighted : ∀ server ∈ servers, server.weight ≠ 0) :
    (built.map protoUpstreamBackendFromRuntime).mapM upstreamBackendFromProto = .ok servers := by
  rw [mapM_eq_ok, forall₂_map_left_iff]
  have pairs := forall₂_and_left servers built |>.mpr ⟨weighted, mapM_eq_ok.mp compiles⟩
  exact (pairs.imp fun server res facts => upstreamBackendFromProto_encode facts.2 facts.1).flip

private lemma hashKey_roundTrip {hashKey : Option UpstreamHashKey}
    (known : ∀ name, hashKey = some (.header name) →
      (platform.headerNameFromBytes name).isNone = false) :
    Results.traverse (upstreamHashKeyFromProto platform)
      (hashKey.map protoUpstreamHashKeyFromRuntime) = .ok hashKey := by
  cases hashKey with
  | none => rfl
  | some key =>
    have decoded : upstreamHashKeyFromProto platform (protoUpstreamHashKeyFromRuntime key) =
        .ok key :=
      upstreamHashKeyFromProto_encode fun name same => known name (by rw [same])
    simp [decoded]

private lemma upstreamValid_replace (valid : UpstreamValid platform source)
    {nrf : Option NrfDiscovery}
    {check : Option UpstreamHealthCheck} (nrfSome : nrf.isSome = source.nrfDiscovery.isSome)
    (checkSome : check.isSome = source.healthCheck.isSome) :
    UpstreamValid platform { source with nrfDiscovery := nrf, healthCheck := check } := by
  have nrfNone : nrf.isNone = source.nrfDiscovery.isNone := by
    rw [← not_isSome, nrfSome, not_isSome]
  have checkNone : check.isNone = source.healthCheck.isNone := by
    rw [← not_isSome, checkSome, not_isSome]
  exact
    { nonempty := by simpa only [nrfNone] using valid.nonempty
      oneSource := by simpa only [nrfSome] using valid.oneSource
      checked := by simpa only [nrfSome, checkNone] using valid.checked
      weighted := valid.weighted
      bounded := valid.bounded
      hashed := valid.hashed
      header := valid.header }

private lemma group_roundTrip (lawful : platform.Lawful)
    (compiles : CompilesTo platform source group) :
    (∃ block, upstreamFromProto platform (protoUpstreamGroupFromRuntime group) = .ok block ∧
        CompilesTo platform block group) ↔ ExportableGroup group := by
  have valid := validateUpstream_eq_ok.mp compiles.valid
  obtain ⟨allowEmpty, nameEq, policy, hashKey, serversOk, nrfOk, checkOk⟩ :=
    compileUpstreamGroup_eq_ok.mp compiles.compiled
  have checks := traverse_roundTrip checkOk healthCheck_roundTrip
  have discoveries := traverse_roundTrip nrfOk (nrfDiscovery_roundTrip lawful)
  constructor
  · rintro ⟨block, decodeOk, again⟩
    obtain ⟨_, _, _, _, _, _, decodeOk⟩ := bind₃_eq_ok.mp decodeOk
    obtain ⟨_, _, _, _, _, _, decodeOk⟩ := bind₃_eq_ok.mp decodeOk
    obtain ⟨nrf, nrfDecoded, check, checkDecoded, same⟩ := bind₂_eq_ok.mp decodeOk
    cases same
    obtain ⟨_, nameAgain, _, _, _, nrfAgain, checkAgain⟩ :=
      compileUpstreamGroup_eq_ok.mp again.compiled
    exact
      { name := nameAgain.symm
        healthCheck := checks.mp ⟨check, checkDecoded, checkAgain⟩
        nrfDiscovery := discoveries.mp ⟨nrf, nrfDecoded, nrfAgain⟩ }
  · intro exportable
    obtain ⟨check, checkDecoded, checkAgain⟩ := checks.mpr exportable.healthCheck
    obtain ⟨nrf, nrfDecoded, nrfAgain⟩ := discoveries.mpr exportable.nrfDiscovery
    have trimmed : trim source.name = source.name := nameEq ▸ exportable.name
    have named : source.name.isEmpty = false := by
      rw [String.isEmpty_eq_false_iff]
      intro empty
      have stillNamed := compiles.named
      rw [empty] at stillNamed
      exact absurd stillNamed (by decide)
    have nonempty := valid.nonempty
    rw [← not_isSome] at nonempty
    -- Everything but the two converted parts is decoded to what it was compiled from.
    refine ⟨{ source with nrfDiscovery := nrf, healthCheck := check }, ?_, compiles.named, ?_, ?_⟩
    · simp only [upstreamFromProto, protoUpstreamGroupFromRuntime, nameEq, trimmed, named,
        servers_roundTrip serversOk valid.weighted, upstreamSelectionPolicyFromProto_code, hashKey,
        hashKey_roundTrip valid.header, nrfDecoded, checkDecoded, isSome_map,
        ← not_isSome, traverse_isSome nrfOk, allowEmpty, policy, valid.oneSource, nonempty,
        rejectIf_false, ok_bind, pure_eq_ok]
    · exact validateUpstream_eq_ok.mpr (upstreamValid_replace valid
        ((traverse_isSome nrfAgain).symm.trans (traverse_isSome nrfOk))
        ((traverse_isSome checkAgain).symm.trans (traverse_isSome checkOk)))
    · exact compileUpstreamGroup_eq_ok.mpr
        ⟨allowEmpty, nameEq, policy, hashKey, serversOk, nrfAgain, checkAgain⟩

def exportedGroups (table : UpstreamTable) : List CompiledUpstreamGroup :=
  sortBy Names.le CompiledUpstreamGroup.name table.values

private lemma mem_exportedGroups : group ∈ exportedGroups table ↔ group ∈ table.values :=
  mem_sortBy Names.le

private lemma exportedGroups_distinct (nodup : (groups.map groupKey).Nodup) :
    ((exportedGroups (indexBy groupKey groups)).map groupKey).Nodup := by
  have sorted := (perm_sortBy Names.le CompiledUpstreamGroup.name
    (indexBy groupKey groups).values).map groupKey
  rw [exportedGroups, sorted.nodup_iff, map_key_values_indexBy groupKey nodup]
  exact AList.keys_nodup _

private lemma eq_of_reimported {again : List CompiledUpstreamGroup} {blocks : List UpstreamBlock}
    (decoded : List.Forall₂ (fun group block =>
      upstreamFromProto platform (protoUpstreamGroupFromRuntime group) = .ok block) groups blocks)
    (built : List.Forall₂ (CompilesTo platform) blocks again)
    (nodup : (again.map groupKey).Nodup) (sameMembers : ∀ group, group ∈ groups ↔ group ∈ again)
    (mem : group ∈ groups) :
    ∃ block, upstreamFromProto platform (protoUpstreamGroupFromRuntime group) = .ok block ∧
      CompilesTo platform block group := by
  have nameOf : ∀ {source : CompiledUpstreamGroup} {block : UpstreamBlock},
      upstreamFromProto platform (protoUpstreamGroupFromRuntime source) = .ok block →
        block.name = trim source.name := by
    intro source block decodeOk
    obtain ⟨_, _, _, _, _, _, decodeOk⟩ := bind₃_eq_ok.mp decodeOk
    obtain ⟨_, _, _, _, _, _, decodeOk⟩ := bind₃_eq_ok.mp decodeOk
    obtain ⟨_, _, _, _, same⟩ := bind₂_eq_ok.mp decodeOk
    cases same
    rfl
  -- Every group is one that was read back, so its name has no whitespace around it.
  have trimmed : ∀ other ∈ groups, trim other.name = other.name := by
    intro other here
    obtain ⟨block, inBlocks, compiles⟩ := exists_of_mem_right built ((sameMembers other).mp here)
    obtain ⟨source, _, decodeOk⟩ := exists_of_mem_right decoded inBlocks
    rw [compiles.name_eq, nameOf decodeOk, trim_trim]
  obtain ⟨block, inBlocks, decodeOk⟩ := exists_of_mem_left decoded mem
  obtain ⟨res, inAgain, compiles⟩ := exists_of_mem_left built inBlocks
  have sameKey : groupKey res = groupKey group := by
    rw [groupKey, compiles.name_eq, nameOf decodeOk, trimmed group mem, groupKey]
  have same : res = group :=
    inj_on_of_nodup_map nodup inAgain ((sameMembers group).mp mem) sameKey
  exact ⟨block, decodeOk, same ▸ compiles⟩

private lemma upstreams_roundTrip (lawful : platform.Lawful) {upstreams : List UpstreamBlock}
    (compiles : compileUpstreams platform upstreams = .ok table) :
    (∃ blocks again, upstreamsFromProto platform (protoUpstreamsFromRuntime table) = .ok blocks ∧
        compileUpstreams platform blocks = .ok again ∧ SameEntries table again) ↔
      ∀ group ∈ table.values, ExportableGroup group := by
  obtain ⟨groups, fromBlocks, nodup, tableEq⟩ := compileUpstreams_eq_ok.mp compiles
  subst tableEq
  have exportedDistinct := exportedGroups_distinct nodup
  have exportedMembers : ∀ group,
      group ∈ exportedGroups (indexBy groupKey groups) ↔ group ∈ groups := by
    intro group
    rw [mem_exportedGroups, mem_values_indexBy groupKey nodup]
  have source : ∀ group ∈ exportedGroups (indexBy groupKey groups),
      ∃ block, CompilesTo platform block group := by
    intro group mem
    obtain ⟨block, _, sourceOk⟩ := exists_of_mem_right fromBlocks ((exportedMembers group).mp mem)
    exact ⟨block, sourceOk⟩
  have sent : protoUpstreamsFromRuntime (indexBy groupKey groups) =
      (exportedGroups (indexBy groupKey groups)).map protoUpstreamGroupFromRuntime := rfl
  simp only [upstreamsFromProto, sent, mapM_eq_ok, forall₂_map_left_iff, ← mem_exportedGroups,
    compileUpstreams_eq_ok]
  generalize exportedGroups (indexBy groupKey groups) = exported at *
  constructor
  · rintro ⟨blocks, _, decoded, ⟨again, built, againDistinct, rfl⟩, same⟩ group mem
    rw [sameEntries_indexBy groupKey nodup againDistinct] at same
    obtain ⟨sourceBlock, sourceOk⟩ := source group mem
    exact (group_roundTrip lawful sourceOk).mp (eq_of_reimported decoded built againDistinct
      (fun other => (exportedMembers other).trans (same other)) mem)
  · intro exportable
    have reimported : ∀ group ∈ exported, ∃ block,
        upstreamFromProto platform (protoUpstreamGroupFromRuntime group) = .ok block ∧
          CompilesTo platform block group := by
      intro group mem
      obtain ⟨_, sourceOk⟩ := source group mem
      exact (group_roundTrip lawful sourceOk).mpr (exportable group mem)
    obtain ⟨blocks, decoded, built⟩ := forall₂_of_forall_exists reimported
    refine ⟨blocks, _, decoded, ⟨exported, built, exportedDistinct, rfl⟩, ?_⟩
    rw [sameEntries_indexBy groupKey nodup exportedDistinct]
    exact fun group => (exportedMembers group).symm

/-- The groups of an exported router are imported unchanged, and keep their
runtime groups, exactly when all of them are exportable. -/
theorem reimported_groups_unchanged_iff {platform : Platform} (lawful : platform.Lawful)
    {http : Http} {router : CompiledRouter} (accepted : fromHttp platform http = .ok router) :
    ((∃ blocks again,
        upstreamsFromProto platform (protoUpstreamsFromRuntime router.upstreams) = .ok blocks ∧
        compileUpstreams platform blocks = .ok again ∧ SameEntries router.upstreams again) ↔
      ∀ group ∈ router.upstreams.values, ExportableGroup group) ∧
    ∀ {version : String} {wire : Proto.ConfigSnapshot} {snapshot : ConfigSnapshot},
      protoSnapshotFromRuntime platform version router = .ok wire →
      runtimeSnapshotFromProto platform wire = .ok snapshot →
      (SameEntries router.upstreams snapshot.router.upstreams ↔
        ∀ group ∈ router.upstreams.values, ExportableGroup group) ∧
      ∀ {Handle Material : Type} (builders : Builders Handle Material)
        {activeVersion : String} {generation : UInt64}
        {earlier : Option (RuntimeSnapshot Handle Material)}
        {active : RuntimeSnapshot Handle Material},
        buildRuntimeSnapshot platform builders activeVersion router generation earlier =
          .ok active →
        ((∀ groupFromCompiled, ∃ groups, buildRuntimeUpstreamGroups
              { builders with groupFromCompiled } snapshot.router
              (some active) = .ok groups ∧
            SameEntries active.upstreamGroups groups) ↔
          ∀ group ∈ router.upstreams.values, ExportableGroup group) := by
  obtain ⟨compiled⟩ := compiled_of_fromHttp accepted
  have roundTrip := upstreams_roundTrip lawful compiled.upstreamsOk
  refine ⟨roundTrip, ?_⟩
  intro version wire snapshot encoded imported
  obtain ⟨listeners, hosts, _, _, wireEq⟩ := parts_of_protoSnapshot encoded
  obtain ⟨decodedHttp, httpOk, routerOk⟩ := stages_of_runtimeSnapshot imported
  obtain ⟨decoded⟩ := decoded_of_proto httpOk
  obtain ⟨recompiled⟩ := compiled_of_fromHttp routerOk
  have blocksOk : upstreamsFromProto platform (protoUpstreamsFromRuntime router.upstreams) =
      .ok decodedHttp.upstreams := by
    rw [wireEq] at decoded
    exact decoded.upstreamsOk
  have unchanged : SameEntries router.upstreams snapshot.router.upstreams ↔
      ∀ group ∈ router.upstreams.values, ExportableGroup group := by
    rw [← roundTrip]
    constructor
    · exact fun same => ⟨_, _, blocksOk, recompiled.upstreamsOk, same⟩
    · rintro ⟨blocks, again, blocksAgain, againOk, same⟩
      rw [blocksOk] at blocksAgain
      cases blocksAgain
      rw [recompiled.upstreamsOk] at againOk
      cases againOk
      exact same
  refine ⟨unchanged, ?_⟩
  intro Handle Material builders activeVersion generation earlier active built
  obtain ⟨activeRouter, complete⟩ := upstreamGroups_of_build built
  rw [← activeRouter] at complete
  rw [buildRuntimeUpstreamGroups_keeps complete, activeRouter, unchanged]

namespace ApiRootExample

def discovery (apiRoot : String) : NrfDiscovery :=
  { apiRoot
    targetNfType := "SMF"
    requesterNfType := "SCP"
    serviceName := "nsmf-pdusession"
    endpointScheme := .http
    timeout := Duration.fromMillis 3000
    staleIfError := Duration.fromMillis 60000
    tlsOptions := {} }

def http (apiRoot : String) : Http :=
  { upstreams :=
      [{ allowEmpty := false
         name := "smf"
         policy := .roundRobin
         hashKey := none
         servers := []
         nrfDiscovery := some (discovery apiRoot)
         healthCheck := some
           { checkType := .tcp
             timeout := Duration.fromMillis 1000
             interval := Duration.fromMillis 5000
             consecutiveSuccess := 1
             consecutiveFailure := 1 } }] }

def builders (number : Nat) : Builders Nat Unit := .constant number ()

end ApiRootExample

open ApiRootExample in
/-- The group of an API root that ends in a slash is changed by export and import,
and its runtime group is replaced. -/
theorem trailing_slash_replaces_group :
    ∃ router wire snapshot active groups,
      fromHttp Reference.platform (http "http://nrf.example/nnrf-disc/v1/") = .ok router ∧
      protoSnapshotFromRuntime Reference.platform "v1" router = .ok wire ∧
      runtimeSnapshotFromProto Reference.platform wire = .ok snapshot ∧
      buildRuntimeSnapshot Reference.platform (builders 1) "v1" router 1 none =
        .ok active ∧
      buildRuntimeUpstreamGroups (builders 2) snapshot.router (some active) =
        .ok groups ∧
      snapshot.router.upstreams.lookup "smf" ≠ router.upstreams.lookup "smf" ∧
      active.upstreamGroups.lookup "smf" = some 1 ∧ groups.lookup "smf" = some 2 := by
  simp only [exists_and_left]
  decide +kernel

open ApiRootExample in
theorem plain_api_root_keeps_group :
    ∃ router wire snapshot active groups,
      fromHttp Reference.platform (http "http://nrf.example/nnrf-disc/v1") = .ok router ∧
      protoSnapshotFromRuntime Reference.platform "v1" router = .ok wire ∧
      runtimeSnapshotFromProto Reference.platform wire = .ok snapshot ∧
      buildRuntimeSnapshot Reference.platform (builders 1) "v1" router 1 none =
        .ok active ∧
      buildRuntimeUpstreamGroups (builders 2) snapshot.router (some active) =
        .ok groups ∧
      SameEntries active.upstreamGroups groups := by
  have run : ∃ router,
      fromHttp Reference.platform (http "http://nrf.example/nnrf-disc/v1") = .ok router ∧
      ∃ wire, protoSnapshotFromRuntime Reference.platform "v1" router = .ok wire ∧
      ∃ snapshot, runtimeSnapshotFromProto Reference.platform wire = .ok snapshot ∧
      ∃ active, buildRuntimeSnapshot Reference.platform (builders 1) "v1" router 1 none =
        .ok active ∧
      ∀ group ∈ router.upstreams.values, ExportableGroup group := by decide +kernel
  obtain ⟨router, accepted, wire, encoded, snapshot, imported, active, built, exportable⟩ := run
  have unchanged := (reimported_groups_unchanged_iff Reference.lawful accepted).2 encoded imported
  obtain ⟨groups, groupsOk, same⟩ := (unchanged.2 (builders 1) built).mpr exportable fun _ => .ok 2
  exact ⟨router, wire, snapshot, active, groups, accepted, encoded, imported, built, groupsOk, same⟩

end Ngxora.Grpc
