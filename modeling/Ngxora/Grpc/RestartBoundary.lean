/-
Applying an exported snapshot again. The settings a running process cannot change come back, but a
limit of zero requests on a connection is read as no limit.
-/

import Ngxora.Config.Lowering
import Ngxora.Control.Snapshot
import Ngxora.Grpc.Reimport
import Ngxora.Reference

namespace Ngxora.Grpc

open Reference Config List Option Results Router Control

section Options

variable {platform : Platform} (lawful : platform.Lawful)

include lawful in
lemma geoIpFromProto_encode {config : GeoIpConfig} (valid : config.validate = .ok ()) :
    geoIpFromProto platform (protoGeoIpFromRuntime config) = .ok config := by
  obtain ⟨_, _, valid⟩ := bind_eq_ok.mp valid
  have interval := rejectIf_eq_ok.mp valid
  simp only [Bool.or_eq_false_iff, decide_eq_false_iff_not, bne_eq_false_iff_eq] at interval
  have whole : config.reloadInterval.WholeMillis := by
    have limit : Machine.maxU64.toNat = 2 ^ 64 - 1 := rfl
    have digits := interval.2
    rw [Duration.subsecNanos] at digits
    exact ⟨by omega, by omega⟩
  have networks : (config.trustedProxies.map IpNet.toText).mapM (fun raw =>
      orFail (parseNetwork platform raw) s!"invalid geoip trusted_proxy `{raw}`") =
      .ok config.trustedProxies := by
    rw [mapM_eq_ok, forall₂_map_left_iff, forall₂_same]
    intro range _
    rw [parseNetwork_toText lawful, orFail_some]
  simp only [geoIpFromProto, protoGeoIpFromRuntime, networks, ok_bind, pure_eq_ok, wrappingMillis,
    getD_some, whole.fromMillis_ofNat, PathBuf.ofText_display]

end Options

namespace Reimport

variable {platform : Platform} {version : String} {router again : CompiledRouter}
variable {wire : Proto.ConfigSnapshot} (run : Reimport platform version router wire again)

include run in
lemma geoip_eq (lawful : platform.Lawful) : again.geoip = router.geoip := by
  have exported : wire.geoip = router.geoip.map protoGeoIpFromRuntime := by
    rw [run.exported.wire_eq]
    rfl
  have decoded := run.decoded.geoipOk
  rw [exported, ← run.compiled.geoip_eq] at decoded
  cases src : router.geoip with
  | none =>
    rw [src] at decoded
    exact (Except.ok.inj decoded).symm
  | some config =>
    have valid := run.source.optionsValid.geoip config (run.source.geoip_eq ▸ src)
    rw [src, map_some, traverse_some, geoIpFromProto_encode lawful valid] at decoded
    exact (Except.ok.inj decoded).symm

include run in
lemma httpOptions_eq : again.httpOptions.allowConnectMethodProxying =
      router.httpOptions.allowConnectMethodProxying ∧
    again.httpOptions.h2c = router.httpOptions.h2c ∧
    again.httpOptions.http2 = router.httpOptions.http2 ∧ again.httpOptions.keepaliveRequests =
      noneIfZero (router.httpOptions.keepaliveRequests.getD 0) := by
  have http : wire.http = some (protoHttpOptionsFromRuntime router.httpOptions) := by
    rw [run.exported.wire_eq]
    rfl
  rw [run.compiled.httpOptions_eq, run.decoded.http_eq]
  simp only [runtimeOptions, decodedHttp, http, getD_some, protoHttpOptionsFromRuntime,
    switchFromBool_eq_on, map_some]
  exact ⟨trivial, trivial, rfl, trivial⟩

include run in
lemma listenerRestartConfig_eq {key : ListenKey} (mem : key ∈ exportedKeys router) :
    listenerRestartConfig again key = listenerRestartConfig router key := by
  obtain ⟨hosts, found⟩ := mem_exportedKeys.mp mem
  obtain ⟨entry, inContributions⟩ := exists_mem_of_ne_nil _ (run.contributionsAt_ne_nil mem)
  obtain ⟨host, _, imported⟩ := exists_of_mem_right (run.importedAt mem) inContributions
  have settings := settings_of_addListens run.compiled.listensOk (mem_filter.mp inContributions).1
  rw [key_of_imported imported] at settings
  have protocol : again.listenerProtocols.lookup key =
      some ((router.listenerProtocols.lookup key).getD {}) := by
    rw [imported.listen] at settings
    exact settings.1
  have tls : (again.listenerTls.lookup key).map ListenerTlsConfig.settings =
      (router.listenerTls.lookup key).map ListenerTlsConfig.settings := by
    cases ssl : key.ssl with
    | false => rw [run.source.listenerTls_plain ssl, run.compiled.listenerTls_plain ssl]
    | true =>
      obtain ⟨first, _, tlsFound⟩ := run.source.exists_listenerTls ssl found
      generalize tlsOf _ _ = tls at tlsFound
      have options : ListenerTlsSettings.ofOptions (exportedDef router key).tlsOptions =
          tls.settings := by
        rw [exportedDef, exportedOptions, tlsFound]
        rfl
      rw [imported.listen, imported.tlsOptions, options] at settings
      rw [tlsFound]
      exact settings.2 ssl
  simp only [listenerRestartConfig, protocol, tls, getD_some]

end Reimport

lemma reimported_fingerprint_unchanged_iff {platform : Platform} (lawful : platform.Lawful)
    {http : Http} {router : CompiledRouter} {version : String} {wire : Proto.ConfigSnapshot}
    {snap : ConfigSnapshot} (ok : fromHttp platform http = .ok router)
    (encoded : protoSnapshotFromRuntime platform version router = .ok wire)
    (imported : runtimeSnapshotFromProto platform wire = .ok snap) :
    (restartFingerprint snap.router = restartFingerprint router ↔
      http.keepaliveRequests ≠ some 0) ∧
    ∀ {Handle Material : Type} (atStart atApply : Builders Handle Material)
      {activeVersion : String} {state : RuntimeState Handle Material},
      bootstrapState platform atStart { version := activeVersion, router } = .ok state →
      ((applySnapshot platform atApply state snap).1.restartRequired = false ↔
        http.keepaliveRequests ≠ some 0) := by
  obtain ⟨run⟩ := exists_reimport ok encoded imported
  obtain ⟨src⟩ := compiled_of_fromHttp ok
  have keepalive : router.httpOptions.keepaliveRequests = http.keepaliveRequests := by
    rw [src.httpOptions_eq]
    rfl
  obtain ⟨allowConnect, h2c, http2, keepaliveAgain⟩ := run.httpOptions_eq
  have listeners : (exportedKeys snap.router).map (fun key =>
      (key, listenerRestartConfig snap.router key)) =
      (exportedKeys router).map fun key => (key, listenerRestartConfig router key) := by
    rw [run.exportedKeys_eq]
    refine map_congr_left fun key mem => ?_
    rw [run.listenerRestartConfig_eq mem]
  have fingerprint : restartFingerprint snap.router = restartFingerprint router ↔
      http.keepaliveRequests ≠ some 0 := by
    rw [← keepalive, ← noneIfZero_getD, ← keepaliveAgain]
    constructor
    · exact congrArg RestartConfigFingerprint.keepaliveRequests
    · intro same
      simp only [restartFingerprint, run.geoip_eq lawful, allowConnect, h2c, http2, same]
      exact congrArg (fun entries => RestartConfigFingerprint.mk _ entries _ _ _ _) listeners
  refine ⟨fingerprint, fun atStart atApply activeVersion state started => ?_⟩
  obtain ⟨initial, built, same⟩ := bind_eq_ok.mp started
  cases same
  rwa [applySnapshot_restartRequired platform atApply rfl]

/-- The router of a configuration text can be exported and applied again without a
restart exactly when the text does not limit connections to zero requests. -/
theorem lowered_router_reapplies_iff {platform : Platform} (lawful : platform.Lawful)
    {formats : Formats} {ast : Ast} {http : Http} {router : CompiledRouter}
    {version : String} {wire : Proto.ConfigSnapshot} {snapshot : ConfigSnapshot}
    (lowered : fromAst platform formats ast = .ok (some http))
    (accepted : fromHttp platform http = .ok router)
    (encoded : protoSnapshotFromRuntime platform version router = .ok wire)
    (imported : runtimeSnapshotFromProto platform wire = .ok snapshot) :
    (restartFingerprint snapshot.router = restartFingerprint router ↔
      keepaliveRequestsOf ast ≠ some 0) ∧
    ∀ {Handle Material : Type} (atStart atApply : Builders Handle Material)
      {activeVersion : String} {state : RuntimeState Handle Material},
      bootstrapState platform atStart { version := activeVersion, router } = .ok state →
      ((applySnapshot platform atApply state snapshot).1.restartRequired = false ↔
        keepaliveRequestsOf ast ≠ some 0) := by
  rw [← keepaliveRequests_of_fromAst lowered]
  exact reimported_fingerprint_unchanged_iff lawful accepted encoded imported

namespace RequestLimit

def text (limit : String) : String :=
  "http \x7b keepalive_requests " ++ limit ++ "; server \x7b listen 8080; server_name a.example; " ++
    "location / \x7b return 301 /moved; \x7d \x7d \x7d"

def formats : Formats where
  plain _ := true
  urlError error := error

def builders : Builders Unit Unit := .constant () ()

end RequestLimit

open RequestLimit in
theorem hundred_requests_reapply :
    ∃ ast http router wire snapshot state,
      parseConfig (text "100") = .ok ast ∧
      fromAst platform formats ast = .ok (some http) ∧
      fromHttp platform http = .ok router ∧
      protoSnapshotFromRuntime platform "v1" router = .ok wire ∧
      runtimeSnapshotFromProto platform wire = .ok snapshot ∧
      bootstrapState platform builders { version := "v1", router } = .ok state ∧
      restartFingerprint snapshot.router = restartFingerprint router ∧
      (applySnapshot platform builders state snapshot).1.restartRequired = false := by
  have run : ∃ ast, parseConfig (text "100") = .ok ast ∧
      ∃ http, fromAst platform formats ast = .ok (some http) ∧
      ∃ router, fromHttp platform http = .ok router ∧
      ∃ wire, protoSnapshotFromRuntime platform "v1" router = .ok wire ∧
      ∃ snapshot, runtimeSnapshotFromProto platform wire = .ok snapshot ∧
      ∃ state, bootstrapState platform builders { version := "v1", router } =
        .ok state ∧ keepaliveRequestsOf ast ≠ some 0 := by decide +kernel
  rcases run with ⟨ast, parsed, http, fromText, router, accepted, wire, encoded, snapshot, imported,
    state, started, limited⟩
  have reapplies := lowered_router_reapplies_iff lawful fromText accepted encoded imported
  exact ⟨ast, http, router, wire, snapshot, state, parsed, fromText, accepted, encoded, imported,
    started, reapplies.1.mpr limited, (reapplies.2 builders builders started).mpr limited⟩

open RequestLimit in
/-- A limit of zero requests is read back as no limit, and the snapshot that the running
process has exported itself is refused until a restart. -/
theorem zero_requests_need_restart :
    ∃ ast http router wire snapshot state,
      parseConfig (text "0") = .ok ast ∧
      fromAst platform formats ast = .ok (some http) ∧
      fromHttp platform http = .ok router ∧
      protoSnapshotFromRuntime platform "v1" router = .ok wire ∧
      runtimeSnapshotFromProto platform wire = .ok snapshot ∧
      bootstrapState platform builders { version := "v1", router } = .ok state ∧
      restartFingerprint snapshot.router ≠ restartFingerprint router ∧
      (applySnapshot platform builders state snapshot).1.restartRequired = true := by
  simp only [exists_and_left]
  decide +kernel

end Ngxora.Grpc
