/-
The certificates served after an export and an import.
-/

import Ngxora.Grpc.Reimport
import Ngxora.Reference
import Ngxora.Server.ListenerTls

namespace Ngxora.Grpc

open Table Option Results Router Server

/-- A name without a certificate is exported with the default one, which goes with the
default host or the least name. -/
structure KeepsCertificates (hosts : VirtualHostRoutes) (tls : ListenerTlsConfig) : Prop where
  /-- Without a default host the least name has the default certificate. -/
  least : hosts.default = none → ∀ name ∈ hosts.named, (∀ other ∈ hosts.named, name ≤ other) →
    tls.named.lookup name = none ∨ tls.named.lookup name = tls.default
  /-- A name without a certificate is covered by no name with another one. -/
  borrowed : ∀ name ∈ hosts.named, tls.named.lookup name = none → ∀ pattern identity,
    IsBest (hostnameRank name) tls.named pattern identity → tls.default = some identity

lemma isBest_of_covering {named : Table String TlsIdentity} {host name pattern : String}
    {identity : TlsIdentity} (best : IsBest (hostnameRank host) named pattern identity)
    (absent : named.lookup name = none) {rank : Bool ×ₗ Nat}
    (covers : hostnameRank host name = some rank)
    (better : ∀ found, hostnameRank host pattern = some found → found ≤ rank) :
    IsBest (hostnameRank name) named pattern identity := by
  have differs : ∀ other ∈ named, other ≠ name := by
    intro other here same
    obtain ⟨value, found⟩ := mem_iff_lookup.mp here
    rw [same, absent] at found
    cases found
  obtain ⟨⟨exact', length⟩, score, rfl⟩ := map_eq_some_iff.mp covers
  cases exact' with
  | true =>
    rwa [(hostnameScore_exact.mp score).1]
  | false =>
    obtain ⟨found, patternRank, greatest⟩ := best.greatest
    obtain ⟨patternScore, patternCovers, rfl⟩ := map_eq_some_iff.mp patternRank
    have patternDiffers := differs pattern (mem_iff_lookup.mpr ⟨_, best.present⟩)
    have coversName := hostnameScore_of_less_precise score patternCovers patternDiffers
      (better _ patternRank)
    refine ⟨best.present, toLex patternScore, by rw [hostnameRank, coversName]; rfl, ?_⟩
    intro other here otherRank ranked
    obtain ⟨otherScore, otherCovers, rfl⟩ := map_eq_some_iff.mp ranked
    apply greatest other here
    rw [hostnameRank, hostnameScore_of_covers_wildcard score otherCovers (differs other here)]
    rfl

/-- The certificates of a listener, read off its exported hosts. -/
structure TlsReimport (hosts : VirtualHostRoutes) (tls tlsAgain : ListenerTlsConfig) : Prop where
  named : ∀ name, tlsAgain.named.lookup name =
    if name ∈ hosts.named then hostIdentity (some tls) name else none
  included : ∀ name ∈ tls.named, name ∈ hosts.named
  normalized : ∀ name ∈ hosts.named, normalizeHostname name = name
  hasDefault : ∃ identity, tls.default = some identity
  defaulted : ∀ routes, hosts.default = some routes → tlsAgain.default = tls.default
  least : hosts.default = none → ∃ name ∈ hosts.named, (∀ other ∈ hosts.named, name ≤ other) ∧
    tlsAgain.default = hostIdentity (some tls) name

namespace TlsReimport

variable {hosts : VirtualHostRoutes} {tls tlsAgain : ListenerTlsConfig}

lemma hostIdentity_eq (tls : ListenerTlsConfig) (name : String) :
    hostIdentity (some tls) name = (tls.named.lookup name).or tls.default := rfl

lemma mem_named (tables : TlsReimport hosts tls tlsAgain) {name : String} :
    name ∈ tlsAgain.named ↔ name ∈ hosts.named := by
  obtain ⟨identity, default⟩ := tables.hasDefault
  rw [mem_iff_lookup, tables.named]
  by_cases here : name ∈ hosts.named
  · rw [if_pos here, hostIdentity_eq, default]
    cases tls.named.lookup name <;> simp [here]
  · simp [here]

lemma namedListenerTls_eq (tables : TlsReimport hosts tls tlsAgain)
    (keeps : KeepsCertificates hosts tls) {identity : TlsIdentity}
    (default : tls.default = some identity) (serverName : String) :
    (namedListenerTls tlsAgain serverName).getD identity =
      (namedListenerTls tls serverName).getD identity := by
  cases again : namedListenerTls tlsAgain serverName with
  | none =>
    have uncovered : namedListenerTls tls serverName = none := by
      rw [namedListenerTls_eq_none] at again ⊢
      exact fun name here => again name (tables.mem_named.mpr (tables.included name here))
    rw [uncovered]
  | some chosen =>
    obtain ⟨name, best⟩ := namedListenerTls_eq_some.mp again
    have here : name ∈ hosts.named := tables.mem_named.mp (mem_iff_lookup.mpr ⟨_, best.present⟩)
    have chosenEq := best.present
    rw [tables.named, if_pos here, hostIdentity_eq] at chosenEq
    obtain ⟨rank, covers, greatest⟩ := best.greatest
    cases own : tls.named.lookup name with
    | some certificate =>
      rw [own, some_or] at chosenEq
      have bestBefore : namedListenerTls tls serverName = some chosen := by
        refine namedListenerTls_eq_some.mpr ⟨name, own.trans chosenEq, rank, covers, ?_⟩
        exact fun other inTls => greatest other (tables.mem_named.mpr (tables.included other inTls))
      rw [bestBefore]
    | none =>
      rw [own, none_or, default] at chosenEq
      rw [← chosenEq]
      cases before : namedListenerTls tls serverName with
      | none => rfl
      | some certificate =>
        obtain ⟨pattern, bestBefore⟩ := namedListenerTls_eq_some.mp before
        have inAgain := tables.mem_named.mpr
          (tables.included pattern (mem_iff_lookup.mpr ⟨_, bestBefore.present⟩))
        have bestForName := isBest_of_covering bestBefore own covers (greatest pattern inAgain)
        have same := keeps.borrowed name here own pattern certificate bestForName
        rw [default, Option.some.injEq] at same
        rw [same]

lemma default_eq (tables : TlsReimport hosts tls tlsAgain)
    (keeps : KeepsCertificates hosts tls) : tlsAgain.default = tls.default := by
  cases defaultHost : hosts.default with
  | some routes => exact tables.defaulted routes defaultHost
  | none =>
    obtain ⟨name, here, isLeast, again⟩ := tables.least defaultHost
    rw [again, hostIdentity_eq]
    rcases keeps.least defaultHost name here isLeast with absent | same
    · rw [absent, none_or]
    · rw [same, Option.or_self]

lemma selects_iff (tables : TlsReimport hosts tls tlsAgain) (key : ListenKey) :
    (∀ serverName, (selectListenerTls key tls serverName).toOption =
        (selectListenerTls key tlsAgain serverName).toOption) ↔ KeepsCertificates hosts tls := by
  obtain ⟨identity, default⟩ := tables.hasDefault
  constructor
  · intro same
    have unasked := same none
    rw [selectListenerTls_of_default default] at unasked
    refine ⟨fun noDefault name here isLeast => ?_, fun name here absent pattern other best => ?_⟩
    · obtain ⟨least, leastPresent, leastLe, again⟩ := tables.least noDefault
      have sameName : least = name := le_antisymm (leastLe name here) (isLeast least leastPresent)
      rw [sameName, hostIdentity_eq, default] at again
      rw [default]
      cases own : tls.named.lookup name with
      | none => exact .inl rfl
      | some certificate =>
        rw [own, some_or] at again
        rw [selectListenerTls_of_default again] at unasked
        simp only [bind_none, getD_none, Except.toOption, Option.some.injEq] at unasked
        exact .inr (congrArg some unasked.symm)
    · have asked := same (some name)
      have normalized := tables.normalized name here
      have before : namedListenerTls tls name = some other :=
        namedListenerTls_eq_some.mpr ⟨pattern, normalized.symm ▸ best⟩
      have after : namedListenerTls tlsAgain name = some identity := by
        apply namedListenerTls_exact normalized
        rw [tables.named, if_pos here, hostIdentity_eq, absent, none_or, default]
      simp only [selectListenerTls, bind_some, before, after, Except.toOption,
        Option.some.injEq] at asked
      rw [default, asked]
  · intro keeps serverName
    have defaultAgain : tlsAgain.default = some identity := (tables.default_eq keeps).trans default
    rw [selectListenerTls_of_default default, selectListenerTls_of_default defaultAgain]
    cases serverName with
    | none => rfl
    | some name => rw [bind_some, bind_some, tables.namedListenerTls_eq keeps default name]

end TlsReimport

variable {platform : Platform} {version : String} {router again : CompiledRouter}
  {wire : Proto.ConfigSnapshot}

lemma Reimport.exists_default (run : Reimport platform version router wire again)
    {key : ListenKey} (ssl : key.ssl = true) {hosts : VirtualHostRoutes}
    (found : router.listeners.lookup key = some hosts) {tls : ListenerTlsConfig}
    (tlsFound : router.listenerTls.lookup key = some tls) :
    ∃ identity, tls.default = some identity := by
  rw [← isSome_iff_exists]
  obtain ⟨host, inHosts⟩ := List.exists_mem_of_ne_nil _ (run.hostsAt_ne_nil found)
  have listed := run.hostsOf found
  obtain ⟨entry, _, imported⟩ :=
    exists_of_mem_left (run.importedAt (mem_exportedKeys.mpr ⟨hosts, found⟩)) inHosts
  have bound : host.tls.isSome = true := imported.bound.trans ssl
  rw [tlsFound] at listed
  cases names : host.serverNames with
  | nil =>
    obtain ⟨_, _, _, tlsEq⟩ := listed.marked host inHosts (listed.unnamed host inHosts names)
    rwa [tlsEq, isSome_map, bind_some] at bound
  | cons name rest =>
    obtain ⟨_, _, serves⟩ := listed.named host inHosts name (names ▸ List.mem_cons_self)
    rw [serves.tls, isSome_map, hostIdentity, bind_some, bind_some] at bound
    cases own : tls.named.lookup name with
    | none => rwa [own, none_or] at bound
    | some certificate =>
      exact (run.source.exists_identified ssl found tlsFound (mem_iff_lookup.mpr ⟨certificate, own⟩)).1

lemma Reimport.tables (run : Reimport platform version router wire again) {key : ListenKey}
    (ssl : key.ssl = true) {hosts : VirtualHostRoutes}
    (found : router.listeners.lookup key = some hosts) {tls tlsAgain : ListenerTlsConfig}
    (tlsFound : router.listenerTls.lookup key = some tls)
    (tlsAgainFound : again.listenerTls.lookup key = some tlsAgain) :
    TlsReimport hosts tls tlsAgain where
  named := run.tlsAgain_named found ssl tlsFound tlsAgainFound
  included := fun _ here => run.source.tls_named_included ssl found tlsFound here
  normalized := fun _ here => run.source.normalized found here
  hasDefault := run.exists_default ssl found tlsFound
  defaulted := fun _ hasDefault =>
    run.tlsAgain_default_of_some found ssl tlsFound tlsAgainFound hasDefault
  least := run.tlsAgain_default_of_none found ssl tlsFound tlsAgainFound

/-- An exported and imported listener serves the same certificates exactly when
its names keep theirs. -/
theorem reimported_certificates_unchanged_iff {http : Http} {snapshot : ConfigSnapshot}
    (accepted : fromHttp platform http = .ok router)
    (encoded : protoSnapshotFromRuntime platform version router = .ok wire)
    (imported : runtimeSnapshotFromProto platform wire = .ok snapshot)
    {key : ListenKey} (ssl : key.ssl = true) {hosts : VirtualHostRoutes}
    (found : router.listeners.lookup key = some hosts) :
    ∃ tls tlsAgain, router.listenerTls.lookup key = some tls ∧
      snapshot.router.listenerTls.lookup key = some tlsAgain ∧
      ((∀ serverName, (selectListenerTls key tls serverName).toOption =
          (selectListenerTls key tlsAgain serverName).toOption) ↔ KeepsCertificates hosts tls) := by
  obtain ⟨run⟩ := exists_reimport accepted encoded imported
  obtain ⟨_, _, tlsFound⟩ := run.source.exists_listenerTls ssl found
  have foundAgain := run.listeners_isSome key
  rw [found, isSome_some, isSome_iff_exists] at foundAgain
  obtain ⟨hostsAgain, foundAgain⟩ := foundAgain
  obtain ⟨_, _, tlsAgainFound⟩ := run.compiled.exists_listenerTls ssl foundAgain
  exact ⟨_, _, tlsFound, tlsAgainFound,
    (run.tables ssl found tlsFound tlsAgainFound).selects_iff key⟩

namespace LeastName

def identity (name : String) : TlsIdentity :=
  { cert := .path (PathBuf.ofText ("/" ++ name ++ ".pem"))
    key := .path (PathBuf.ofText ("/" ++ name ++ ".key")) }

def server (name : String) : Server :=
  { serverNames := [name]
    locations := [{ matcher := .pathPrefix "/", directives := [.directResponse 200] }]
    listens := [{ port := 443, ssl := true }]
    tls := some (.custom (identity name)) }

def http (first second : String) : Http := { servers := [server first, server second] }

def key : ListenKey :=
  { addr := .v4 { a := 127, b := 0, c := 0, d := 1 }, port := 443, ssl := true }

end LeastName

set_option synthInstance.maxSize 256 in
open LeastName in
/-- A handshake without a name gets the certificate of the first block before the
export and that of the least name after the import. -/
theorem least_name_takes_default_certificate :
    ∃ router wire snapshot tls tlsAgain,
      fromHttp Reference.platform (http "b.example" "a.example") = .ok router ∧
      protoSnapshotFromRuntime Reference.platform "v1" router = .ok wire ∧
      runtimeSnapshotFromProto Reference.platform wire = .ok snapshot ∧
      router.listenerTls.lookup key = some tls ∧
      snapshot.router.listenerTls.lookup key = some tlsAgain ∧
      selectListenerTls key tls none = .ok (identity "b.example") ∧
      selectListenerTls key tlsAgain none = .ok (identity "a.example") := by
  simp only [exists_and_left]
  decide +kernel

open LeastName in
theorem ordered_names_keep_certificates :
    ∃ router wire snapshot tls tlsAgain,
      fromHttp Reference.platform (http "a.example" "b.example") = .ok router ∧
      protoSnapshotFromRuntime Reference.platform "v1" router = .ok wire ∧
      runtimeSnapshotFromProto Reference.platform wire = .ok snapshot ∧
      router.listenerTls.lookup key = some tls ∧
      snapshot.router.listenerTls.lookup key = some tlsAgain ∧
      ∀ serverName, (selectListenerTls key tls serverName).toOption =
        (selectListenerTls key tlsAgain serverName).toOption := by
  have run : ∃ router, fromHttp Reference.platform (http "a.example" "b.example") = .ok router ∧
      ∃ wire, protoSnapshotFromRuntime Reference.platform "v1" router = .ok wire ∧
      ∃ snapshot, runtimeSnapshotFromProto Reference.platform wire = .ok snapshot ∧
      ∃ hosts, router.listeners.lookup key = some hosts ∧
      ∃ tls, router.listenerTls.lookup key = some tls ∧
        ∀ name ∈ hosts.named.keys, (tls.named.lookup name).isSome = true ∧
          ((∀ other ∈ hosts.named.keys, name ≤ other) →
            tls.named.lookup name = tls.default) := by decide +kernel
  obtain ⟨router, accepted, wire, encoded, snapshot, imported, hosts, found, tls, tlsFound,
    certified⟩ := run
  obtain ⟨tlsSame, tlsAgain, tlsSameFound, tlsAgainFound, same⟩ :=
    reimported_certificates_unchanged_iff accepted encoded imported rfl found
  rw [tlsFound, Option.some.injEq] at tlsSameFound
  subst tlsSameFound
  have keeps : KeepsCertificates hosts tls := by
    refine ⟨fun _ name present least => ?_, fun name present absent => ?_⟩
    · exact Or.inr ((certified name present).2 least)
    · have own := (certified name present).1
      rw [absent] at own
      cases own
  exact ⟨router, wire, snapshot, tls, tlsAgain, accepted, encoded, imported, tlsFound,
    tlsAgainFound, same.mpr keeps⟩

end Ngxora.Grpc
