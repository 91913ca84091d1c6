/-
A router exported and imported again.
-/

import Ngxora.Grpc.Listeners

namespace Ngxora.Grpc

open Table List Option Net Results Router

/-- Its names and certificates are read off the exported virtual hosts. -/
structure Reimport (platform : Platform) (version : String) (router : CompiledRouter)
    (wire : Proto.ConfigSnapshot) (again : CompiledRouter) where
  sourceHttp : Http
  source : Compiled platform sourceHttp router
  exported : Exported platform version router wire
  http : Http
  decoded : Decoded platform wire http
  compiled : Compiled platform http again

lemma exists_reimport {platform : Platform} {http : Http} {router : CompiledRouter}
    {version : String} {wire : Proto.ConfigSnapshot} {snap : ConfigSnapshot}
    (ok : fromHttp platform http = .ok router)
    (encoded : protoSnapshotFromRuntime platform version router = .ok wire)
    (imported : runtimeSnapshotFromProto platform wire = .ok snap) :
    Nonempty (Reimport platform version router wire snap.router) := by
  obtain ⟨src⟩ := compiled_of_fromHttp ok
  obtain ⟨importedHttp, httpOk, routerOk⟩ := stages_of_runtimeSnapshot imported
  obtain ⟨decoded⟩ := decoded_of_proto httpOk
  obtain ⟨built⟩ := compiled_of_fromHttp routerOk
  exact ⟨⟨http, src, exported_of_encode encoded, importedHttp, decoded, built⟩⟩

namespace Reimport

variable {platform : Platform} {version : String} {router again : CompiledRouter}
variable {wire : Proto.ConfigSnapshot} (run : Reimport platform version router wire again)

lemma defs_spec : (∀ key ∈ exportedKeys router, ListenerFits router key) ∧
    run.decoded.defs = Table.indexBy (fun def' => Text.trim def'.name)
      ((exportedKeys router).map (exportedDef router)) := by
  have defsOk := run.decoded.defsOk
  rw [run.exported.listeners_eq] at defsOk
  exact listenerDefs_exported defsOk

lemma defs_lookup {key : ListenKey} (mem : key ∈ exportedKeys router) :
    run.decoded.defs.lookup (exportedName router key) = some (exportedDef router key) := by
  rw [run.defs_spec.2]
  exact lookup_exportedDefs mem

variable {base : CompiledRouter} {host : Proto.VirtualHost} {entry : Contribution}
variable {key : ListenKey} {hosts : VirtualHostRoutes}

lemma key_of_imported (imported : Imported platform base (exportedDef router key) host entry) :
    entry.key = key := by
  rw [Contribution.key, imported.listen]
  rfl

def ImportedFrom (platform : Platform) (router base : CompiledRouter) (host : Proto.VirtualHost)
    (entry : Contribution) : Prop :=
  ∃ key ∈ exportedKeys router, host.listener = exportedName router key ∧
    Imported platform base (exportedDef router key) host entry

lemma imported_all : List.Forall₂ (ImportedFrom platform router run.compiled.base) wire.virtualHosts
    run.compiled.contributions := by
  have all := imported_contributions (mapM_eq_ok.mp run.decoded.serversOk) run.compiled.routesOk
  refine ((forall₂_and_left _ _).mpr ⟨run.exported.listenerOf, all⟩).imp ?_
  rintro host entry ⟨⟨key, mem, named⟩, listener, found, imported⟩
  rw [named, run.defs_lookup mem, Option.some.injEq] at found
  exact ⟨key, mem, named, found ▸ imported⟩

lemma importedAt (mem : key ∈ exportedKeys router) :
    List.Forall₂ (Imported platform run.compiled.base (exportedDef router key))
      (hostsAt router wire key) (run.compiled.contributionsAt key) := by
  have filtered : List.Forall₂ (ImportedFrom platform router run.compiled.base)
      (hostsAt router wire key) (run.compiled.contributionsAt key) := by
    refine rel_filter ?_ run.imported_all
    rintro host entry ⟨owner, ownerMember, named, imported⟩
    simp only [decide_eq_true_eq, named, key_of_imported imported]
    exact ⟨exportedName_injOn ownerMember mem, fun same => same ▸ rfl⟩
  have labels : ∀ host ∈ hostsAt router wire key, host.listener = exportedName router key :=
    fun host inHosts => of_decide_eq_true (mem_filter.mp inHosts).2
  refine ((forall₂_and_left _ _).mpr ⟨labels, filtered⟩).imp ?_
  rintro host entry ⟨label, owner, ownerMember, named, imported⟩
  exact exportedName_injOn ownerMember mem (named.symm.trans label) ▸ imported

lemma contributionsAt_eq_nil (absent : key ∉ exportedKeys router) :
    run.compiled.contributionsAt key = [] := by
  rw [eq_nil_iff_forall_not_mem]
  intro entry mem
  obtain ⟨inAll, _⟩ := mem_filter.mp mem
  obtain ⟨_, _, owner, ownerMember, _, imported⟩ := exists_of_mem_right run.imported_all inAll
  have same : owner = key := (key_of_imported imported).symm.trans (run.compiled.key_of_mem mem)
  exact absent (same ▸ ownerMember)

lemma mem_exportedKeys :
    key ∈ exportedKeys router ↔ ∃ hosts, router.listeners.lookup key = some hosts := by
  rw [exportedKeys, mem_sortedKeys, mem_iff_lookup]

include run in
lemma hostsOf (found : router.listeners.lookup key = some hosts) :
    HostsOf platform (exportedName router key) hosts (router.listenerTls.lookup key)
      (hostsAt router wire key) := by
  obtain ⟨routes, routesFound, encoded⟩ :=
    run.exported.hostsOk key (mem_exportedKeys.mpr ⟨hosts, found⟩)
  rw [found, Option.some.injEq] at routesFound
  subst routesFound
  exact hostsOf_of_encode encoded

include run in
lemma hostsAt_ne_nil (found : router.listeners.lookup key = some hosts) :
    hostsAt router wire key ≠ [] := by
  have listed := run.hostsOf found
  rcases run.source.answers found with ⟨name, here⟩ | hasDefault
  · obtain ⟨routes, named⟩ := mem_iff_lookup.mp here
    obtain ⟨host, mem, _⟩ := listed.covered name routes named
    exact ne_nil_of_mem mem
  · obtain ⟨routes, defaultFound⟩ := isSome_iff_exists.mp hasDefault
    obtain ⟨host, mem, _⟩ := listed.defaulted routes defaultFound
    exact ne_nil_of_mem mem

lemma contributionsAt_ne_nil (mem : key ∈ exportedKeys router) :
    run.compiled.contributionsAt key ≠ [] := by
  obtain ⟨hosts, found⟩ := mem_exportedKeys.mp mem
  intro empty
  have pairs := run.importedAt mem
  rw [empty, forall₂_nil_right_iff] at pairs
  exact run.hostsAt_ne_nil found pairs

include run in
lemma listeners_isSome (key : ListenKey) :
    (again.listeners.lookup key).isSome = (router.listeners.lookup key).isSome := by
  rw [run.compiled.listeners_lookup]
  by_cases mem : key ∈ exportedKeys router
  · obtain ⟨hosts, found⟩ := mem_exportedKeys.mp mem
    rw [if_neg (run.contributionsAt_ne_nil mem), found, isSome_some, isSome_some]
  · have absent : router.listeners.lookup key = none := by
      rw [← not_isSome_iff_eq_none, isSome_iff_exists]
      exact fun here => mem (mem_exportedKeys.mpr here)
    rw [if_pos (run.contributionsAt_eq_nil mem), absent]

include run in
lemma exportedKeys_eq : exportedKeys again = exportedKeys router := by
  apply sortedKeys_congr
  intro key
  rw [← AList.lookup_isSome, ← AList.lookup_isSome, run.listeners_isSome key]

include run in
lemma covers_iff (found : router.listeners.lookup key = some hosts)
    (mem : host ∈ hostsAt router wire key)
    (imported : Imported platform base (exportedDef router key) host entry) {name : String} :
    covers name entry = true ↔ name ∈ host.serverNames := by
  have same : host.serverNames.map normalizeHostname = host.serverNames := by
    rw [List.map_congr_left (g := id), List.map_id]
    intro other inNames
    obtain ⟨routes, named, _⟩ := (run.hostsOf found).named host mem other inNames
    exact run.source.normalized found (mem_iff_lookup.mpr ⟨routes, named⟩)
  rw [covers, decide_eq_true_eq, imported.serverNames, same]

section Certificates

variable {key : ListenKey} {hosts : VirtualHostRoutes} {tls tlsAgain : ListenerTlsConfig}
variable (found : router.listeners.lookup key = some hosts) (ssl : key.ssl = true)
variable (tlsFound : router.listenerTls.lookup key = some tls)
variable (tlsAgainFound : again.listenerTls.lookup key = some tlsAgain)

variable {base : CompiledRouter} {host : Proto.VirtualHost} {entry : Contribution}

lemma identity_eq (imported : Imported platform base (exportedDef router key) host entry)
    {source : Option TlsIdentity} (tlsEq : host.tls = source.map protoTlsBindingFromRuntime) :
    entry.identity = source := by
  have identity := imported.identity
  rw [tlsEq] at identity
  cases source with
  | none => exact (Except.ok.inj identity).symm
  | some certificate =>
    simp only [map_some, traverse_some, tlsIdentityFromProto_encode] at identity
    exact (Except.ok.inj identity).symm

lemma identity_isSome (ssl : key.ssl = true)
    (imported : Imported platform base (exportedDef router key) host entry) :
    entry.identity.isSome = true := by
  rwa [traverse_isSome imported.identity, imported.bound]

include run found ssl tlsAgainFound in
lemma tlsAgain_eq : tlsAgain = tlsOf (ListenerTlsSettings.ofOptions (exportedOptions router key))
    (run.compiled.contributionsAt key) := by
  have mem : key ∈ exportedKeys router := mem_exportedKeys.mpr ⟨hosts, found⟩
  have hostsAgain := run.listeners_isSome key
  rw [found, isSome_some, isSome_iff_exists] at hostsAgain
  obtain ⟨hostsAgain, foundAgain⟩ := hostsAgain
  obtain ⟨first, firstMember, entry⟩ := run.compiled.exists_listenerTls ssl foundAgain
  obtain ⟨host, _, imported⟩ := exists_of_mem_right (run.importedAt mem) firstMember
  rwa [tlsAgainFound, imported.tlsOptions, Option.some.injEq] at entry

include run found ssl tlsFound tlsAgainFound in
lemma tlsAgain_named (name : String) : tlsAgain.named.lookup name =
    if name ∈ hosts.named then hostIdentity (some tls) name else none := by
  have pairs := run.importedAt (mem_exportedKeys.mpr ⟨hosts, found⟩)
  have listed := run.hostsOf found
  rw [run.tlsAgain_eq found ssl tlsAgainFound, tlsOf_named]
  cases last : (identified (run.compiled.contributionsAt key)).reverse.find?
      (fun entry => covers name entry.1) with
  | some entry =>
    obtain ⟨contributed, certificate⟩ := entry
    have inIdentified := mem_reverse.mp (mem_of_find?_eq_some last)
    obtain ⟨inContributions, certified⟩ := mem_identified.mp inIdentified
    obtain ⟨host, inHosts, imported⟩ := exists_of_mem_right pairs inContributions
    have covered : covers name contributed = true := by simpa using find?_some last
    have inNames := (run.covers_iff found inHosts imported).mp covered
    obtain ⟨routes, named, serves⟩ := listed.named host inHosts name inNames
    rw [if_pos (mem_iff_lookup.mpr ⟨routes, named⟩), map_some, ← certified,
      identity_eq imported serves.tls, tlsFound]
  | none =>
    rw [if_neg, map_none]
    intro here
    obtain ⟨routes, named⟩ := mem_iff_lookup.mp here
    obtain ⟨host, inHosts, inNames⟩ := listed.covered name routes named
    obtain ⟨entry, inContributions, imported⟩ := exists_of_mem_left pairs inHosts
    obtain ⟨certificate, certified⟩ := isSome_iff_exists.mp (identity_isSome ssl imported)
    have uncovered := find?_eq_none.mp last (entry, certificate)
      (mem_reverse.mpr (mem_identified.mpr ⟨inContributions, certified⟩))
    exact uncovered ((run.covers_iff found inHosts imported).mpr inNames)

include run found in
lemma claimsDefaultTls_eq (inHosts : host ∈ hostsAt router wire key) {identity : TlsIdentity}
    (imported : Imported platform base (exportedDef router key) host entry) :
    claimsDefaultTls (entry, identity) = host.defaultServer := by
  have marked := (run.hostsOf found).unnamed host inHosts
  simp only [claimsDefaultTls, isDefaultServer, isUnnamed, imported.listen, imported.serverNames]
  cases names : host.serverNames with
  | nil => simp [marked names]
  | cons _ _ => simp

include run found ssl tlsFound tlsAgainFound in
lemma tlsAgain_default_of_some {routes : ServerRoutes} (hasDefault : hosts.default = some routes) :
    tlsAgain.default = tls.default := by
  have pairs := run.importedAt (mem_exportedKeys.mpr ⟨hosts, found⟩)
  have listed := run.hostsOf found
  obtain ⟨host, inHosts, isMarked⟩ := listed.defaulted routes hasDefault
  obtain ⟨entry, inContributions, imported⟩ := exists_of_mem_left pairs inHosts
  obtain ⟨certificate, certified⟩ := isSome_iff_exists.mp (identity_isSome ssl imported)
  have claimed : ∃ item ∈ identified (run.compiled.contributionsAt key),
      claimsDefaultTls item = true :=
    ⟨(entry, certificate), mem_identified.mpr ⟨inContributions, certified⟩,
      (run.claimsDefaultTls_eq found inHosts imported).trans isMarked⟩
  obtain ⟨⟨holder, held⟩, inIdentified, isStrong, holds⟩ :=
    Slots.holder_of_strong (fun _ => true) claimed
  obtain ⟨holderIn, holderCertified⟩ := mem_identified.mp inIdentified
  obtain ⟨holderHost, holderInHosts, holderImported⟩ := exists_of_mem_right pairs holderIn
  rw [run.claimsDefaultTls_eq found holderInHosts holderImported] at isStrong
  obtain ⟨_, _, _, tlsEq⟩ := listed.marked holderHost holderInHosts isStrong
  rw [run.tlsAgain_eq found ssl tlsAgainFound, tlsOf_default, holds, map_some,
    ← holderCertified, identity_eq holderImported tlsEq, tlsFound, bind_some]

include run found ssl tlsFound tlsAgainFound in
lemma tlsAgain_default_of_none (noDefault : hosts.default = none) :
    ∃ name ∈ hosts.named, (∀ other ∈ hosts.named, name ≤ other) ∧
      tlsAgain.default = hostIdentity (some tls) name := by
  have pairs := run.importedAt (mem_exportedKeys.mpr ⟨hosts, found⟩)
  have listed := run.hostsOf found
  have unclaimed : ∀ item ∈ identified (run.compiled.contributionsAt key),
      claimsDefaultTls item = false := by
    rintro ⟨entry, certificate⟩ inIdentified
    obtain ⟨inContributions, _⟩ := mem_identified.mp inIdentified
    obtain ⟨host, inHosts, imported⟩ := exists_of_mem_right pairs inContributions
    rw [run.claimsDefaultTls_eq found inHosts imported, ← Bool.not_eq_true]
    intro isMarked
    obtain ⟨_, here, _⟩ := listed.marked host inHosts isMarked
    rw [noDefault] at here
    cases here
  rw [run.tlsAgain_eq found ssl tlsAgainFound, tlsOf_default, Slots.holder_of_weak unclaimed]
  cases shape : hostsAt router wire key with
  | nil => exact absurd shape (run.hostsAt_ne_nil found)
  | cons host restHosts =>
    rw [shape] at pairs
    obtain ⟨entry, rest, imported, _, contributionsEq⟩ := forall₂_cons_left_iff.mp pairs
    obtain ⟨certificate, certified⟩ := isSome_iff_exists.mp (identity_isSome ssl imported)
    have inHosts : host ∈ hostsAt router wire key := shape ▸ mem_cons_self
    obtain ⟨name, inNames, least⟩ := listed.first noDefault host (by rw [shape, head?_cons])
    obtain ⟨routes, named, serves⟩ := listed.named host inHosts name inNames
    refine ⟨name, mem_iff_lookup.mpr ⟨routes, named⟩, least, ?_⟩
    rw [← tlsFound, ← identity_eq imported serves.tls, contributionsEq, certified]
    simp [identified, certified]

end Certificates

end Reimport
end Ngxora.Grpc
