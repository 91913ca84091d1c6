/-
The server blocks that give a listener its default host and default certificate.
-/

import Ngxora.Reference
import Ngxora.Router.Blocks

namespace Ngxora.Router

open Bool List Option Results Slots

def routeDefaultBlock (blocks : List ListenBlock) : Option Nat :=
  blocks.foldl (fun owner block =>
    routeDefaultRule block.server.serverNames block.listen block.index owner) none

def tlsDefaultBlock (blocks : List ListenBlock) : Option Nat :=
  blocks.foldl (fun owner block => if block.server.tls.isSome then
      tlsDefaultRule block.server.serverNames block.listen block.index owner
    else owner) none

/-- The blocks of a key whose default host and default certificate go together:
no block without names comes after the last `default_server` block, and without
such a block at most one block has no names. -/
structure DefaultsAligned (blocks : List ListenBlock) : Prop where
  afterMarked : ∀ unnamed ∈ blocks, unnamed.isUnnamed → (∃ block ∈ blocks, block.isDefaultServer) →
    ∃ marked ∈ blocks, marked.isDefaultServer ∧ unnamed.index ≤ marked.index
  oneUnnamed : (¬∃ block ∈ blocks, block.isDefaultServer) →
    ∀ first ∈ blocks, ∀ second ∈ blocks, first.isUnnamed → second.isUnnamed →
      first.index = second.index

variable {servers : List Server} {blocks : List ListenBlock}

private lemma server_of_listenBlocks {key : ListenKey} {block : ListenBlock}
    (mem : block ∈ listenBlocks key 0 servers) : servers[block.index]? = some block.server := by
  obtain ⟨⟨server, index⟩, place, listened⟩ := mem_flatMap.mp (mem_of_mem_filter mem)
  obtain ⟨listen, _, rfl⟩ := mem_map.mp listened
  exact mem_zipIdx_iff_getElem?.mp place

private lemma listenBlocks_sorted (key : ListenKey) (start : Nat) (servers : List Server) :
    (listenBlocks key start servers).Pairwise fun old later => old.index ≤ later.index := by
  have sorted : ((servers.zipIdx start).map Prod.snd).Pairwise (· < ·) := by
    rw [zipIdx_map_snd]
    exact pairwise_lt_range'
  refine List.Pairwise.filter _ (pairwise_flatMap.mpr ⟨?_, ?_⟩)
  · intro entry _
    rw [pairwise_map]
    exact pairwise_of_forall fun _ _ => le_refl _
  · refine (pairwise_map.mp sorted).imp fun before old inOld later inLater => ?_
    obtain ⟨_, _, rfl⟩ := mem_map.mp inOld
    obtain ⟨_, _, rfl⟩ := mem_map.mp inLater
    exact Nat.le_of_lt before

variable (leConfig : Option LetsEncryptConfig)

def certifiedBlocks (blocks : List ListenBlock) : List (ListenBlock × TlsIdentity) :=
  blocks.filterMap fun block =>
    (block.server.tls.map (tlsIdentity leConfig block.server.serverNames)).map fun identity =>
      (block, identity)

private lemma certifiedBlocks_fst (certified : ∀ block ∈ blocks, block.server.tls.isSome) :
    (certifiedBlocks leConfig blocks).map Prod.fst = blocks := by
  induction blocks with
  | nil => rfl
  | cons block rest ih =>
    obtain ⟨here, later⟩ := forall_mem_cons.mp certified
    obtain ⟨provider, providerEq⟩ := isSome_iff_exists.mp here
    have head : certifiedBlocks leConfig (block :: rest) =
        (block, tlsIdentity leConfig block.server.serverNames provider) ::
          certifiedBlocks leConfig rest := by
      simp [certifiedBlocks, providerEq]
    rw [head, map_cons, ih later]

private lemma certifiedBlocks_mem {leConfig : Option LetsEncryptConfig}
    {entry : ListenBlock × TlsIdentity} (mem : entry ∈ certifiedBlocks leConfig blocks) :
    entry.1 ∈ blocks ∧ ∃ provider, entry.1.server.tls = some provider ∧
      entry.2 = tlsIdentity leConfig entry.1.server.serverNames provider := by
  obtain ⟨block, here, found⟩ := mem_filterMap.mp mem
  obtain ⟨identity, identityEq, same⟩ := map_eq_some_iff.mp found
  obtain ⟨provider, providerEq, computed⟩ := map_eq_some_iff.mp identityEq
  subst same
  exact ⟨here, provider, providerEq, computed.symm⟩

private lemma routeDefaultBlock_eq (blocks : List ListenBlock) : routeDefaultBlock blocks =
    (holder ListenBlock.isDefaultServer ListenBlock.isUnnamed blocks).map
      ListenBlock.index :=
  foldl_claim_none ListenBlock.isDefaultServer ListenBlock.isUnnamed ListenBlock.index blocks

def ListenBlock.claimsDefaultTls (block : ListenBlock) : Bool :=
  block.isDefaultServer || block.isUnnamed

private lemma tlsDefaultBlock_eq (blocks : List ListenBlock) :
    tlsDefaultBlock blocks =
      (holder (fun entry : ListenBlock × TlsIdentity => entry.1.claimsDefaultTls)
        (fun _ => true) (certifiedBlocks leConfig blocks)).map fun entry => entry.1.index := by
  rw [← foldl_claim_none, certifiedBlocks, foldl_filterMap, tlsDefaultBlock]
  congr 1
  funext owner block
  cases provider : block.server.tls with
  | none => rfl
  | some provider =>
    simp only [isSome_some, if_true, map_some, tlsDefaultRule, claim,
      ListenBlock.claimsDefaultTls, ListenBlock.isDefaultServer, ListenBlock.isUnnamed,
      Bool.true_and, Bool.or_assoc, Bool.or_comm owner.isNone]

private lemma owners_eq_iff {routeOwner tlsOwner : ListenBlock}
    (sorted : blocks.Pairwise fun old later => old.index ≤ later.index)
    (routeHolds : holder ListenBlock.isDefaultServer ListenBlock.isUnnamed blocks =
      some routeOwner)
    (tlsHolds : holder ListenBlock.claimsDefaultTls (fun _ => true) blocks = some tlsOwner) :
    routeOwner.index = tlsOwner.index ↔ DefaultsAligned blocks := by
  have claims : ∀ block : ListenBlock, block.isDefaultServer ∨ block.isUnnamed →
      block.claimsDefaultTls := by
    intro block either
    simpa [ListenBlock.claimsDefaultTls] using either
  have tlsLast : ∀ claimant ∈ blocks, claimant.claimsDefaultTls →
      blocks.reverse.find? ListenBlock.claimsDefaultTls = some tlsOwner := by
    intro claimant mem claiming
    rcases or_eq_some_iff.mp tlsHolds with found | ⟨absent, _⟩
    · exact found
    · exact absurd claiming (find?_eq_none.mp absent claimant (mem_reverse.mpr mem))
  rcases or_eq_some_iff.mp routeHolds with lastMarked | ⟨noMarked, firstUnnamed⟩
  · -- The last `default_server` block owns the routes.
    have ownerMarked := find?_some lastMarked
    have ownerMember := mem_reverse.mp (mem_of_find?_eq_some lastMarked)
    have lastClaim := tlsLast routeOwner ownerMember (claims _ (.inl ownerMarked))
    have tlsMember := mem_reverse.mp (mem_of_find?_eq_some lastClaim)
    have below : routeOwner.index ≤ tlsOwner.index :=
      le_last sorted lastClaim ownerMember (claims _ (.inl ownerMarked))
    constructor
    · intro same
      refine ⟨?_, fun none => absurd ⟨routeOwner, ownerMember, ownerMarked⟩ none⟩
      intro unnamed mem isUnnamed _
      refine ⟨routeOwner, ownerMember, ownerMarked, ?_⟩
      rw [same]
      exact le_last sorted lastClaim mem (claims _ (.inr isUnnamed))
    · intro aligned
      have claimed := find?_some lastClaim
      rw [ListenBlock.claimsDefaultTls, or_eq_true] at claimed
      rcases claimed with marked | isUnnamed
      · exact Nat.le_antisymm below (le_last sorted lastMarked tlsMember marked)
      · obtain ⟨marked, markedMember, isMarked, after⟩ := aligned.afterMarked tlsOwner tlsMember
          isUnnamed ⟨routeOwner, ownerMember, ownerMarked⟩
        exact Nat.le_antisymm below
          (after.trans (le_last sorted lastMarked markedMember isMarked))
  · -- Without a `default_server` block the first block without names owns them.
    have unmarked : ¬∃ block ∈ blocks, block.isDefaultServer := by
      rintro ⟨block, mem, marked⟩
      exact find?_eq_none.mp noMarked block (mem_reverse.mpr mem) marked
    have ownerUnnamed := find?_some firstUnnamed
    have ownerMember := mem_of_find?_eq_some firstUnnamed
    have lastClaim := tlsLast routeOwner ownerMember (claims _ (.inr ownerUnnamed))
    have tlsMember := mem_reverse.mp (mem_of_find?_eq_some lastClaim)
    constructor
    · intro same
      have allSame : ∀ block ∈ blocks, block.isUnnamed → block.index = routeOwner.index := by
        intro block mem isUnnamed
        have above := first_le sorted firstUnnamed mem isUnnamed
        have under := le_last sorted lastClaim mem (claims _ (.inr isUnnamed))
        omega
      refine ⟨fun _ _ _ marked => absurd marked unmarked, fun _ => ?_⟩
      intro first firstMember second secondMember firstUnnamed secondUnnamed
      rw [allSame first firstMember firstUnnamed, allSame second secondMember secondUnnamed]
    · intro aligned
      have claimed := find?_some lastClaim
      rw [ListenBlock.claimsDefaultTls, or_eq_true] at claimed
      rcases claimed with marked | isUnnamed
      · exact absurd ⟨tlsOwner, tlsMember, marked⟩ unmarked
      · exact aligned.oneUnnamed unmarked routeOwner ownerMember tlsOwner tlsMember ownerUnnamed
          isUnnamed

section

variable {platform : Platform} {http : Http} {router : CompiledRouter}
variable (compiled : Compiled platform http router)

private lemma default_routes_of_block {key : ListenKey} {listener : VirtualHostRoutes}
    (found : router.listeners.lookup key = some listener) :
    listener.default = (holder ListenBlock.isDefaultServer ListenBlock.isUnnamed
        (listenBlocks key 0 http.servers)).map
          fun block => compiled.routesAt block.index := by
  rw [compiled.listeners_lookup key] at found
  split at found
  next => cases found
  next =>
    have listenerEq := Option.some.inj found
    rw [← listenerEq, hostsOf_default, compiled.contributionsAt_blocks, holder_map, Option.map_map]
    rfl

lemma identified_blocks (key : ListenKey) :
    identified (compiled.contributionsAt key) =
      (certifiedBlocks http.sslProvider (listenBlocks key 0 http.servers)).map fun entry =>
        (contribution http.sslProvider entry.1.server
          (compiled.routesAt entry.1.index) entry.1.listen, entry.2) := by
  rw [identified, compiled.contributionsAt_blocks, filterMap_map, certifiedBlocks, map_filterMap]
  congr 1
  funext block
  simp only [Function.comp_apply, contribution, Option.map_map]
  rfl

private lemma default_identity_of_block (key : ListenKey) (settings : ListenerTlsSettings) :
    (tlsOf settings (compiled.contributionsAt key)).default =
      (holder (fun entry : ListenBlock × TlsIdentity => entry.1.claimsDefaultTls)
        (fun _ => true)
        (certifiedBlocks http.sslProvider (listenBlocks key 0 http.servers))).map Prod.snd := by
  rw [tlsOf_default, identified_blocks, holder_map, Option.map_map]
  rfl

end

/-- On a TLS listener whose blocks all have a certificate, the blocks that give
the default host and the default certificate are the same block exactly when the
blocks of the listener are aligned. -/
theorem default_host_and_certificate_blocks {platform : Platform} {http : Http}
    {router : CompiledRouter} {key : ListenKey} {listener : VirtualHostRoutes}
    (accepted : fromHttp platform http = .ok router) (ssl : key.ssl = true)
    (found : router.listeners.lookup key = some listener) (hasDefault : listener.default.isSome)
    (certified : ∀ block ∈ listenBlocks key 0 http.servers, block.server.tls.isSome) :
    ∃ routeBlock tlsBlock hostServer hostRoutes startId endId tlsServer provider tls,
      routeDefaultBlock (listenBlocks key 0 http.servers) = some routeBlock ∧
      http.servers[routeBlock]? = some hostServer ∧
      compileServer platform router startId hostServer = .ok (hostRoutes, endId) ∧
      listener.default = some hostRoutes ∧
      tlsDefaultBlock (listenBlocks key 0 http.servers) = some tlsBlock ∧
      http.servers[tlsBlock]? = some tlsServer ∧ tlsServer.tls = some provider ∧
      router.listenerTls.lookup key = some tls ∧
      tls.default = some (tlsIdentity http.sslProvider tlsServer.serverNames provider) ∧
      (routeBlock = tlsBlock ↔ DefaultsAligned (listenBlocks key 0 http.servers)) := by
  obtain ⟨compiled⟩ := compiled_of_fromHttp accepted
  have sorted := listenBlocks_sorted key 0 http.servers
  -- The owner of the default host.
  have routesDefault := default_routes_of_block compiled found
  rw [routesDefault, isSome_map] at hasDefault
  obtain ⟨routeOwner, routeHolds⟩ := isSome_iff_exists.mp hasDefault
  have routeMember := holder_mem routeHolds
  have routeServer := server_of_listenBlocks routeMember
  obtain ⟨hostRoutes, startId, endId, routesAt, compiledHost⟩ :=
    compileServers_getElem compiled.routesOk routeServer
  rw [compileServer_congr compiled.frame] at compiledHost
  -- The owner of the default certificate.
  have tlsHolds : ∃ entry, holder
      (fun entry : ListenBlock × TlsIdentity => entry.1.claimsDefaultTls) (fun _ => true)
      (certifiedBlocks http.sslProvider (listenBlocks key 0 http.servers)) = some entry := by
    have member : routeOwner ∈
        (certifiedBlocks http.sslProvider (listenBlocks key 0 http.servers)).map Prod.fst := by
      rw [certifiedBlocks_fst http.sslProvider certified]
      exact routeMember
    obtain ⟨entry, entryMember, _⟩ := mem_map.mp member
    rw [← isSome_iff_exists]
    exact holder_isSome entryMember rfl
  obtain ⟨tlsOwner, tlsHolds⟩ := tlsHolds
  obtain ⟨tlsMember, provider, providerEq, identityEq⟩ :=
    certifiedBlocks_mem (holder_mem tlsHolds)
  have tlsServer := server_of_listenBlocks tlsMember
  have tlsBlockHolds : holder ListenBlock.claimsDefaultTls (fun _ => true)
      (listenBlocks key 0 http.servers) = some tlsOwner.1 := by
    rw [← certifiedBlocks_fst http.sslProvider certified, holder_map, tlsHolds]
    rfl
  -- The TLS entry of the listener.
  obtain ⟨first, rest, shape⟩ : ∃ first rest, compiled.contributionsAt key = first :: rest := by
    apply exists_cons_of_ne_nil
    rw [compiled.contributionsAt_blocks]
    exact fun empty => ne_nil_of_mem routeMember (map_eq_nil_iff.mp empty)
  refine ⟨routeOwner.index, tlsOwner.1.index, routeOwner.server, hostRoutes, startId, endId,
    tlsOwner.1.server, provider, _, ?_, routeServer, compiledHost, ?_, ?_, tlsServer, providerEq,
    compiled.listenerTls_lookup ssl shape, ?_, owners_eq_iff sorted routeHolds tlsBlockHolds⟩
  · rw [routeDefaultBlock_eq, routeHolds]
    rfl
  · rw [routesDefault, routeHolds, map_some, Compiled.routesAt, routesAt]
    rfl
  · rw [tlsDefaultBlock_eq http.sslProvider, tlsHolds]
    rfl
  · rw [default_identity_of_block, tlsHolds, map_some, identityEq]

namespace SplitDefaults

def identity (name : String) : TlsIdentity :=
  { cert := .path (PathBuf.ofText ("/" ++ name ++ ".pem"))
    key := .path (PathBuf.ofText ("/" ++ name ++ ".key")) }

def answer (status : UInt16) : Location :=
  { matcher := .pathPrefix "/", directives := [.directResponse status] }

def marked : Server :=
  { serverNames := ["a.example"]
    locations := [answer 200]
    listens := [{ port := 443, ssl := true, defaultServer := true }]
    tls := some (.custom (identity "a")) }

def unnamed : Server :=
  { locations := [answer 404]
    listens := [{ port := 443, ssl := true }]
    tls := some (.custom (identity "b")) }

def http : Http := { servers := [marked, unnamed] }

def key : ListenKey :=
  { addr := .v4 { a := 127, b := 0, c := 0, d := 1 }, port := 443, ssl := true }

end SplitDefaults

/-- The default host is the `default_server` block, the default certificate that
of the block after it. -/
theorem default_certificate_of_later_block :
    ∃ router listener tls,
      fromHttp Reference.platform SplitDefaults.http = .ok router ∧
      router.listeners.lookup SplitDefaults.key = some listener ∧
      router.listenerTls.lookup SplitDefaults.key = some tls ∧
      (listener.default.map fun routes => routes.locations.map CompiledLocation.target) =
        some [.action (.directResponse 200)] ∧
      tls.default = some (SplitDefaults.identity "b") ∧
      routeDefaultBlock (listenBlocks SplitDefaults.key 0 SplitDefaults.http.servers) = some 0 ∧
      tlsDefaultBlock (listenBlocks SplitDefaults.key 0 SplitDefaults.http.servers) = some 1 :=
  ⟨_, _, _, rfl, rfl, rfl, rfl, rfl, rfl, rfl⟩

theorem split_defaults_not_aligned :
    ¬DefaultsAligned (listenBlocks SplitDefaults.key 0 SplitDefaults.http.servers) := by
  have accepted : ∃ router, fromHttp Reference.platform SplitDefaults.http = .ok router := ⟨_, rfl⟩
  obtain ⟨router, accepted⟩ := accepted
  have found : ∃ listener, router.listeners.lookup SplitDefaults.key = some listener ∧
      listener.default.isSome = true := by
    cases accepted
    exact ⟨_, rfl, rfl⟩
  obtain ⟨listener, found, hasDefault⟩ := found
  obtain ⟨routeBlock, tlsBlock, _, _, _, _, _, _, _, routeEq, _, _, _, tlsEq, _, _, _, _, same⟩ :=
    default_host_and_certificate_blocks accepted rfl found hasDefault (by decide)
  intro aligned
  have equal := same.mpr aligned
  have routeZero : some 0 = some routeBlock := routeEq
  have tlsOne : some 1 = some tlsBlock := tlsEq
  rw [← Option.some.inj routeZero, ← Option.some.inj tlsOne] at equal
  cases equal

end Ngxora.Router
