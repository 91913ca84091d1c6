/-
Which certificates the ACME client owns, as the compiler, the check of a reload and the reconciler
decide it.
-/

import Ngxora.Router.DefaultHost
import Ngxora.Control.Snapshot

namespace Ngxora.Server

open PathBuf List Option Results Router Control

def cacheDir (config : LetsEncryptConfig) : PathBuf :=
  config.cacheDir.getD (ofText "/var/lib/ngxora/certs")

structure ManagedCertificate where
  domain : String
  certPath : PathBuf
  keySource : PemSource

/-- What `reconcile` issues for a name of a listener. -/
def managedCertificate (cacheDir : PathBuf) (domain : String) (identity : TlsIdentity) :
    Option ManagedCertificate :=
  match identity.cert with
  | .path certPath =>
    if certPath.startsWith cacheDir then
      some { domain, certPath, keySource := identity.key }
    else none
  | _ => none

/-- The block that gives a name of a listener its certificate: the last one with a
certificate and the name. -/
def namingBlock (http : Http) (key : ListenKey) (domain : String) : Option ListenBlock :=
  (listenBlocks key 0 http.servers).reverse.find? fun block =>
    block.server.tls.isSome &&
      decide (domain ∈ block.server.serverNames.map normalizeHostname)

/-- Compiler, reload check and reconciler have the same answer. -/
structure OwnersAgree (config : LetsEncryptConfig) (router : CompiledRouter)
    (tls : ListenerTlsConfig) (domain : String) (identity : TlsIdentity) (block : ListenBlock) :
    Prop where
  generated_iff : block.server.tls = some .letsEncrypt ↔ isLeIdentity router tls identity = true
  reconciled_iff : isLeIdentity router tls identity = true ↔
    (managedCertificate (cacheDir config) domain identity).isSome = true

/-- The name of an automatic certificate names the directory of a valid name of the
listener; a manual certificate is not a file of the cache directory. -/
def KeepsApart (directory : PathBuf) (tls : ListenerTlsConfig) (block : ListenBlock) : Prop :=
  match block.server.tls with
  | none => True
  | some .letsEncrypt =>
    ∃ name ∈ tls.named.keys, (validateHostname name).isOk ∧
      directory.join (block.server.serverNames.head?.getD "") = directory.join name
  | some (.custom identity) =>
    ∀ path, identity.cert = .path path → path.startsWith directory = false

section

variable {platform : Platform} {http : Http} {router : CompiledRouter}

private lemma named_of_block (compiled : Compiled platform http router) {key : ListenKey}
    {tls : ListenerTlsConfig} (found : router.listenerTls.lookup key = some tls) (domain : String) :
    tls.named.lookup domain = (namingBlock http key domain).bind fun block =>
      block.server.tls.map (tlsIdentity http.sslProvider block.server.serverNames) := by
  obtain ⟨settings, same⟩ := compiled.tlsOf_of_lookup found
  rw [same, tlsOf_named, identified_blocks, ← List.map_reverse, List.find?_map, Option.map_map,
    certifiedBlocks, ← filterMap_reverse, find?_filterMap, map_bind, namingBlock]
  have sameBlocks : (fun block : ListenBlock =>
      ((block.server.tls.map (tlsIdentity http.sslProvider block.server.serverNames)).map
        fun identity => (block, identity)).any
          ((fun entry => covers domain entry.1) ∘ fun entry : ListenBlock × TlsIdentity =>
            (contribution http.sslProvider entry.1.server
              (compiled.routesAt entry.1.index) entry.1.listen, entry.2))) =
      fun block => block.server.tls.isSome &&
        decide (domain ∈ block.server.serverNames.map normalizeHostname) := by
    funext block
    cases block.server.tls with
    | none | some provider => rfl
  rw [sameBlocks]
  congr 1
  funext block
  simp only [Function.comp_apply, Option.map_map]
  rfl

end

private lemma fullchain_simple : Path.Simple "fullchain.pem".toList := by
  constructor <;> decide

variable {config : LetsEncryptConfig} {tls : ListenerTlsConfig} {identity : TlsIdentity}
  {directory : PathBuf}

private lemma isLeIdentity_iff {router : CompiledRouter}
    (hasConfig : router.leConfig = some config) :
    isLeIdentity router tls identity = true ↔
      ∃ name ∈ tls.named.keys, (validateHostname name).isOk = true ∧
        identity.cert = .path (((cacheDir config).join name).join "fullchain.pem") ∧
        identity.key = .path (((cacheDir config).join name).join "privkey.pem") := by
  simp only [isLeIdentity, hasConfig, List.any_eq_true, Bool.and_eq_true, decide_eq_true_eq,
    and_assoc]
  rfl

private lemma isOk_iff {name : String} :
    (validateHostname name).isOk = true ↔ validateHostname name = .ok () := by
  cases validateHostname name with
  | error msg | ok done => simp [Except.isOk, Except.toBool]

private lemma managed_of_isLeIdentity {router : CompiledRouter}
    (hasConfig : router.leConfig = some config) (owned : isLeIdentity router tls identity = true)
    (domain : String) : (managedCertificate (cacheDir config) domain identity).isSome = true := by
  obtain ⟨name, _, valid, cert, _⟩ := (isLeIdentity_iff hasConfig).mp owned
  have below : (((cacheDir config).join name).join "fullchain.pem").startsWith (cacheDir config) =
      true :=
    startsWith_join_join (simple_of_validateHostname (isOk_iff.mp valid)) fullchain_simple
  simp [managedCertificate, cert, below]

private lemma isLeIdentity_generated_iff {router : CompiledRouter}
    (hasConfig : router.leConfig = some config) {serverNames : List String} :
    isLeIdentity router tls (tlsIdentity (some config) serverNames .letsEncrypt) = true ↔
      ∃ name ∈ tls.named.keys, (validateHostname name).isOk = true ∧
        (cacheDir config).join (serverNames.head?.getD "") = (cacheDir config).join name := by
  rw [isLeIdentity_iff hasConfig]
  constructor
  · rintro ⟨name, mem, valid, cert, _⟩
    refine ⟨name, mem, valid, ?_⟩
    exact join_left_injective fullchain_simple (PemSource.path.inj cert)
  · rintro ⟨name, mem, valid, same⟩
    refine ⟨name, mem, valid, ?_, ?_⟩
    · rw [← same]
      rfl
    · rw [← same]
      rfl

variable {domain : String}

private lemma managedCertificate_eq_none :
    (managedCertificate directory domain identity).isSome = false ↔
    ∀ path, identity.cert = .path path → path.startsWith directory = false := by
  obtain ⟨cert, key⟩ := identity
  cases cert with
  | path path | inlinePem pem => simp [managedCertificate]

/-- For every name of every TLS listener, the three parts agree on who owns its
certificate exactly when the names and paths of the configuration keep the automatic
and the manual certificates apart. -/
theorem certificate_owners_agree_iff {platform : Platform} {http : Http} {router : CompiledRouter}
    {config : LetsEncryptConfig} (accepted : fromHttp platform http = .ok router)
    (hasConfig : router.leConfig = some config) {key : ListenKey} {tls : ListenerTlsConfig}
    (found : router.listenerTls.lookup key = some tls) {domain : String} {identity : TlsIdentity}
    (named : tls.named.lookup domain = some identity) :
    ∃ block, namingBlock http key domain = some block ∧
      (OwnersAgree config router tls domain identity block ↔
        KeepsApart (cacheDir config) tls block) := by
  obtain ⟨compiled⟩ := compiled_of_fromHttp accepted
  have provider : http.sslProvider = some config := by
    rw [← hasConfig, ← compiled.base_leConfig]
    exact compiled.frame.leConfig
  rw [named_of_block compiled found, provider] at named
  obtain ⟨block, naming, certified⟩ := bind_eq_some_iff.mp named
  obtain ⟨source, hasSource, same⟩ := map_eq_some_iff.mp certified
  refine ⟨block, naming, ?_⟩
  have manages (owned : isLeIdentity router tls identity = true) :
      (managedCertificate (cacheDir config) domain identity).isSome = true :=
    managed_of_isLeIdentity hasConfig owned domain
  cases source with
  | letsEncrypt =>
    rw [KeepsApart, hasSource, ← isLeIdentity_generated_iff hasConfig, same]
    constructor
    · intro agree
      exact agree.generated_iff.mp hasSource
    · intro owned
      exact ⟨iff_of_true hasSource owned, iff_of_true owned (manages owned)⟩
  | custom manual =>
    have manualEq : manual = identity := same
    subst manualEq
    have apart : KeepsApart (cacheDir config) tls block ↔
        (managedCertificate (cacheDir config) domain manual).isSome = false := by
      rw [KeepsApart, hasSource, managedCertificate_eq_none]
    rw [apart]
    have notGenerated : block.server.tls ≠ some .letsEncrypt := by
      rw [hasSource]
      intro impossible
      cases impossible
    constructor
    · intro agree
      have notOwned : isLeIdentity router tls manual ≠ true :=
        fun owned => notGenerated (agree.generated_iff.mpr owned)
      exact Bool.eq_false_iff.mpr fun managed => notOwned (agree.reconciled_iff.mpr managed)
    · intro unmanaged
      have notOwned : isLeIdentity router tls manual ≠ true := by
        intro owned
        rw [manages owned] at unmanaged
        cases unmanaged
      refine ⟨iff_of_false notGenerated notOwned, iff_of_false notOwned ?_⟩
      rw [unmanaged]
      exact Bool.false_ne_true

namespace CacheExample

def manual (directory : String) : TlsIdentity where
  cert := .path (ofText (directory ++ "/site.pem"))
  key := .path (ofText (directory ++ "/site.key"))

def server (name : String) (provider : SslProvider) : Server where
  serverNames := [name]
  locations := [{ matcher := .pathPrefix "/", directives := [.directResponse 200] }]
  listens := [{ port := 443, ssl := true }]
  tls := some provider

/-- An automatic certificate for one name and a manual one for another. -/
def http (automatic directory : String) : Http where
  servers := [server automatic .letsEncrypt, server "b.example" (.custom (manual directory))]
  sslProvider := some {}

def key : ListenKey where
  addr := .v4 { a := 127, b := 0, c := 0, d := 1 }
  port := 443
  ssl := true

end CacheExample

open CacheExample in
/-- The certificate generated for `A.example` is not recognized by the reload check;
the manual certificate in the cache directory is one the reconciler issues. -/
theorem owners_disagree_on_names_and_files :
    ∃ router config tls automatic,
      fromHttp Reference.platform (http "A.example" "/var/lib/ngxora/certs/manual") = .ok router ∧
      router.leConfig = some config ∧ router.listenerTls.lookup key = some tls ∧
      (namingBlock (http "A.example" "/var/lib/ngxora/certs/manual") key "a.example").map
        (fun block => block.server.tls) = some (some .letsEncrypt) ∧
      tls.named.lookup "a.example" = some automatic ∧
      isLeIdentity router tls automatic = false ∧
      tls.named.lookup "b.example" = some (manual "/var/lib/ngxora/certs/manual") ∧
      isLeIdentity router tls (manual "/var/lib/ngxora/certs/manual") = false ∧
      (managedCertificate (cacheDir config) "b.example"
        (manual "/var/lib/ngxora/certs/manual")).isSome = true := by
  simp only [exists_and_left]
  decide +kernel

open CacheExample in
theorem owners_agree_on_plain_name :
    ∃ router tls automatic config block,
      fromHttp Reference.platform (http "a.example" "/etc/ssl") = .ok router ∧
      tls.named.lookup "a.example" = some automatic ∧
      OwnersAgree config router tls "a.example" automatic block := by
  have run : ∃ router, fromHttp Reference.platform (http "a.example" "/etc/ssl") = .ok router ∧
      ∃ config, router.leConfig = some config ∧
      ∃ tls, router.listenerTls.lookup key = some tls ∧
      ∃ automatic, tls.named.lookup "a.example" = some automatic ∧
      ∃ block, namingBlock (http "a.example" "/etc/ssl") key "a.example" = some block ∧
        block.server.tls = some .letsEncrypt ∧ block.server.serverNames = ["a.example"] ∧
        "a.example" ∈ tls.named.keys := by decide +kernel
  obtain ⟨router, accepted, config, hasConfig, tls, found, automatic, named, block, naming,
    provider, names, member⟩ := run
  obtain ⟨other, sameNaming, agree⟩ := certificate_owners_agree_iff accepted hasConfig
    found named
  have sameBlock : other = block := Option.some.inj (sameNaming.symm.trans naming)
  subst sameBlock
  have apart : KeepsApart (cacheDir config) tls other := by
    rw [KeepsApart, provider, names]
    exact ⟨"a.example", member, by decide, rfl⟩
  exact ⟨router, tls, automatic, config, other, accepted, named, agree.mpr apart⟩

end Ngxora.Server
