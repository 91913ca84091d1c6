/-
Certificates of handshakes while their files are replaced.
-/

import Ngxora.Control.Concurrent
import Ngxora.Http.Session
import Ngxora.Server.ListenerTls

namespace Ngxora.Server.TlsMaterial

open List Results Router Control Http

abbrev Disk : Type := PathBuf → Except String ByteArray

structure PemLibrary (Cert Key : Type) where
  stackFromPem : ByteArray → Except String (List Cert)
  privateKeyFromPem : ByteArray → Except String Key

structure LoadedTlsIdentity (Cert Key : Type) where
  cert : Cert
  chain : List Cert
  key : Key

variable {Cert Key : Type}

def readSource (disk : Disk) (key : ListenKey) (label : String) :
    PemSource → Except PingoraError ByteArray
  | .path path =>
    (disk path).mapError fun message => Http.explain .internalError
      s!"failed to read {label} for listener {listenKeyAddr key} from {path.display}: {message}"
  | .inlinePem pem => .ok pem.toUTF8

def sourceOrigin : PemSource → String
  | .path path => path.display
  | .inlinePem _ => "inline PEM"

def parsed {α : Type} (label : String) (key : ListenKey) (source : PemSource)
    (result : Except String α) : Except PingoraError α :=
  result.mapError fun message => Http.explain .internalError
    s!"failed to parse {label} for listener {listenKeyAddr key} from {sourceOrigin source}: {message}"

def load (library : PemLibrary Cert Key) (disk : Disk) (key : ListenKey)
    (identity : TlsIdentity) : Except PingoraError (LoadedTlsIdentity Cert Key) := do
  let certBytes ← readSource disk key "ssl certificate" identity.cert
  let certs ← parsed "ssl certificate" key identity.cert (library.stackFromPem certBytes)
  match certs with
  | [] => .error (Http.explain .internalError
      s!"ssl certificate for listener {listenKeyAddr key} does not contain any certificates")
  | cert :: chain =>
    let keyBytes ← readSource disk key "ssl private key" identity.key
    let privateKey ← parsed "ssl private key" key identity.key
      (library.privateKeyFromPem keyBytes)
    pure { cert, chain, key := privateKey }

inductive LoadedPemSourceKey where
  | path (text : String)
  | inline (pem : String)
  deriving DecidableEq

/-- Paths are text here, so `to_str` always has an answer. -/
def sourceKey : PemSource → LoadedPemSourceKey
  | .path path => .path path.display
  | .inlinePem pem => .inline pem

structure LoadedIdentityKey where
  cert : LoadedPemSourceKey
  key : LoadedPemSourceKey
  deriving DecidableEq

def identityKey (identity : TlsIdentity) : LoadedIdentityKey :=
  { cert := sourceKey identity.cert, key := sourceKey identity.key }

lemma sourceKey_injective {left right : PemSource} (same : sourceKey left = sourceKey right) :
    left = right := by
  cases left with
  | path left =>
    cases right with
    | path right =>
      exact congrArg PemSource.path (PathBuf.display_injective (LoadedPemSourceKey.path.inj same))
    | inlinePem pem => cases same
  | inlinePem left =>
    cases right with
    | path right => cases same
    | inlinePem right => exact congrArg PemSource.inlinePem (LoadedPemSourceKey.inline.inj same)

lemma identityKey_injective {left right : TlsIdentity}
    (same : identityKey left = identityKey right) : left = right := by
  have cert := sourceKey_injective (congrArg LoadedIdentityKey.cert same)
  have key := sourceKey_injective (congrArg LoadedIdentityKey.key same)
  cases left
  cases right
  cases cert
  cases key
  rfl

variable {Loaded : Type}

structure LoadedTlsIdentityCache (Loaded : Type) where
  snapshotGeneration : UInt64 := 0
  tlsMaterialGeneration : UInt64 := 0
  identities : Table LoadedIdentityKey Loaded := ∅

def relabel (cache : LoadedTlsIdentityCache Loaded)
    (snapshotGeneration tlsMaterialGeneration : UInt64) : LoadedTlsIdentityCache Loaded :=
  if cache.snapshotGeneration ≠ snapshotGeneration ∨
      cache.tlsMaterialGeneration ≠ tlsMaterialGeneration then
    { snapshotGeneration, tlsMaterialGeneration, identities := ∅ }
  else cache

def loadCached (load : TlsIdentity → Except PingoraError Loaded)
    (cache : LoadedTlsIdentityCache Loaded) (snapshotGeneration tlsMaterialGeneration : UInt64)
    (identity : TlsIdentity) : Except PingoraError Loaded × LoadedTlsIdentityCache Loaded :=
  let cache := relabel cache snapshotGeneration tlsMaterialGeneration
  match cache.identities.lookup (identityKey identity) with
  | some loaded => (.ok loaded, cache)
  | none =>
    match load identity with
    | .error error => (.error error, cache)
    | .ok loaded =>
      (.ok loaded,
        { cache with identities := cache.identities.insert (identityKey identity) loaded })

/-- Every cached identity satisfies `holds` under the label of the cache. -/
def AllCached (holds : UInt64 → LoadedIdentityKey → Loaded → Prop)
    (cache : LoadedTlsIdentityCache Loaded) : Prop :=
  ∀ key loaded, cache.identities.lookup key = some loaded →
    holds cache.tlsMaterialGeneration key loaded

variable {holds : UInt64 → LoadedIdentityKey → Loaded → Prop}
  {cache : LoadedTlsIdentityCache Loaded} {label : UInt64} {platform : Platform}

section Handshakes

variable {library : PemLibrary Cert Key} {listener : ListenKey} {identity : TlsIdentity}

lemma AllCached.imp {later : UInt64 → LoadedIdentityKey → Loaded → Prop}
    (all : AllCached holds cache)
    (weaker : ∀ label key loaded, holds label key loaded → later label key loaded) :
    AllCached later cache :=
  fun key loaded found => weaker _ key loaded (all key loaded found)

lemma relabel_tlsMaterialGeneration (cache : LoadedTlsIdentityCache Loaded)
    (generation label : UInt64) :
    (relabel cache generation label).tlsMaterialGeneration = label := by
  unfold relabel
  split
  · rfl
  · rename_i kept
    exact Decidable.not_not.mp fun ne => kept (.inr ne)

lemma AllCached.relabel (all : AllCached holds cache) (generation label : UInt64) :
    AllCached holds (relabel cache generation label) := by
  unfold TlsMaterial.relabel
  split
  · intro key loaded found
    cases found
  · exact all

lemma loadCached_spec {load : TlsIdentity → Except PingoraError Loaded} (generation : UInt64)
    (all : AllCached holds cache)
    (fresh : ∀ loaded, load identity = .ok loaded → holds label (identityKey identity) loaded) :
    AllCached holds (loadCached load cache generation label identity).2 ∧
      ∀ loaded, (loadCached load cache generation label identity).1 = .ok loaded →
        holds label (identityKey identity) loaded := by
  have relabelled := all.relabel generation label
  have labelled := relabel_tlsMaterialGeneration cache generation label
  unfold loadCached
  cases cached : (relabel cache generation label).identities.lookup (identityKey identity) with
  | some known =>
    simp only [cached]
    constructor
    · exact relabelled
    · intro loaded answered
      cases answered
      exact labelled ▸ relabelled _ _ cached
  | none =>
    cases loading : load identity with
    | error error =>
      simp only [cached]
      constructor
      · exact relabelled
      · intro loaded answered
        cases answered
    | ok known =>
      simp only [cached]
      constructor
      · intro key loaded found
        rw [Table.lookup_insert_eq] at found
        split at found
        · rename_i same
          cases found
          rw [same, labelled]
          exact fresh _ loading
        · exact relabelled _ _ found
      · intro loaded answered
        cases answered
        exact fresh _ loading

/-- `readAt` is the number of replacements before the files were read, which the program
does not see. -/
structure Stamped (α : Type) where
  value : α
  readAt : Nat

abbrev StampedIdentity (Cert Key : Type) : Type := Stamped (LoadedTlsIdentity Cert Key)

/-- A handshake reads the snapshot, then the material generation, then asks the cache. -/
inductive Phase (Cert Key : Type) where
  | connected
  | selected (snapshotGeneration : UInt64) (identity : TlsIdentity)
  | ready (snapshotGeneration tlsMaterialGeneration : UInt64) (identity : TlsIdentity)
  | finished (tlsMaterialGeneration : UInt64) (identity : TlsIdentity)
      (result : Except PingoraError (StampedIdentity Cert Key))
  | refused (error : PingoraError)

structure Handshake (Cert Key : Type) where
  listener : ListenKey
  serverName : Option String
  phase : Phase Cert Key

/-- A call of `invalidate_tls_material`: what it returned, and how many replacements
had happened before it. -/
structure Invalidation where
  generation : UInt64
  replacements : Nat

structure System (Handle Material Cert Key : Type) where
  control : Control.System Handle Material
  tlsMaterialGeneration : UInt64
  disk : Disk
  replaced : List Disk
  caches : ListenKey → LoadedTlsIdentityCache (StampedIdentity Cert Key)
  handshakes : List (Handshake Cert Key)
  invalidations : List Invalidation

inductive Action (Handle Material : Type) where
  | connect (listener : ListenKey) (serverName : Option String)
  | advance (place : Nat)
  | replace (disk : Disk)
  | invalidate
  | control (action : Control.Action Handle Material)

variable {Handle Material : Type}

def System.initial (state : RuntimeState Handle Material) (disk : Disk) :
    System Handle Material Cert Key :=
  { control := Control.System.initial state
    tlsMaterialGeneration := 1
    disk
    replaced := []
    caches := fun _ => {}
    handshakes := []
    invalidations := [] }

def System.diskAfter (system : System Handle Material Cert Key) (replacements : Nat) :
    Option Disk :=
  (system.replaced ++ [system.disk])[replacements]?

/-- `select` up to the call of the cache. -/
def selectIdentity (snapshot : RuntimeSnapshot Handle Material) (listener : ListenKey)
    (serverName : Option String) : Except PingoraError TlsIdentity := do
  let tls ← match snapshot.router.listenerTls.lookup listener with
    | some tls => .ok tls
    | none => .error (Http.explain .internalError
        s!"ssl listener {listenKeyAddr listener} is missing certificate configuration")
  (selectListenerTls listener tls serverName).mapError (Http.explain .internalError)

def System.loadNow (system : System Handle Material Cert Key) (library : PemLibrary Cert Key)
    (listener : ListenKey) (identity : TlsIdentity) :
    Except PingoraError (StampedIdentity Cert Key) :=
  (load library system.disk listener identity).map fun loaded =>
    { value := loaded, readAt := system.replaced.length }

/-- One step of a handshake: its next phase and the cache of its listener after it. -/
def advance (library : PemLibrary Cert Key) (system : System Handle Material Cert Key)
    (handshake : Handshake Cert Key) :
    Option (Phase Cert Key × LoadedTlsIdentityCache (StampedIdentity Cert Key)) :=
  let cache := system.caches handshake.listener
  match handshake.phase with
  | .connected =>
    let snapshot := system.control.shared.current
    match selectIdentity snapshot handshake.listener handshake.serverName with
    | .ok identity => some (.selected snapshot.generation identity, cache)
    | .error error => some (.refused error, cache)
  | .selected snapshotGeneration identity =>
    some (.ready snapshotGeneration system.tlsMaterialGeneration identity, cache)
  | .ready snapshotGeneration tlsMaterialGeneration identity =>
    let answer := loadCached (system.loadNow library handshake.listener) cache
      snapshotGeneration tlsMaterialGeneration identity
    some (.finished tlsMaterialGeneration identity answer.1, answer.2)
  | .finished _ _ _ => none
  | .refused _ => none

/-- The counter wraps as an atomic `u64` does. -/
def invalidateTlsMaterial (system : System Handle Material Cert Key) :
    System Handle Material Cert Key :=
  { system with
    tlsMaterialGeneration := system.tlsMaterialGeneration + 1
    invalidations := system.invalidations ++
      [{ generation := system.tlsMaterialGeneration + 1, replacements := system.replaced.length }] }

def System.moveTo (system : System Handle Material Cert Key) (place : Nat)
    (handshake : Handshake Cert Key) (phase : Phase Cert Key)
    (cache : LoadedTlsIdentityCache (StampedIdentity Cert Key)) : System Handle Material Cert Key :=
  { system with
    caches := Function.update system.caches handshake.listener cache
    handshakes := system.handshakes.set place { handshake with phase } }

lemma System.caches_moveTo (system : System Handle Material Cert Key) (place : Nat)
    (handshake : Handshake Cert Key) (phase : Phase Cert Key)
    (cache : LoadedTlsIdentityCache (StampedIdentity Cert Key)) (listener : ListenKey) :
    (system.moveTo place handshake phase cache).caches listener =
      if listener = handshake.listener then cache else system.caches listener :=
  Function.update_apply ..

def step (platform : Platform) (library : PemLibrary Cert Key)
    (system : System Handle Material Cert Key) :
    Action Handle Material → Option (System Handle Material Cert Key)
  | .connect listener serverName =>
    some { system with
      handshakes := system.handshakes ++
        [{ listener, serverName, phase := .connected }] }
  | .advance place => do
    let handshake ← system.handshakes[place]?
    let (phase, cache) ← advance library system handshake
    pure (system.moveTo place handshake phase cache)
  | .replace disk =>
    some { system with disk, replaced := system.replaced ++ [system.disk] }
  | .invalidate => some (invalidateTlsMaterial system)
  | .control action =>
    (Control.step platform system.control action).map fun control => { system with control }

/-- The identity was read after the replacements that the invalidations up to the
label follow, and it is what the sources held then. -/
structure System.Vouches (library : PemLibrary Cert Key)
    (system : System Handle Material Cert Key) (listener : ListenKey) (label : UInt64)
    (key : LoadedIdentityKey) (loaded : StampedIdentity Cert Key) : Prop where
  current : label ≤ system.tlsMaterialGeneration
  after : ∀ invalidation ∈ system.invalidations, invalidation.generation ≤ label →
    invalidation.replacements ≤ loaded.readAt
  contents : ∃ disk identity, system.diskAfter loaded.readAt = some disk ∧
    identityKey identity = key ∧ load library disk listener identity = .ok loaded.value

def Phase.Fresh (library : PemLibrary Cert Key) (system : System Handle Material Cert Key)
    (listener : ListenKey) : Phase Cert Key → Prop
  | .ready _ label _ => label ≤ system.tlsMaterialGeneration
  | .finished label identity (.ok loaded) =>
    system.Vouches library listener label (identityKey identity) loaded
  | _ => True

/-- The invariant of every run without a wrap. -/
structure System.Fresh (library : PemLibrary Cert Key)
    (system : System Handle Material Cert Key) : Prop where
  counted : system.tlsMaterialGeneration.toNat = system.invalidations.length + 1
  replacements : ∀ invalidation ∈ system.invalidations,
    invalidation.replacements ≤ system.replaced.length
  cached : ∀ listener,
    AllCached (system.Vouches library listener) (system.caches listener)
  handshakes : ∀ handshake ∈ system.handshakes,
    handshake.phase.Fresh library system handshake.listener

lemma System.Fresh.initial (library : PemLibrary Cert Key) (state : RuntimeState Handle Material)
    (disk : Disk) : (System.initial state disk).Fresh library where
  counted := rfl
  replacements := by
    intro invalidation mem
    cases mem
  cached := by
    intro listener key loaded found
    cases found
  handshakes := by
    intro handshake mem
    cases mem

variable {system : System Handle Material Cert Key}

variable {loaded : StampedIdentity Cert Key} {handshake : Handshake Cert Key}
  {action : Action Handle Material}

lemma System.Fresh.vouches_now (fresh : system.Fresh library)
    (cur : label ≤ system.tlsMaterialGeneration)
    (loading : system.loadNow library listener identity = .ok loaded) :
    system.Vouches library listener label (identityKey identity) loaded := by
  obtain ⟨value, loadOk, stamped⟩ := map_eq_ok.mp loading
  subst stamped
  constructor
  · exact cur
  · intro invalidation mem _
    exact fresh.replacements invalidation mem
  · refine ⟨system.disk, identity, ?_, rfl, loadOk⟩
    simp [System.diskAfter]

/-- Nothing that has happened is forgotten, and what has been invalidated since has a
number no handshake had read. -/
structure System.GrowsTo (before after : System Handle Material Cert Key) : Prop where
  generation : before.tlsMaterialGeneration ≤ after.tlsMaterialGeneration
  invalidations : ∀ invalidation ∈ after.invalidations,
    invalidation ∈ before.invalidations ∨ before.tlsMaterialGeneration < invalidation.generation
  disks : ∀ replacements disk, before.diskAfter replacements = some disk →
    after.diskAfter replacements = some disk

variable {before after : System Handle Material Cert Key}

lemma System.GrowsTo.of_same
    (generation : after.tlsMaterialGeneration = before.tlsMaterialGeneration)
    (invalidations : after.invalidations = before.invalidations) (disk : after.disk = before.disk)
    (replaced : after.replaced = before.replaced) : before.GrowsTo after where
  generation := generation ▸ UInt64.le_refl _
  invalidations := by
    intro invalidation mem
    exact .inl (invalidations ▸ mem)
  disks := by
    intro replacements version found
    rwa [System.diskAfter, disk, replaced]

lemma System.GrowsTo.replace (system : System Handle Material Cert Key) (disk : Disk) :
    system.GrowsTo
      { system with disk, replaced := system.replaced ++ [system.disk] } where
  generation := UInt64.le_refl _
  invalidations := by
    intro invalidation mem
    exact .inl mem
  disks := by
    intro replacements version found
    unfold System.diskAfter at found ⊢
    obtain ⟨bound, _⟩ := List.getElem?_eq_some_iff.mp found
    rwa [getElem?_append_left bound]

lemma toNat_succ_generation
    (counted : system.tlsMaterialGeneration.toNat = system.invalidations.length + 1)
    (unwrapped : system.invalidations.length + 2 < UInt64.size) :
    (system.tlsMaterialGeneration + 1).toNat = system.invalidations.length + 2 := by
  have one : (1 : UInt64).toNat = 1 := rfl
  rwa [UInt64.toNat_add, counted, one, Nat.mod_eq_of_lt]

lemma System.GrowsTo.invalidate
    (counted : system.tlsMaterialGeneration.toNat = system.invalidations.length + 1)
    (unwrapped : system.invalidations.length + 2 < UInt64.size) :
    system.GrowsTo (invalidateTlsMaterial system) := by
  have next := toNat_succ_generation counted unwrapped
  have newer : system.tlsMaterialGeneration < system.tlsMaterialGeneration + 1 := by
    rw [UInt64.lt_iff_toNat_lt, next, counted]
    omega
  constructor
  · exact UInt64.le_of_lt newer
  · intro invalidation mem
    rcases mem_append.mp mem with known | added
    · exact .inl known
    · rw [mem_singleton.mp added]
      exact .inr newer
  · intro replacements disk found
    exact found

lemma System.Vouches.mono (grows : before.GrowsTo after) {key : LoadedIdentityKey}
    (vouches : before.Vouches library listener label key loaded) :
    after.Vouches library listener label key loaded where
  current := UInt64.le_trans vouches.current grows.generation
  after := by
    intro invalidation mem observed
    rcases grows.invalidations invalidation mem with known | newer
    · exact vouches.after invalidation known observed
    · -- The label was read before this invalidation counted up.
      have later := UInt64.lt_of_le_of_lt vouches.current newer
      exact absurd observed (UInt64.not_le.mpr later)
  contents := by
    obtain ⟨disk, identity, version, same, loading⟩ := vouches.contents
    exact ⟨disk, identity, grows.disks _ _ version, same, loading⟩

lemma Phase.fresh_finished {res : Except PingoraError (StampedIdentity Cert Key)}
    (vouches : ∀ loaded, res = .ok loaded →
      system.Vouches library listener label (identityKey identity) loaded) :
    (Phase.finished label identity res).Fresh library system listener := by
  cases res with
  | error _ => trivial
  | ok loaded => exact vouches loaded rfl

variable {phase : Phase Cert Key}

lemma Phase.Fresh.mono (grows : before.GrowsTo after)
    (fresh : phase.Fresh library before listener) : phase.Fresh library after listener := by
  cases phase with
  | connected | selected _ _ | refused _ => trivial
  | ready _ label _ => exact UInt64.le_trans fresh grows.generation
  | finished label identity res =>
    cases res with
    | error _ => trivial
    | ok loaded => exact System.Vouches.mono grows fresh

lemma System.Fresh.of_growsTo (fresh : before.Fresh library) (grows : before.GrowsTo after)
    (counted : after.tlsMaterialGeneration.toNat = after.invalidations.length + 1)
    (replacements : ∀ invalidation ∈ after.invalidations,
      invalidation.replacements ≤ after.replaced.length)
    (caches : after.caches = before.caches)
    (handshakes : ∀ handshake ∈ after.handshakes,
      handshake ∈ before.handshakes ∨ handshake.phase = .connected) :
    after.Fresh library where
  counted
  replacements
  cached := by
    intro listener
    rw [caches]
    exact (fresh.cached listener).imp fun _ _ _ vouches => vouches.mono grows
  handshakes := by
    intro handshake mem
    rcases handshakes handshake mem with known | started
    · exact (fresh.handshakes handshake known).mono grows
    · rw [started]
      trivial

lemma System.Fresh.advance (fresh : system.Fresh library) (mem : handshake ∈ system.handshakes)
    {cache : LoadedTlsIdentityCache (StampedIdentity Cert Key)}
    (moved : advance library system handshake = some (phase, cache)) :
    AllCached (system.Vouches library handshake.listener) cache ∧
      phase.Fresh library system handshake.listener := by
  have cached := fresh.cached handshake.listener
  have before := fresh.handshakes handshake mem
  unfold TlsMaterial.advance at moved
  cases here : handshake.phase with
  | connected =>
    simp only [here] at moved
    split at moved
    · cases moved
      exact ⟨cached, trivial⟩
    · cases moved
      exact ⟨cached, trivial⟩
  | selected snapshotGeneration identity =>
    simp only [here] at moved
    cases moved
    exact ⟨cached, UInt64.le_refl _⟩
  | ready snapshotGeneration label identity =>
    simp only [here] at moved
    cases moved
    rw [here] at before
    have now : ∀ loaded, system.loadNow library handshake.listener identity = .ok loaded →
        system.Vouches library handshake.listener label (identityKey identity) loaded :=
      fun loaded loading => fresh.vouches_now before loading
    have answered := loadCached_spec snapshotGeneration cached now
    exact ⟨answered.1, Phase.fresh_finished answered.2⟩
  | finished _ _ _ | refused _ =>
    simp only [here] at moved
    cases moved

lemma System.Fresh.advanced (fresh : system.Fresh library) (place : Nat)
    {cache : LoadedTlsIdentityCache (StampedIdentity Cert Key)}
    (cached : AllCached (system.Vouches library handshake.listener) cache)
    (moved : phase.Fresh library system handshake.listener) :
    (system.moveTo place handshake phase cache).Fresh library := by
  have grows : system.GrowsTo (system.moveTo place handshake phase cache) :=
    System.GrowsTo.of_same rfl rfl rfl rfl
  constructor
  · exact fresh.counted
  · exact fresh.replacements
  · intro listener
    rw [System.caches_moveTo]
    split
    · rename_i same
      rw [same]
      exact cached.imp fun _ _ _ vouches => vouches.mono grows
    · exact (fresh.cached listener).imp fun _ _ _ vouches => vouches.mono grows
  · intro other mem
    rcases mem_or_eq_of_mem_set mem with known | moving
    · exact (fresh.handshakes other known).mono grows
    · rw [moving]
      exact moved.mono grows

lemma System.Fresh.step (fresh : before.Fresh library)
    (stepped : step platform library before action = some after)
    (unwrapped : after.invalidations.length + 1 < UInt64.size) : after.Fresh library := by
  cases action with
  | connect listener serverName =>
    cases stepped
    have grows : before.GrowsTo { before with
        handshakes := before.handshakes ++
          [{ listener, serverName, phase := .connected }] } :=
      System.GrowsTo.of_same rfl rfl rfl rfl
    apply fresh.of_growsTo grows fresh.counted fresh.replacements rfl
    intro handshake mem
    rcases mem_append.mp mem with known | started
    · exact .inl known
    · rw [mem_singleton.mp started]
      exact .inr rfl
  | advance place =>
    obtain ⟨handshake, found, ⟨phase, cache⟩, moved, stepped⟩ := Results.bind₂_eq_some.mp stepped
    cases stepped
    have kept := fresh.advance (mem_of_getElem? found) moved
    exact fresh.advanced place kept.1 kept.2
  | replace disk =>
    cases stepped
    apply fresh.of_growsTo (System.GrowsTo.replace before disk) fresh.counted _ rfl
    · intro handshake mem
      exact .inl mem
    · intro invalidation mem
      have earlier := fresh.replacements invalidation mem
      simp only [length_append, length_singleton]
      omega
  | invalidate =>
    cases stepped
    have bound : before.invalidations.length + 2 < UInt64.size := by
      simpa [invalidateTlsMaterial] using unwrapped
    apply fresh.of_growsTo (System.GrowsTo.invalidate fresh.counted bound) _ _ rfl
    · intro handshake mem
      exact .inl mem
    · simpa [invalidateTlsMaterial] using toNat_succ_generation fresh.counted bound
    · intro invalidation mem
      rcases mem_append.mp mem with known | added
      · exact fresh.replacements invalidation known
      · rw [mem_singleton.mp added]
        exact Nat.le_refl _
  | control action =>
    obtain ⟨control, _, stepped⟩ := Option.map_eq_some_iff.mp stepped
    cases stepped
    have grows : before.GrowsTo { before with control } := System.GrowsTo.of_same rfl rfl rfl rfl
    apply fresh.of_growsTo grows fresh.counted fresh.replacements rfl
    intro handshake mem
    exact .inl mem

lemma length_invalidations_le (stepped : step platform library before action = some after) :
    before.invalidations.length ≤ after.invalidations.length := by
  cases action with
  | connect listener serverName | replace disk =>
    cases stepped
    exact Nat.le_refl _
  | advance place =>
    obtain ⟨handshake, _, ⟨phase, cache⟩, _, stepped⟩ := Results.bind₂_eq_some.mp stepped
    cases stepped
    exact Nat.le_refl _
  | invalidate =>
    cases stepped
    simp [invalidateTlsMaterial]
  | control action =>
    obtain ⟨control, _, stepped⟩ := Option.map_eq_some_iff.mp stepped
    cases stepped
    exact Nat.le_refl _

def System.FreshUntilWrap (library : PemLibrary Cert Key)
    (system : System Handle Material Cert Key) : Prop :=
  system.invalidations.length + 1 < UInt64.size → system.Fresh library

lemma freshUntilWrap_of_reaches {state : RuntimeState Handle Material} {disk : Disk}
    (reached : Runs.Reaches (step platform library) (System.initial state disk) system) :
    system.FreshUntilWrap library := by
  apply reached.invariant
  · intro _
    exact System.Fresh.initial library state disk
  · intro before action after holds stepped bound
    have fewer := length_invalidations_le stepped
    exact (holds (by omega)).step stepped bound

/-- In every run in which the material counter has not wrapped: whatever a handshake
that read a material generation answers with was read from disk after every
replacement that happened before the invalidations up to that generation, and it is
what the certificate and key of its identity held then. -/
theorem handshake_material_current {platform : Platform} {library : PemLibrary Cert Key}
    {state : RuntimeState Handle Material} {disk : Disk} {system : System Handle Material Cert Key}
    (reached : Runs.Reaches (step platform library) (System.initial state disk) system)
    (unwrapped : system.invalidations.length + 1 < UInt64.size) {handshake : Handshake Cert Key}
    (member : handshake ∈ system.handshakes) {tlsMaterialGeneration : UInt64}
    {identity : TlsIdentity} {loaded : StampedIdentity Cert Key}
    (answered : handshake.phase = .finished tlsMaterialGeneration identity (.ok loaded)) :
    (∀ invalidation ∈ system.invalidations, invalidation.generation ≤ tlsMaterialGeneration →
      invalidation.replacements ≤ loaded.readAt) ∧
    ∃ version, system.diskAfter loaded.readAt = some version ∧
      load library version handshake.listener identity = .ok loaded.value := by
  have vouches := (freshUntilWrap_of_reaches reached unwrapped).handshakes handshake member
  rw [answered] at vouches
  constructor
  · exact vouches.after
  · rcases vouches.contents with ⟨version, source, found, same, loading⟩
    rw [identityKey_injective same] at loading
    exact ⟨version, found, loading⟩

end Handshakes

namespace LateHandshake

def listener : ListenKey :=
  { addr := .v4 { a := 127, b := 0, c := 0, d := 1 }, port := 443, ssl := true }

def identity : TlsIdentity :=
  { cert := .path (PathBuf.ofText "/etc/cert.pem"), key := .path (PathBuf.ofText "/etc/key.pem") }

def router : CompiledRouter :=
  { listenerTls := AList.singleton listener { default := some identity } }

def state : RuntimeState Unit Unit :=
  { current := { generation := 1, version := "v1", router }
    bootstrapConfig := restartFingerprint router
    poisoned := false }

def library : PemLibrary Nat Nat :=
  { stackFromPem := fun bytes => .ok [bytes.size]
    privateKeyFromPem := fun bytes => .ok bytes.size }

def disk (bytes : ByteArray) : Disk := fun _ => .ok bytes

/-- The first handshake reads the generation before the replacement and asks the
cache between two handshakes that read it afterwards. -/
def actions : List (Action Unit Unit) :=
  [.connect listener none, .advance 0, .advance 0, .replace (disk ⟨#[0]⟩), .invalidate,
    .connect listener none, .advance 1, .advance 1, .advance 1, .advance 0,
    .connect listener none, .advance 2, .advance 2, .advance 2]

def thirdServed (system : System Unit Unit Nat Nat) : Bool :=
  match (system.handshakes[2]? : Option (Handshake Nat Nat)), system.invalidations with
  | some ⟨_, _, .finished label _ (.ok _)⟩, [invalidation] =>
    decide (label = 2 ∧ invalidation.generation = 2 ∧ invalidation.replacements = 1)
  | _, _ => false

end LateHandshake

open LateHandshake in
theorem late_handshake_harmless :
    ∃ (system : System Unit Unit Nat Nat) (handshake : Handshake Nat Nat)
        (chosen : TlsIdentity) (loaded : StampedIdentity Nat Nat),
      Runs.Reaches (step Reference.platform library)
        (System.initial state (disk ByteArray.empty)) system ∧
      handshake ∈ system.handshakes ∧ handshake.phase = .finished 2 chosen (.ok loaded) ∧
      (∃ invalidation ∈ system.invalidations,
        invalidation.generation = 2 ∧ invalidation.replacements = 1) ∧
      1 ≤ loaded.readAt := by
  have run : ∃ system, actions.foldlM (step Reference.platform library)
      (System.initial state (disk ByteArray.empty)) = some system ∧ thirdServed system = true := by
    decide +kernel
  rcases run with ⟨system, ran, run⟩
  have reached := Runs.reaches_of_foldlM ran
  unfold thirdServed at run
  split at run
  · rename_i listener serverName label chosen loaded invalidation found only
    rcases of_decide_eq_true run with ⟨read, produced, before⟩
    have member := mem_of_getElem? found
    have observed : invalidation ∈ system.invalidations := by
      rw [only]
      exact mem_singleton_self _
    have unwrapped : system.invalidations.length + 1 < UInt64.size := by
      rw [only, length_singleton]
      decide
    have current := (handshake_material_current reached unwrapped member rfl).1 invalidation
      observed (produced.trans read.symm ▸ UInt64.le_refl _)
    rw [before] at current
    exact ⟨system, _, chosen, loaded, reached, member, by rw [read],
      ⟨invalidation, observed, produced, before⟩, current⟩
  · cases run

end Ngxora.Server.TlsMaterial
