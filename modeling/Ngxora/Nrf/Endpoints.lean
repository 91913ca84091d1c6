/-
What holds of every endpoint in the answers of the NRF holds of every endpoint that a group keeps
and selects.
-/

import Ngxora.Nrf.Refresh

namespace Ngxora.Nrf

open List Option Results

variable {Selector : Type} (good : CompiledUpstreamServer → Prop)

def Backend.Good (backend : Backend) : Prop := ∀ server ∈ backend.server, good server

def NrfServicePool.Good (pool : NrfServicePool Selector) : Prop :=
  ∀ service endpoints, pool.services.lookup service = some endpoints →
    ∀ backend ∈ endpoints, backend.Good good

structure NrfServiceTier.Good (tier : NrfServiceTier Selector) : Prop where
  positive : ∀ pool ∈ tier.positiveCapacity, pool.Good good
  zero : ∀ pool ∈ tier.zeroCapacity, pool.Good good

def NrfServiceTopology.Good (topology : NrfServiceTopology Selector) : Prop :=
  ∀ tier ∈ topology.tiers, tier.Good good

def GoodServices (services : List (NrfServiceMetadata × List Backend)) : Prop :=
  ∀ entry ∈ services, ∀ backend ∈ entry.2, backend.Good good

variable {good}

lemma mem_orderedSet {α : Type} {key : α → Nat ×ₗ Nat} {items : List α} {item : α}
    (mem : item ∈ orderedSet key items) : item ∈ items := by
  rw [← mem_insertionSort fun left right => key left ≤ key right]
  unfold orderedSet at mem
  -- the fold drops items of the sorted list and adds none
  generalize items.insertionSort (fun left right => key left ≤ key right) = sorted at mem ⊢
  induction sorted generalizing item with
  | nil => exact mem
  | cons head rest ih =>
    rw [foldr_cons] at mem
    unfold keepLast at mem
    split at mem
    next next others found =>
      split at mem
      · exact mem_cons_of_mem _ (ih (found ▸ mem))
      · rcases mem_cons.mp mem with rfl | later
        · exact mem_cons_self
        · exact mem_cons_of_mem _ (ih (found ▸ later))
    next =>
      rw [mem_singleton.mp mem]
      exact mem_cons_self

variable {hashes : Hashes} {backends : List Backend} {balancer : Balancer Selector}
  {policy : UpstreamSelectionPolicy} {key : List UInt8} {server : CompiledUpstreamServer}
  {settings : Settings Selector} {state : Discovery Selector}

lemma good_dynamicSyntheticBackends {servers : List CompiledUpstreamServer}
    (all : ∀ server ∈ servers, good server)
    (built : dynamicSyntheticBackends hashes servers = .ok backends) :
    ∀ backend ∈ backends, backend.Good good := by
  cases built
  intro backend mem
  refine List.foldlRecOn (motive := fun state : List UInt64 × List Backend =>
    ∀ backend ∈ state.2, backend.Good good) servers _
    (fun _ bad => absurd bad not_mem_nil) ?_ backend (mem_orderedSet mem)
  intro state ok server here backend mem
  rcases mem_append.mp mem with old | new
  · exact ok backend old
  · rw [mem_singleton.mp new]
    rintro _ ⟨⟩
    exact all server here

variable {services : List (NrfServiceMetadata × List Backend)} {pool : NrfServicePool Selector}
  {topology : NrfServiceTopology Selector} {starts : NrfServiceMetadata → Nat}
  {ready : Backend → Bool} {now expiresAt : Nat} {result : DiscoveryResult}

lemma good_poolBuild (all : GoodServices good services)
    (built : NrfServicePool.build hashes balancer services policy = .ok (some pool)) :
    pool.Good good := by
  unfold NrfServicePool.build at built
  split at built
  · cases built
  · obtain ⟨weights, _, selector, _, built⟩ := bind₂_eq_ok.mp built
    cases built
    refine List.foldlRecOn (motive := fun table : Table NrfServiceMetadata (List Backend) =>
      ∀ service endpoints, table.lookup service = some endpoints →
        ∀ backend ∈ endpoints, backend.Good good) (services.zip weights) _
      (fun _ _ found => by cases found) ?_
    intro table ok entry here service endpoints found
    rw [Table.lookup_insert_eq] at found
    split at found
    · cases found
      exact all _ (of_mem_zip here).1
    · exact ok service endpoints found

lemma good_tierBuild {tier : NrfServiceTier Selector} (all : GoodServices good services)
    (built : NrfServiceTier.build hashes balancer services policy = .ok tier) : tier.Good good := by
  unfold NrfServiceTier.build at built
  rw [partition_eq_filter_filter] at built
  obtain ⟨pos, positiveBuilt, zero, zeroBuilt, built⟩ := bind₂_eq_ok.mp built
  cases built
  constructor
  · rintro pool ⟨⟩
    exact good_poolBuild (fun entry mem => all entry (mem_of_mem_filter mem)) positiveBuilt
  · rintro pool ⟨⟩
    exact good_poolBuild (fun entry mem => all entry (mem_of_mem_filter mem)) zeroBuilt

lemma good_addToService {table after : Table NrfServiceMetadata (List Backend)}
    {backend : Backend} (ok : ∀ service endpoints, table.lookup service = some endpoints →
      ∀ backend ∈ endpoints, backend.Good good) (new : backend.Good good)
    (added : addToService table backend = .ok after) :
    ∀ service endpoints, after.lookup service = some endpoints →
      ∀ backend ∈ endpoints, backend.Good good := by
  obtain ⟨server, _, metadata, _, added⟩ := bind₂_eq_ok.mp added
  cases added
  intro service endpoints found other mem
  rw [Table.lookup_insert_eq] at found
  split at found
  · cases found
    rcases mem_append.mp mem with old | this
    · cases known : table.lookup metadata with
      | none => simp [known] at old
      | some others =>
        rw [known] at old
        exact ok metadata others known other old
    · rwa [mem_singleton.mp this]
  · exact ok service endpoints found other mem

lemma good_topologyBuild (all : ∀ backend ∈ backends, backend.Good good)
    (built : NrfServiceTopology.build hashes balancer backends policy = .ok (some topology)) :
    topology.Good good := by
  obtain ⟨table, collected, built⟩ := bind_eq_ok.mp built
  have tableGood : ∀ service endpoints, table.lookup service = some endpoints →
      ∀ backend ∈ endpoints, backend.Good good :=
    foldlM_invariant (fun table : Table NrfServiceMetadata (List Backend) =>
        ∀ service endpoints, table.lookup service = some endpoints →
          ∀ backend ∈ endpoints, backend.Good good)
      (fun _ _ found => by cases found)
      (fun _ backend _ here ok added => good_addToService ok (all backend here) added)
      collected
  simp only at built
  split at built
  · cases built
  · obtain ⟨tiers, tiersBuilt, built⟩ := bind_eq_ok.mp built
    cases built
    intro tier here
    obtain ⟨services, listed, tierBuilt⟩ := exists_of_mem_right (mapM_eq_ok.mp tiersBuilt) here
    refine good_tierBuild (fun entry mem => ?_) tierBuilt
    obtain ⟨priority, _, same⟩ := mem_map.mp listed
    rw [← same] at mem
    obtain ⟨sorted, entered, shape⟩ := mem_map.mp (mem_of_mem_filter mem)
    rw [← shape]
    exact tableGood sorted.1 sorted.2 ((Table.mem_sortedEntries serviceLe).mp entered)

/-- The server of a backend that is ready and good. -/
def Chosen (good : CompiledUpstreamServer → Prop) (ready : Backend → Bool)
    (server : CompiledUpstreamServer) : Prop :=
  ∃ backend : Backend, backend.server = some server ∧ ready backend = true ∧ good server

lemma chosen_poolSelect (all : pool.Good good)
    (selected : pool.select balancer starts key ready = some server) :
    Chosen good ready server := by
  obtain ⟨representative, _, endpoints, found, selected⟩ := Results.bind₂_eq_some.mp selected
  obtain ⟨backend, first, same⟩ := bind_eq_some_iff.mp selected
  have present := mem_rotate.mp (mem_of_find?_eq_some first)
  exact ⟨backend, same, find?_some first, all _ endpoints found backend present server same⟩

lemma chosen_topologySelect (all : topology.Good good)
    (selected : topology.select balancer starts key ready = some server) :
    Chosen good ready server := by
  obtain ⟨tier, present, selected⟩ := exists_of_findSome?_eq_some selected
  rcases or_eq_some_iff.mp selected with pos | ⟨_, zero⟩
  · obtain ⟨pool, here, selected⟩ := bind_eq_some_iff.mp pos
    exact chosen_poolSelect ((all tier present).positive pool here) selected
  · obtain ⟨pool, here, selected⟩ := bind_eq_some_iff.mp zero
    exact chosen_poolSelect ((all tier present).zero pool here) selected

lemma accepted_of_choose {view : View} {accept : CompiledUpstreamServer → Bool}
    {snap : NrfSelectionSnapshot Selector} (all : snap.topology.Good good)
    (chosen : snap.choose settings view key accept = some server) :
    accept server = true ∧ good server := by
  obtain ⟨backend, same, ready, ok⟩ := chosen_topologySelect all chosen
  rw [Bool.and_eq_true, same, any_some] at ready
  exact ⟨ready.2, ok⟩

def DiscoveryResult.Good (good : CompiledUpstreamServer → Prop) (result : DiscoveryResult) : Prop :=
  ∀ server ∈ result.endpoints, good server

def Phase.Good (good : CompiledUpstreamServer → Prop) : Phase → Prop
  | .accepting _ result => result.Good good
  | .trying _ result _ candidates => result.Good good ∧ ∀ backend ∈ candidates, backend.Good good
  | .publishing _ result _ ready => result.Good good ∧ ∀ backend ∈ ready, backend.Good good
  | .published _ result _ _ => result.Good good
  | _ => True

/-- Every endpoint the group keeps is good. -/
structure Discovery.Good (good : CompiledUpstreamServer → Prop) (state : Discovery Selector) :
    Prop where
  selection : ∀ snapshot ∈ state.selection, snapshot.topology.Good good
  candidates : ∀ server ∈ state.schedule.candidates, good server

structure Task.Good (good : CompiledUpstreamServer → Prop) (task : Task Selector) : Prop where
  group : task.group.Good good
  phase : task.phase.Good good

lemma good_publishBackends {update : Except String Unit}
    {selection after : Option (NrfSelectionSnapshot Selector)}
    (old : ∀ snap ∈ selection, snap.topology.Good good)
    (new : ∀ backend ∈ backends, backend.Good good)
    (published : publishBackends settings update selection backends = .ok after) :
    ∀ snap ∈ after, snap.topology.Good good := by
  obtain ⟨topology, built, published⟩ := bind_eq_ok.mp published
  cases topology with
  | none =>
    cases published
    exact fun _ bad => nomatch bad
  | some topology =>
    simp only at published
    split at published
    · cases published
      exact old
    · obtain ⟨_, _, published⟩ := bind_eq_ok.mp published
      cases published
      rintro snap ⟨⟩
      exact good_topologyBuild new built

lemma Discovery.Good.dropSelection (ok : state.Good good) : (dropSelection state).Good good :=
  ⟨(fun _ bad => nomatch bad), ok.candidates⟩

lemma Discovery.Good.clearCount (ok : state.Good good) : (clearCount state).Good good :=
  ⟨ok.selection, ok.candidates⟩

lemma Discovery.Good.planRun (ok : state.Good good) (nextRunAt : Nat) :
    (planRun nextRunAt state).Good good :=
  ⟨ok.selection, ok.candidates⟩

lemma Discovery.Good.noteFailure (ok : state.Good good) (failures : UInt32) (nextRunAt : Nat) :
    (noteFailure failures nextRunAt state).Good good :=
  ⟨ok.selection, ok.candidates⟩

lemma good_recordSuccess {endpointCount : Nat} {schedule : NrfRefreshSchedule}
    (new : result.Good good) (old : ∀ server ∈ schedule.candidates, good server) :
    ∀ server ∈ (recordSuccess settings now result expiresAt endpointCount schedule).candidates,
      good server := by
  intro server mem
  unfold recordSuccess at mem
  simp only at mem
  split at mem
  · exact new server mem
  · exact old server mem

lemma good_acceptResult {build : Except String Unit} {candidates : List Backend}
    (ok : result.Good good)
    (accepted : acceptResult settings build now result = .ok (expiresAt, candidates)) :
    ∀ backend ∈ candidates, backend.Good good := by
  obtain ⟨_, _, _, _, _, _, accepted⟩ := bind₃_eq_ok.mp accepted
  obtain ⟨backends, built, accepted⟩ := bind_eq_ok.mp accepted
  cases accepted
  exact good_dynamicSyntheticBackends ok built

section Weaken

variable {weaker : CompiledUpstreamServer → Prop} (implies : ∀ server, good server → weaker server)
include implies

lemma Backend.Good.mono {backend : Backend} (ok : backend.Good good) : backend.Good weaker :=
  fun server same => implies server (ok server same)

lemma NrfServicePool.Good.mono (ok : pool.Good good) : pool.Good weaker :=
  fun service endpoints found backend mem => (ok service endpoints found backend mem).mono implies

lemma NrfServiceTopology.Good.mono (ok : topology.Good good) : topology.Good weaker :=
  fun tier present =>
    ⟨fun pool here => ((ok tier present).positive pool here).mono implies,
      fun pool here => ((ok tier present).zero pool here).mono implies⟩

lemma DiscoveryResult.Good.mono (ok : result.Good good) : result.Good weaker :=
  fun server mem => implies server (ok server mem)

lemma Phase.Good.mono {phase : Phase} (ok : phase.Good good) : phase.Good weaker := by
  cases phase with
  | accepting now result | published now result expiresAt endpointCount =>
    exact DiscoveryResult.Good.mono implies ok
  | trying now result expiresAt candidates | publishing now result expiresAt ready =>
    exact ⟨DiscoveryResult.Good.mono implies ok.1, fun backend mem =>
      (ok.2 backend mem).mono implies⟩
  | _ => trivial

lemma Task.Good.mono {task : Task Selector} (ok : task.Good good) : task.Good weaker where
  group :=
    { selection := fun snap here => (ok.group.selection snap here).mono implies
      candidates := fun server mem => implies server (ok.group.candidates server mem) }
  phase := ok.phase.mono implies

end Weaken

lemma good_refreshStep {clock : Nat} {before after : Task Selector} {event : Event}
    (ok : before.Good good) (answers : ∀ result, event = .answer (.ok result) → result.Good good)
    (step : refreshStep settings clock before event = some after) : after.Good good := by
  have quiet {phase : Phase} (none : phase.Good good) : (before.at phase).Good good :=
    ⟨ok.group, none⟩
  unfold refreshStep at step
  split at step
  next =>
      cases step
      apply quiet
      split <;> trivial
  next =>
      cases step
      exact ⟨ok.group.dropSelection, trivial⟩
  next =>
      cases step
      exact ⟨ok.group.clearCount, trivial⟩
  next =>
      cases step
      apply quiet
      split
      · trivial
      · split <;> trivial
  next =>
      cases step
      exact ⟨ok.group.planRun _, trivial⟩
  next =>
      cases step
      exact quiet trivial
  next =>
      split at step
      · cases step
        exact ⟨ok.group.dropSelection, trivial⟩
      · cases step
  next =>
      cases step
      exact ⟨ok.group.clearCount, trivial⟩
  next result _ =>
      cases step
      exact quiet (answers result rfl)
  next =>
      cases step
      exact quiet trivial
  next now result build here =>
      have working := ok.phase
      rw [here] at working
      split at step
      next accepted =>
        cases step
        exact quiet ⟨working, good_acceptResult working accepted⟩
      next =>
        cases step
        exact quiet trivial
  next passes here =>
      have working := ok.phase
      rw [here] at working
      cases step
      exact quiet ⟨working.1, fun backend mem => working.2 backend (mem_of_mem_filter mem)⟩
  next here =>
      have working := ok.phase
      rw [here] at working
      split at step
      next published =>
        cases step
        exact ⟨⟨good_publishBackends ok.group.selection working.2 published, ok.group.candidates⟩,
          working.1⟩
      next =>
        cases step
        exact quiet trivial
  next here =>
      have working := ok.phase
      rw [here] at working
      cases step
      exact ⟨⟨ok.group.selection, good_recordSuccess working ok.group.candidates⟩, trivial⟩
  next =>
      cases step
      exact ⟨ok.group.noteFailure _ _, trivial⟩
  next =>
      cases step
      split
      · exact ⟨ok.group.dropSelection, trivial⟩
      · exact quiet trivial
  next =>
      cases step
      exact ⟨ok.group.clearCount, trivial⟩
  next => cases step

end Ngxora.Nrf
