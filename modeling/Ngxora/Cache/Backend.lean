/-
The caches of all locations, shared by threads.
-/

import Ngxora.Cache.Store

namespace Ngxora.Cache

open LocationCache List

/-- `heap` holds every location cache ever created: one that left the map stays alive for
the threads that hold it. -/
structure Stores where
  generation : UInt64
  locations : Table UInt64 Nat
  heap : List LocationCache

inductive Request where
  | get
  | getStale
  | recordMiss
  | put (response : CachedResponse)

structure Access where
  request : Request
  key : CacheKey
  config : CacheConfig

inductive Call where
  | access (access : Access)
  | advanceGeneration (generation : UInt64)
  | invalidateRoute (routeId : UInt64)

inductive Outcome where
  | response (found : Option CachedResponse)
  | reached (threshold : Bool)
  | done

inductive Thread where
  | started (call : Call)
  /-- The map has no cache for the location; the write lock comes next. -/
  | creating (access : Access)
  | holding (access : Access) (handle : Nat)
  /-- `advance_generation` between its two locks. -/
  | retiring (generation : UInt64)
  | returned (call : Call) (outcome : Outcome)

/-- What a step finds outside: the clock, the order of the hash maps and the default
size limit. -/
structure Moment where
  now : Nat
  choose : Chooser
  defaultMaxSize : UInt64

def maxSize (defaultMaxSize : UInt64) (config : CacheConfig) : UInt64 :=
  config.maxSize.getD defaultMaxSize

namespace Request

def creates : Request → Bool
  | .get | .getStale => false
  | .recordMiss | .put _ => true

def nothing : Request → Outcome
  | .get | .getStale => .response none
  | .recordMiss => .reached false
  | .put _ => .done

end Request

def Request.accepts (config : CacheConfig) : Request → Option Duration
  | .getStale => config.staleIfError.map fun stale => (cacheTtl config).saturatingAdd stale
  | _ => some (cacheTtl config)

/-- The part of `store` under the read lock. -/
inductive Lookup where
  | refused
  | found (handle : Nat)
  | missing

def storeRead (stores : Stores) (access : Access) : Lookup :=
  if !access.config.enabled then .refused
  else if access.key.generation < stores.generation then .refused
  else
    match stores.locations.lookup access.key.routeId with
    | some handle => .found handle
    | none => if access.request.creates then .missing else .refused

/-- The part of `store` under the write lock. -/
def storeWrite (moment : Moment) (stores : Stores) (access : Access) : Stores × Option Nat :=
  if access.key.generation < stores.generation then (stores, none)
  else
    match stores.locations.lookup access.key.routeId with
    | some handle => (stores, some handle)
    | none =>
      ({ stores with
          locations := stores.locations.insert access.key.routeId stores.heap.length
          heap := stores.heap ++
            [new access.config (maxSize moment.defaultMaxSize access.config)
              moment.now] },
        some stores.heap.length)

def findResponse (now : Nat) (age : Duration) (key : CacheKey) (cache : LocationCache) :
    Option CachedResponse :=
  (cache.entries.lookup key).filter fun response => now - response.createdAt < age.nanos

/-- The part of an operation under the lock of the location's cache. -/
def perform (moment : Moment) (access : Access) (cache : LocationCache) :
    Option (LocationCache × Outcome) :=
  match access.request with
  | .get | .getStale =>
    some (cache, .response ((access.request.accepts access.config).bind fun age =>
      findResponse moment.now age access.key cache))
  | .recordMiss => do
    let cache ← cache.syncLimits moment.choose moment.now access.config
      (maxSize moment.defaultMaxSize access.config)
    let (threshold, cache) ← cache.recordMiss moment.choose moment.now access.key
      (access.config.minUses.getD 1)
    some (cache, .reached threshold)
  | .put response => do
    let cache ← cache.syncLimits moment.choose moment.now access.config
      (maxSize moment.defaultMaxSize access.config)
    let cache ← cache.put moment.choose access.key response
    some (cache, .done)

/-- What a thread does while it holds a lock is one step. -/
def advance (moment : Moment) (stores : Stores) : Thread → Option (Stores × Thread)
  | .started (.access access) =>
    if (access.request.accepts access.config).isNone then
      some (stores, .returned (.access access) access.request.nothing)
    else
      match storeRead stores access with
      | .refused => some (stores, .returned (.access access) access.request.nothing)
      | .found handle => some (stores, .holding access handle)
      | .missing => some (stores, .creating access)
  | .creating access =>
    match storeWrite moment stores access with
    | (stores, none) => some (stores, .returned (.access access) access.request.nothing)
    | (stores, some handle) => some (stores, .holding access handle)
  | .holding access handle => do
    let cache ← stores.heap[handle]?
    let (cache, outcome) ← perform moment access cache
    some ({ stores with heap := stores.heap.set handle cache },
      .returned (.access access) outcome)
  | .started (.advanceGeneration generation) =>
    if generation ≤ stores.generation then
      some (stores, .returned (.advanceGeneration generation) .done)
    else some (stores, .retiring generation)
  | .retiring generation =>
    if generation > stores.generation then
      some ({ stores with locations := ∅, generation },
        .returned (.advanceGeneration generation) .done)
    else some (stores, .returned (.advanceGeneration generation) .done)
  | .started (.invalidateRoute routeId) =>
    some ({ stores with locations := stores.locations.erase routeId },
      .returned (.invalidateRoute routeId) .done)
  | .returned _ _ => none

structure System where
  stores : Stores
  threads : List Thread

inductive Action where
  | start (call : Call)
  | run (thread : Nat) (moment : Moment)

def System.start (call : Call) (system : System) : System :=
  { system with threads := system.threads ++ [.started call] }

def step (system : System) : Action → Option System
  | .start call => some (system.start call)
  | .run place moment => do
    let thread ← system.threads[place]?
    let (stores, thread) ← advance moment system.stores thread
    some { stores, threads := system.threads.set place thread }

def System.initial : System where
  stores := { generation := 0, locations := ∅, heap := [] }
  threads := []

/-- Nothing of an older generation is stored. -/
structure LocationCache.Since (generation : UInt64) (cache : LocationCache) : Prop where
  entries : ∀ key ∈ cache.entries, generation ≤ key.generation
  counts : ∀ key ∈ cache.requestCounts, generation ≤ key.generation

variable {generation : UInt64} {key : CacheKey} {thread : Thread} {handle : Nat} {action : Action}

lemma LocationCache.Touches.since {before after : LocationCache}
    (touches : Touches key before after) (recent : generation ≤ key.generation)
    (since : before.Since generation) : after.Since generation where
  entries := by
    intro other mem
    rcases touches.entries mem with rfl | old
    · exact recent
    · exact since.entries other old
  counts := by
    intro other mem
    rcases touches.counts mem with rfl | old
    · exact recent
    · exact since.counts other old

lemma LocationCache.Touches.trans {first second third : LocationCache}
    (left : Touches key first second) (right : Touches key second third) :
    Touches key first third :=
  ⟨fun mem => (right.entries mem).elim .inl left.entries,
    fun mem => (right.counts mem).elim .inl left.counts⟩

variable {cache : LocationCache} {stores : Stores} {access : Access} {before after : System}
  {place : Nat}

section Steps

variable {moment : Moment}

lemma perform_spec (moment : Moment) (access : Access) (accounted : cache.Accounted) :
    ∃ after out, perform moment access cache = some (after, out) ∧ after.Accounted ∧
      Touches access.key cache after := by
  unfold perform
  have untouched := (Shrinks.refl cache).touches access.key
  obtain ⟨synced, syncs, syncedAccounted, removes⟩ :=
    syncLimits_spec moment.choose moment.now access.config
      (maxSize moment.defaultMaxSize access.config) accounted.exact
  cases access.request with
  | get | getStale => exact ⟨cache, _, rfl, accounted, untouched⟩
  | recordMiss =>
    obtain ⟨threshold, after, recorded, afterAccounted, touches⟩ :=
      recordMiss_spec moment.choose moment.now access.key
        (access.config.minUses.getD 1) syncedAccounted
    exact ⟨after, .reached threshold, by simp [syncs, recorded], afterAccounted,
      (removes access.key).trans touches⟩
  | put resp =>
    obtain ⟨after, stored, afterAccounted, touches⟩ :=
      put_spec moment.choose access.key resp syncedAccounted
    exact ⟨after, .done, by simp [syncs, stored], afterAccounted,
      (removes access.key).trans touches⟩

namespace Stores

/-- The cache is in the map. -/
def Reachable (stores : Stores) (handle : Nat) : Prop :=
  ∃ routeId, stores.locations.lookup routeId = some handle

/-- A cache in the map is allocated and has nothing of a retired generation. -/
structure Sound (stores : Stores) : Prop where
  allocated : ∀ {handle}, stores.Reachable handle → handle < stores.heap.length
  accounted : ∀ cache ∈ stores.heap, cache.Accounted
  current : ∀ {handle cache}, stores.Reachable handle → stores.heap[handle]? = some cache →
    cache.Since stores.generation

/-- What a step can do to the stores: a cache that leaves the map does not come back,
and a new generation empties the map. -/
structure Evolves (before after : Stores) : Prop where
  generation : before.generation ≤ after.generation
  allocated : before.heap.length ≤ after.heap.length
  reachable : ∀ {handle}, handle < before.heap.length → after.Reachable handle →
    before.Reachable handle ∧ after.generation = before.generation

lemma Evolves.refl (stores : Stores) : Evolves stores stores :=
  ⟨UInt64.le_refl _, le_rfl, fun _ reach => ⟨reach, rfl⟩⟩

end Stores

/-- A thread that holds a reachable cache has a key of the current generation or a later
one; a call that retired a generation has had its effect. -/
def Thread.Sound (stores : Stores) : Thread → Prop
  | .holding access handle => handle < stores.heap.length ∧
      (stores.Reachable handle → stores.generation ≤ access.key.generation)
  | .returned (.advanceGeneration generation) _ => generation ≤ stores.generation
  | _ => True

lemma Thread.Sound.evolve {before after : Stores} (sound : thread.Sound before)
    (evolves : before.Evolves after) : thread.Sound after := by
  cases thread with
  | holding access handle =>
    obtain ⟨allocated, recent⟩ := sound
    refine ⟨lt_of_lt_of_le allocated evolves.allocated, fun reach => ?_⟩
    obtain ⟨wasReachable, same⟩ := evolves.reachable allocated reach
    rw [same]
    exact recent wasReachable
  | returned call out =>
    cases call with
    | advanceGeneration generation => exact UInt64.le_trans sound evolves.generation
    | access _ | invalidateRoute _ => trivial
  | started _ | creating _ | retiring _ => trivial

lemma storeRead_found (found : storeRead stores access = .found handle) :
    stores.Reachable handle ∧ stores.generation ≤ access.key.generation := by
  unfold storeRead at found
  split at found
  · cases found
  · split at found
    · cases found
    next recent =>
      split at found
      next known lookup =>
        cases found
        exact ⟨⟨_, lookup⟩, UInt64.not_lt.mp recent⟩
      next =>
        split at found
        · cases found
        · cases found

lemma LocationCache.since_new (generation : UInt64) (config : CacheConfig) (limit : UInt64)
    (now : Nat) : (new config limit now).Since generation where
  entries := fun _ mem => absurd mem (AList.notMem_empty _)
  counts := fun _ mem => absurd mem (AList.notMem_empty _)

lemma Stores.Sound.create (sound : stores.Sound) (routeId : UInt64) (accounted : cache.Accounted)
    (since : cache.Since stores.generation) : let created : Stores :=
      { stores with
        locations := stores.locations.insert routeId stores.heap.length
        heap := stores.heap ++ [cache] }
    stores.Evolves created ∧ created.Sound := by
  intro created
  have split : ∀ {handle}, created.Reachable handle →
      handle = stores.heap.length ∨ stores.Reachable handle := by
    rintro handle ⟨otherId, lookup⟩
    rw [Table.lookup_insert_eq] at lookup
    split at lookup
    · exact .inl (Option.some.inj lookup).symm
    · exact .inr ⟨otherId, lookup⟩
  have length : created.heap.length = stores.heap.length + 1 := length_append
  refine ⟨⟨UInt64.le_refl _, by omega, ?_⟩, ⟨?_, ?_, ?_⟩⟩
  · intro handle old reach
    rcases split reach with fresh | known
    · omega
    · exact ⟨known, rfl⟩
  · intro handle reach
    rcases split reach with fresh | known
    · omega
    · have := sound.allocated known
      omega
  · intro mem here
    rcases mem_append.mp here with old | new
    · exact sound.accounted mem old
    · rwa [mem_singleton.mp new]
  · intro handle found reach stored
    rcases split reach with fresh | known
    · subst fresh
      have same : cache = found := by simpa [created] using stored
      exact same ▸ since
    · refine sound.current known ?_
      rwa [getElem?_append_left (sound.allocated known)] at stored

lemma storeWrite_sound {before after : Stores} {found : Option Nat} (sound : before.Sound)
    (written : storeWrite moment before access = (after, found)) :
    before.Evolves after ∧ after.Sound ∧
      ∀ handle ∈ found, handle < after.heap.length ∧ after.generation ≤ access.key.generation := by
  unfold storeWrite at written
  split at written
  next =>
    cases written
    exact ⟨Stores.Evolves.refl before, sound, fun handle bad => nomatch bad⟩
  next recent =>
    split at written
    next known lookup =>
      cases written
      refine ⟨Stores.Evolves.refl before, sound, fun handle same => ?_⟩
      cases same
      exact ⟨sound.allocated ⟨_, lookup⟩, UInt64.not_lt.mp recent⟩
    next lookup =>
      cases written
      obtain ⟨evolves, created⟩ := sound.create access.key.routeId
        (accounted_new access.config _ moment.now)
        (since_new before.generation access.config _ moment.now)
      refine ⟨evolves, created, fun handle same => ?_⟩
      cases same
      exact ⟨by simp, UInt64.not_lt.mp recent⟩

lemma Stores.Sound.set (sound : stores.Sound) (accounted : cache.Accounted)
    (since : stores.Reachable handle → cache.Since stores.generation) :
    stores.Evolves { stores with heap := stores.heap.set handle cache } ∧
      Stores.Sound { stores with heap := stores.heap.set handle cache } := by
  refine ⟨⟨UInt64.le_refl _, by simp, fun _ reach => ⟨reach, rfl⟩⟩, ⟨?_, ?_, ?_⟩⟩
  · intro other reach
    simpa using sound.allocated reach
  · intro mem here
    rcases mem_or_eq_of_mem_set here with old | same
    · exact sound.accounted mem old
    · exact same ▸ accounted
  · intro other found reach stored
    by_cases same : handle = other
    · subst same
      have allocated := sound.allocated reach
      rw [getElem?_set_self allocated] at stored
      cases stored
      exact since reach
    · rw [getElem?_set_ne same] at stored
      exact sound.current reach stored

lemma Stores.Sound.retire (sound : stores.Sound) (newer : stores.generation ≤ generation) :
    let retired : Stores := { stores with locations := ∅, generation }
    stores.Evolves retired ∧ retired.Sound := by
  intro retired
  have empty : ∀ {handle}, ¬ retired.Reachable handle := by
    rintro handle ⟨routeId, lookup⟩
    rw [AList.lookup_empty] at lookup
    cases lookup
  exact ⟨⟨newer, le_rfl, fun _ reach => absurd reach empty⟩,
    ⟨fun reach => absurd reach empty, sound.accounted,
      fun reach => absurd reach empty⟩⟩

lemma Stores.Sound.erase (sound : stores.Sound) (routeId : UInt64) :
    let erased : Stores := { stores with locations := stores.locations.erase routeId }
    stores.Evolves erased ∧ erased.Sound := by
  intro erased
  have fewer : ∀ {handle}, erased.Reachable handle → stores.Reachable handle := by
    rintro handle ⟨otherId, lookup⟩
    exact ⟨otherId, Table.lookup_of_erase lookup⟩
  exact ⟨⟨UInt64.le_refl _, le_rfl, fun _ reach => ⟨fewer reach, rfl⟩⟩,
    ⟨fun reach => sound.allocated (fewer reach), sound.accounted,
      fun reach => sound.current (fewer reach)⟩⟩

lemma advance_sound {before after : Stores} {next : Thread} (sound : before.Sound)
    (threadSound : thread.Sound before)
    (moved : advance moment before thread = some (after, next)) :
    before.Evolves after ∧ after.Sound ∧ next.Sound after := by
  unfold advance at moved
  split at moved
  next access =>
    split at moved
    · cases moved
      exact ⟨Stores.Evolves.refl before, sound, trivial⟩
    · split at moved
      · cases moved
        exact ⟨Stores.Evolves.refl before, sound, trivial⟩
      next handle found =>
        cases moved
        obtain ⟨reach, recent⟩ := storeRead_found found
        exact ⟨Stores.Evolves.refl before, sound, sound.allocated reach, fun _ => recent⟩
      · cases moved
        exact ⟨Stores.Evolves.refl before, sound, trivial⟩
  next access =>
    split at moved
    next stores written =>
      cases moved
      obtain ⟨evolves, written, _⟩ := storeWrite_sound sound written
      exact ⟨evolves, written, trivial⟩
    next stores handle written =>
      cases moved
      obtain ⟨evolves, written, held⟩ := storeWrite_sound sound written
      obtain ⟨allocated, recent⟩ := held handle rfl
      exact ⟨evolves, written, allocated, fun _ => recent⟩
  next access handle =>
    obtain ⟨_, recent⟩ := threadSound
    obtain ⟨cache, stored, ⟨changed, out⟩, done, same⟩ := Results.bind₂_eq_some.mp moved
    cases same
    obtain ⟨res, _, performs, accounted, touches⟩ :=
      perform_spec moment access (sound.accounted cache (mem_of_getElem? stored))
    rw [performs] at done
    cases done
    obtain ⟨evolves, soundAfter⟩ := sound.set accounted fun reach =>
      touches.since (recent reach) (sound.current reach stored)
    exact ⟨evolves, soundAfter, trivial⟩
  next generation =>
    split at moved
    next old =>
      cases moved
      exact ⟨Stores.Evolves.refl before, sound, old⟩
    next =>
      cases moved
      exact ⟨Stores.Evolves.refl before, sound, trivial⟩
  next generation =>
    split at moved
    next newer =>
      cases moved
      obtain ⟨evolves, retired⟩ := sound.retire (UInt64.le_of_lt newer)
      exact ⟨evolves, retired, UInt64.le_refl _⟩
    next old =>
      cases moved
      exact ⟨Stores.Evolves.refl before, sound, UInt64.not_lt.mp old⟩
  next routeId =>
    cases moved
    obtain ⟨evolves, erased⟩ := sound.erase routeId
    exact ⟨evolves, erased, trivial⟩
  next => cases moved

structure System.Sound (system : System) : Prop where
  stores : system.stores.Sound
  threads : ∀ thread ∈ system.threads, thread.Sound system.stores

lemma System.sound_initial : System.initial.Sound where
  stores :=
    { allocated := fun ⟨_, lookup⟩ => by cases lookup
      accounted := fun _ mem => by cases mem
      current := fun ⟨_, lookup⟩ => by cases lookup }
  threads := fun _ mem => by cases mem

lemma step_sound (sound : before.Sound) (stepped : step before action = some after) :
    before.stores.Evolves after.stores ∧ after.Sound := by
  cases action with
  | start call =>
    cases stepped
    refine ⟨Stores.Evolves.refl _, sound.stores, fun thread mem => ?_⟩
    rcases mem_append.mp mem with old | new
    · exact sound.threads thread old
    · rw [mem_singleton.mp new]
      exact trivial
  | run place moment =>
    obtain ⟨thread, found, ⟨stores, next⟩, moved, same⟩ := Results.bind₂_eq_some.mp stepped
    cases same
    obtain ⟨evolves, storesSound, nextSound⟩ := advance_sound sound.stores
      (sound.threads thread (mem_of_getElem? found)) moved
    refine ⟨evolves, storesSound, fun other mem => ?_⟩
    rcases mem_or_eq_of_mem_set mem with old | same
    · exact (sound.threads other old).evolve evolves
    · exact same ▸ nextSound

lemma sound_of_reaches {system : System} (reached : Runs.Reaches step .initial system) :
    system.Sound :=
  reached.invariant System.sound_initial fun _ _ _ sound stepped => (step_sound sound stepped).2

/-- The call meets a generation it cannot see the caches of. -/
structure TooLate (place : Nat) (access : Access) (system : System) : Prop where
  retired : access.key.generation < system.stores.generation
  idle : system.threads[place]? = some (.started (.access access)) ∨
    system.threads[place]? = some (.returned (.access access) access.request.nothing)

lemma advance_retired (retired : access.key.generation < stores.generation) :
    advance moment stores (.started (.access access)) =
      some (stores, .returned (.access access) access.request.nothing) := by
  have refused : storeRead stores access = .refused := by
    unfold storeRead
    rw [if_pos retired, ite_self]
  simp only [advance, refused, ite_self]

lemma TooLate.stores_eq (late : TooLate place access before)
    (stepped : step before (.run place moment) = some after) :
    after.stores = before.stores ∧ after.threads[place]? =
      some (.returned (.access access) access.request.nothing) := by
  obtain ⟨thread, found, ⟨stores, next⟩, moved, same⟩ := Results.bind₂_eq_some.mp stepped
  cases same
  rcases late.idle with waiting | returned
  · rw [waiting] at found
    cases found
    rw [advance_retired late.retired] at moved
    cases moved
    have here := (List.getElem?_eq_some_iff.mp waiting).1
    exact ⟨rfl, getElem?_set_self here⟩
  · rw [returned] at found
    cases found
    cases moved

lemma TooLate.kept (sound : before.Sound) (late : TooLate place access before)
    (stepped : step before action = some after) : TooLate place access after := by
  obtain ⟨evolves, _⟩ := step_sound sound stepped
  refine ⟨UInt64.lt_of_lt_of_le late.retired evolves.generation, ?_⟩
  cases action with
  | start call =>
    cases stepped
    have here : place < before.threads.length := by
      rcases late.idle with found | found <;> exact (List.getElem?_eq_some_iff.mp found).1
    simp only [System.start, getElem?_append_left here]
    exact late.idle
  | run other moment =>
    by_cases same : other = place
    · subst same
      exact .inr (late.stores_eq stepped).2
    · obtain ⟨thread, found, ⟨stores, next⟩, _, done⟩ := Results.bind₂_eq_some.mp stepped
      cases done
      simp only [getElem?_set_ne same]
      exact late.idle

lemma TooLate.reaches {later : System} (sound : before.Sound) (late : TooLate place access before)
    (reached : Runs.Reaches step before later) : later.Sound ∧ TooLate place access later := by
  induction reached with
  | refl => exact ⟨sound, late⟩
  | tail _ stepped ih =>
    obtain ⟨action, stepOk⟩ := stepped
    exact ⟨(step_sound ih.1 stepOk).2, ih.2.kept ih.1 stepOk⟩

/-- In every run the generation does not go down and what is reachable belongs to it or
to a later one.  An access that starts after a generation has been retired, with a key
of an earlier one, returns nothing and changes nothing. -/
theorem retired_generation_stays_retired {system : System}
    (reached : Runs.Reaches step .initial system) :
    (∀ action after, step system action = some after →
      system.stores.generation ≤ after.stores.generation) ∧
    (∀ routeId handle cache, system.stores.locations.lookup routeId = some handle →
      system.stores.heap[handle]? = some cache →
      (∀ key ∈ cache.entries, system.stores.generation ≤ key.generation) ∧
        ∀ key ∈ cache.requestCounts, system.stores.generation ≤ key.generation) ∧
    ∀ generation outcome, .returned (.advanceGeneration generation) outcome ∈ system.threads →
      ∀ access : Access, access.key.generation < generation →
      ∀ later, Runs.Reaches step (system.start (.access access)) later →
        (∀ call outcome, later.threads[system.threads.length]? = some (.returned call outcome) →
          outcome = access.request.nothing) ∧
        ∀ moment after, step later (.run system.threads.length moment) = some after →
          after.stores = later.stores := by
  have sound := sound_of_reaches reached
  refine ⟨fun action after stepped => (step_sound sound stepped).1.generation, ?_, ?_⟩
  · intro routeId handle cache lookup stored
    have since := sound.stores.current ⟨routeId, lookup⟩ stored
    exact ⟨since.entries, since.counts⟩
  · intro generation outcome returned access early later reachedLater
    have retired : generation ≤ system.stores.generation := sound.threads _ returned
    have started : step system (.start (.access access)) = some (system.start (.access access)) :=
      rfl
    have starts : TooLate system.threads.length access (system.start (.access access)) :=
      ⟨UInt64.lt_of_lt_of_le early retired, Or.inl (by simp [System.start])⟩
    obtain ⟨_, late⟩ := starts.reaches (step_sound sound started).2 reachedLater
    refine ⟨fun call result found => ?_, fun moment after stepped => (late.stores_eq stepped).1⟩
    rcases late.idle with waiting | finished
    · rw [waiting] at found
      cases found
    · rw [finished] at found
      cases found
      rfl

end Steps

namespace RetirementExample

def inOrder : Chooser where
  next := List.head?
  mem := mem_of_head?
  nonempty := head?_eq_none_iff.mp

def moment : Moment where
  now := 0
  choose := inOrder
  defaultMaxSize := 1000

def response : CachedResponse where
  status := 200
  headers := {}
  body := []
  createdAt := 0

def accessOf (request : Request) : Access where
  request
  key := { generation := 0, routeId := 7, host := "a.test", method := "GET", uri := "/" }
  config := { enabled := true }

/-- The response is put and found, and its generation is retired. -/
def actions : List Action :=
  [.start (.access (accessOf (.put response))), .run 0 moment, .run 0 moment, .run 0 moment,
    .start (.access (accessOf .get)), .run 1 moment, .run 1 moment,
    .start (.advanceGeneration 1), .run 2 moment, .run 2 moment]

end RetirementExample

open RetirementExample in
theorem late_get_finds_nothing :
    ∃ retired, Runs.Reaches step .initial retired ∧
      retired.threads[1]? = some (.returned (.access (accessOf .get)) (.response (some response))) ∧
      ∀ later, Runs.Reaches step (retired.start (.access (accessOf .get))) later →
        ∀ call outcome, later.threads[3]? = some (.returned call outcome) →
          outcome = .response none := by
  have ran : actions.foldlM step .initial = some _ := rfl
  have reached := Runs.reaches_of_foldlM ran
  refine ⟨_, reached, rfl, fun later reachedLater => ?_⟩
  exact ((retired_generation_stays_retired reached).2.2 1 .done (mem_of_getElem? (i := 2) rfl)
    (accessOf .get) (by decide) later reachedLater).1

end Ngxora.Cache
