/-
The response cache of one location.
-/

import Ngxora.Base.Runs
import Ngxora.Base.Totals
import Ngxora.Http.Headers
import Ngxora.Ir

namespace Ngxora.Cache

open AList Counter Table List Option Http

structure CacheKey where
  generation : UInt64
  routeId : UInt64
  host : String
  method : String
  uri : String
  deriving DecidableEq

structure CachedResponse where
  status : UInt16
  headers : HeaderMap
  body : List UInt8
  createdAt : Nat
  deriving DecidableEq

structure MissCount where
  count : UInt64
  lastSeen : Nat

def estimatedHeadersSize (headers : HeaderMap) : Nat :=
  headers.entries.foldl (fun size entry =>
    saturatingAdd (saturatingAdd size (Text.byteLength entry.1)) entry.2.length) 0

def CachedResponse.estimatedSize (response : CachedResponse) : Nat :=
  saturatingAdd
    (saturatingAdd response.body.length (estimatedHeadersSize response.headers)) 128

def CacheKey.estimatedSize (key : CacheKey) : Nat :=
  saturatingAdd (saturatingAdd (saturatingAdd
    (Text.byteLength key.host) (Text.byteLength key.method)) (Text.byteLength key.uri)) 128

def responseSize (key : CacheKey) (response : CachedResponse) : Nat :=
  saturatingAdd key.estimatedSize response.estimatedSize

def countSize (key : CacheKey) (_ : MissCount) : Nat :=
  saturatingAdd key.estimatedSize 64

/-- Instants are nanoseconds. -/
structure LocationCache where
  ttl : Duration
  retention : Duration
  maxSize : UInt64
  currentSize : Nat
  entries : Table CacheKey CachedResponse
  requestCounts : Table CacheKey MissCount
  lastSweep : Nat

/-- The key an iteration over the keys starts with; a hash map may start with any. -/
structure Chooser where
  next : List CacheKey → Option CacheKey
  mem : ∀ {keys key}, next keys = some key → key ∈ keys
  nonempty : ∀ {keys}, next keys = none → keys = []

def cacheTtl (config : CacheConfig) : Duration := config.ttl.getD (Duration.fromSecs 60)

def cacheRetention (config : CacheConfig) : Duration :=
  (cacheTtl config).saturatingAdd (config.staleIfError.getD (Duration.fromSecs 0))

namespace LocationCache

def new (config : CacheConfig) (maxSize : UInt64) (now : Nat) : LocationCache where
  ttl := cacheTtl config
  retention := cacheRetention config
  maxSize
  currentSize := 0
  entries := ∅
  requestCounts := ∅
  lastSweep := now

def removeResponse (cache : LocationCache) (key : CacheKey) : Option LocationCache :=
  match cache.entries.lookup key with
  | none => some cache
  | some response => do
    let size ← sub cache.currentSize (responseSize key response)
    some { cache with currentSize := size, entries := cache.entries.erase key }

def removeCount (cache : LocationCache) (key : CacheKey) : Option LocationCache :=
  match cache.requestCounts.lookup key with
  | none => some cache
  | some count => do
    let size ← sub cache.currentSize (countSize key count)
    some { cache with currentSize := size, requestCounts := cache.requestCounts.erase key }

/-- The loop of `make_room`; counters go first. -/
def evict (choose : Chooser) (room : Nat) : Nat → LocationCache → Option LocationCache
  | 0, cache => some cache
  | fuel + 1, cache =>
    if cache.currentSize ≤ room then some cache
    else
      match choose.next cache.requestCounts.keys with
      | some key => (cache.removeCount key).bind (evict choose room fuel)
      | none =>
        match choose.next cache.entries.keys with
        | some key => (cache.removeResponse key).bind (evict choose room fuel)
        | none => some cache

def items (cache : LocationCache) : Nat :=
  cache.requestCounts.entries.length + cache.entries.entries.length

def makeRoom (choose : Chooser) (size : Nat) (cache : LocationCache) :
    Option (Bool × LocationCache) :=
  if size > cache.maxSize.toNat then some (false, cache)
  else (evict choose (cache.maxSize.toNat - size) cache.items cache).map fun after => (true, after)

def countMiss (ttl : Duration) (now : Nat) (value : MissCount) : MissCount :=
  let count := if now - value.lastSeen ≥ ttl.nanos then 0 else value.count
  { count := Machine.saturateU64 (count.toNat + 1), lastSeen := now }

def recordMiss (choose : Chooser) (now : Nat) (key : CacheKey) (minUses : UInt64)
    (cache : LocationCache) : Option (Bool × LocationCache) :=
  if minUses ≤ 1 then some (true, cache)
  else
    match cache.requestCounts.lookup key with
    | some value =>
      let counted := countMiss cache.ttl now value
      some (decide (counted.count ≥ minUses),
        { cache with requestCounts := cache.requestCounts.insert key counted })
    | none => do
      let fresh : MissCount :=
        { count := 1, lastSeen := now }
      let (fits, cache) ← makeRoom choose (countSize key fresh) cache
      if fits then do
        let size ← add cache.currentSize (countSize key fresh)
        some (false, { cache with
            requestCounts := cache.requestCounts.insert key fresh
            currentSize := size })
      else some (false, cache)

def put (choose : Chooser) (key : CacheKey) (response : CachedResponse) (cache : LocationCache) :
    Option LocationCache := do
  let cache ← cache.removeCount key
  let cache ← cache.removeResponse key
  let (fits, cache) ← makeRoom choose (responseSize key response) cache
  if fits then do
    let size ← add cache.currentSize (responseSize key response)
    some { cache with currentSize := size, entries := cache.entries.insert key response }
  else some cache

/-- `retain` with the sizes of the dropped entries taken off. -/
def sweep {V : Type} (size : CacheKey → V → Nat) (keep : V → Bool) (table : Table CacheKey V)
    (current : Nat) : Option (Table CacheKey V × Nat) := do
  let dropped := table.entries.filter fun entry => !keep entry.2
  let current ← (dropped.map fun entry => size entry.1 entry.2).foldlM sub current
  some (table.retain fun _ value => keep value, current)

def evictStale (now : Nat) (cache : LocationCache) : Option LocationCache := do
  let (entries, size) ← sweep responseSize
    (fun response => now - response.createdAt < cache.retention.nanos) cache.entries cache.currentSize
  let (requestCounts, size) ← sweep countSize
    (fun count => now - count.lastSeen < cache.ttl.nanos) cache.requestCounts size
  some { cache with currentSize := size, entries, requestCounts, lastSweep := now }

def syncLimits (choose : Chooser) (now : Nat) (config : CacheConfig) (maxSize : UInt64)
    (cache : LocationCache) : Option LocationCache := do
  let cache :=
    { cache with ttl := cacheTtl config, retention := cacheRetention config, maxSize }
  let cache ← (if now - cache.lastSweep ≥ 10 ^ 9 then evictStale now cache else some cache)
  let (_, cache) ← makeRoom choose 0 cache
  some cache

/-- The size is the sum of what is stored. -/
def Exact (cache : LocationCache) : Prop :=
  cache.currentSize =
    cache.entries.total responseSize + cache.requestCounts.total countSize

/-- The size is exact and within the limit. -/
structure Accounted (cache : LocationCache) : Prop where
  exact : cache.Exact
  bounded : cache.currentSize ≤ cache.maxSize.toNat

/-- Entries are only removed. -/
structure Shrinks (before after : LocationCache) : Prop where
  entries : ∀ {key}, key ∈ after.entries → key ∈ before.entries
  counts : ∀ {key}, key ∈ after.requestCounts → key ∈ before.requestCounts
  maxSize : after.maxSize = before.maxSize
  size : after.currentSize ≤ before.currentSize

lemma Shrinks.refl (cache : LocationCache) : Shrinks cache cache :=
  ⟨id, id, rfl, le_rfl⟩

lemma Shrinks.trans {first second third : LocationCache} (left : Shrinks first second)
    (right : Shrinks second third) : Shrinks first third :=
  ⟨fun mem => left.entries (right.entries mem), fun mem => left.counts (right.counts mem),
    right.maxSize.trans left.maxSize, right.size.trans left.size⟩

variable {cache : LocationCache}

lemma removeResponse_spec (exact : cache.Exact) (key : CacheKey) :
    ∃ after, cache.removeResponse key = some after ∧ after.Exact ∧ Shrinks cache after ∧
      key ∉ after.entries ∧ after.requestCounts = cache.requestCounts ∧
      (key ∈ cache.entries → after.items + 1 = cache.items) := by
  unfold removeResponse
  cases found : cache.entries.lookup key with
  | none =>
    have absent := lookup_eq_none.mp found
    exact ⟨cache, rfl, exact, Shrinks.refl cache, absent, rfl, fun here => absurd here absent⟩
  | some resp =>
    have weighed := total_erase responseSize found
    have counted := length_erase found
    unfold Exact at exact
    have enough : responseSize key resp ≤ cache.currentSize := by omega
    refine ⟨{ cache with
        currentSize := cache.currentSize - responseSize key resp
        entries := cache.entries.erase key }, by simp [sub_eq_some enough], ?_,
      ⟨fun mem => (mem_erase.mp mem).2, id, rfl, Nat.sub_le _ _⟩,
      fun mem => (mem_erase.mp mem).1 rfl, rfl, fun _ => ?_⟩
    · simp only [Exact]
      omega
    · simp only [items]
      omega

lemma removeCount_spec (exact : cache.Exact) (key : CacheKey) :
    ∃ after, cache.removeCount key = some after ∧ after.Exact ∧ Shrinks cache after ∧
      key ∉ after.requestCounts ∧ after.entries = cache.entries ∧
      (key ∈ cache.requestCounts → after.items + 1 = cache.items) := by
  unfold removeCount
  cases found : cache.requestCounts.lookup key with
  | none =>
    have absent := lookup_eq_none.mp found
    exact ⟨cache, rfl, exact, Shrinks.refl cache, absent, rfl, fun here => absurd here absent⟩
  | some count =>
    have weighed := total_erase countSize found
    have counted := length_erase found
    unfold Exact at exact
    have enough : countSize key count ≤ cache.currentSize := by omega
    refine ⟨{ cache with
        currentSize := cache.currentSize - countSize key count
        requestCounts := cache.requestCounts.erase key }, by simp [sub_eq_some enough], ?_,
      ⟨id, fun mem => (mem_erase.mp mem).2, rfl, Nat.sub_le _ _⟩,
      fun mem => (mem_erase.mp mem).1 rfl, rfl, fun _ => ?_⟩
    · simp only [Exact]
      omega
    · simp only [items]
      omega

lemma empty_of_no_entries (exact : cache.Exact) (entries : cache.entries.entries = [])
    (counts : cache.requestCounts.entries = []) : cache.currentSize = 0 := by
  rw [exact]
  simp [Table.total, entries, counts]

lemma evict_spec (choose : Chooser) (room : Nat) {fuel : Nat} (exact : cache.Exact)
    (enoughFuel : cache.items ≤ fuel) :
    ∃ after, evict choose room fuel cache = some after ∧ after.Exact ∧ Shrinks cache after ∧
      after.currentSize ≤ room := by
  induction fuel generalizing cache with
  | zero =>
    unfold items at enoughFuel
    have empty := empty_of_no_entries exact (eq_nil_of_length_eq_zero (by omega))
      (eq_nil_of_length_eq_zero (by omega))
    exact ⟨cache, rfl, exact, Shrinks.refl cache, by omega⟩
  | succ fuel ih =>
    have goesOn {next : LocationCache} (nextExact : next.Exact) (shrinks : Shrinks cache next)
        (fewer : next.items + 1 = cache.items) :
        ∃ after, evict choose room fuel next = some after ∧ after.Exact ∧ Shrinks cache after ∧
          after.currentSize ≤ room := by
      obtain ⟨after, evicted, afterExact, more, fits⟩ := ih nextExact (by omega)
      exact ⟨after, evicted, afterExact, shrinks.trans more, fits⟩
    unfold evict
    split
    next fits => exact ⟨cache, rfl, exact, Shrinks.refl cache, fits⟩
    next =>
      cases chosen : choose.next cache.requestCounts.keys with
      | some key =>
        obtain ⟨next, removed, nextExact, shrinks, _, _, fewer⟩ := removeCount_spec exact key
        simp only [removed, bind_some]
        exact goesOn nextExact shrinks (fewer (mem_keys.mpr (choose.mem chosen)))
      | none =>
        cases chosenEntry : choose.next cache.entries.keys with
        | some key =>
          obtain ⟨next, removed, nextExact, shrinks, _, _, fewer⟩ := removeResponse_spec exact key
          simp only [removed, bind_some]
          exact goesOn nextExact shrinks (fewer (mem_keys.mpr (choose.mem chosenEntry)))
        | none =>
          have empty := empty_of_no_entries exact (map_eq_nil_iff.mp (choose.nonempty chosenEntry))
            (map_eq_nil_iff.mp (choose.nonempty chosen))
          exact ⟨cache, rfl, exact, Shrinks.refl cache, by omega⟩

lemma makeRoom_spec (choose : Chooser) (size : Nat) (exact : cache.Exact) :
    ∃ fits after, makeRoom choose size cache = some (fits, after) ∧ after.Exact ∧
      Shrinks cache after ∧ (fits = true → after.currentSize + size ≤ after.maxSize.toNat) ∧
      (size ≤ cache.maxSize.toNat → fits = true) := by
  unfold makeRoom
  split
  next large =>
    exact ⟨false, cache, rfl, exact, Shrinks.refl cache, Bool.noConfusion,
      fun small => absurd small (not_le.mpr large)⟩
  next small =>
    obtain ⟨after, evicted, afterExact, shrinks, fits⟩ :=
      evict_spec choose (cache.maxSize.toNat - size) exact le_rfl
    refine ⟨true, after, by rw [evicted]; rfl, afterExact, shrinks, fun _ => ?_, fun _ => rfl⟩
    rw [shrinks.maxSize]
    omega

/-- No key but one is added. -/
structure Touches (key : CacheKey) (before after : LocationCache) : Prop where
  entries : ∀ {other}, other ∈ after.entries → other = key ∨ other ∈ before.entries
  counts : ∀ {other}, other ∈ after.requestCounts → other = key ∨ other ∈ before.requestCounts

variable {before after : LocationCache}

lemma Shrinks.touches (shrinks : Shrinks before after) (key : CacheKey) :
    Touches key before after :=
  ⟨fun mem => .inr (shrinks.entries mem), fun mem => .inr (shrinks.counts mem)⟩

lemma Shrinks.bounded (shrinks : Shrinks before after)
    (bound : before.currentSize ≤ before.maxSize.toNat) :
    after.currentSize ≤ after.maxSize.toNat := by
  rw [shrinks.maxSize]
  exact shrinks.size.trans bound

lemma add_within {size : Nat} (fits : cache.currentSize + size ≤ cache.maxSize.toNat) :
    add cache.currentSize size = some (cache.currentSize + size) :=
  add_eq_some (lt_of_le_of_lt fits cache.maxSize.toNat_lt)

lemma recordMiss_spec (choose : Chooser) (now : Nat) (key : CacheKey) (minUses : UInt64)
    (accounted : cache.Accounted) :
    ∃ reached after, recordMiss choose now key minUses cache = some (reached, after) ∧
      after.Accounted ∧ Touches key cache after := by
  unfold recordMiss
  split
  next => exact ⟨true, cache, rfl, accounted, (Shrinks.refl cache).touches key⟩
  next =>
    have exact := accounted.exact
    cases found : cache.requestCounts.lookup key with
    | some value =>
      refine ⟨_, _, rfl, ⟨?_, accounted.bounded⟩, .inr, fun mem => ?_⟩
      · -- what a counter counts for does not depend on its value
        have weighed := total_erase countSize found
        simp only [Exact, total_insert] at exact ⊢
        rw [exact, weighed]
        rfl
      · exact (mem_insert _).mp mem
    | none =>
      obtain ⟨fits, room, made, roomExact, shrinks, enough, _⟩ :=
        makeRoom_spec choose (countSize key ⟨1, now⟩) exact
      cases fits with
      | false =>
        exact ⟨false, room, by simp [made], ⟨roomExact, shrinks.bounded accounted.bounded⟩,
          shrinks.touches key⟩
      | true =>
        have absent : room.requestCounts.lookup key = none :=
          lookup_eq_none.mpr fun mem => lookup_eq_none.mp found (shrinks.counts mem)
        refine ⟨false, { room with
            requestCounts := room.requestCounts.insert key ⟨1, now⟩
            currentSize := room.currentSize + countSize key ⟨1, now⟩ },
          by simp [made, add_within (enough rfl)], ⟨?_, enough rfl⟩,
          fun mem => .inr (shrinks.entries mem), fun mem => ?_⟩
        · simp only [Exact, total_insert, erase_of_absent absent] at roomExact ⊢
          omega
        · exact ((mem_insert _).mp mem).imp_right shrinks.counts

lemma put_spec (choose : Chooser) (key : CacheKey) (resp : CachedResponse)
    (accounted : cache.Accounted) :
    ∃ after, put choose key resp cache = some after ∧ after.Accounted ∧
      Touches key cache after := by
  obtain ⟨uncounted, countRemoved, uncountedExact, fewerCounts, _⟩ :=
    removeCount_spec accounted.exact key
  obtain ⟨removed, responseRemoved, removedExact, fewerEntries, gone, _⟩ :=
    removeResponse_spec uncountedExact key
  obtain ⟨fits, room, made, roomExact, evicted, enough, _⟩ :=
    makeRoom_spec choose (responseSize key resp) removedExact
  have shrinks := (fewerCounts.trans fewerEntries).trans evicted
  unfold put
  simp only [countRemoved, responseRemoved, made, bind_eq_bind, bind_some]
  cases fits with
  | false => exact ⟨room, rfl, ⟨roomExact, shrinks.bounded accounted.bounded⟩, shrinks.touches key⟩
  | true =>
    have absent : room.entries.lookup key = none :=
      lookup_eq_none.mpr fun mem => gone (evicted.entries mem)
    refine ⟨{ room with
        currentSize := room.currentSize + responseSize key resp
        entries := room.entries.insert key resp },
      by simp [add_within (enough rfl)], ⟨?_, enough rfl⟩,
      fun mem => ?_, fun mem => .inr (shrinks.counts mem)⟩
    · simp only [Exact, total_insert, erase_of_absent absent] at roomExact ⊢
      omega
    · exact ((mem_insert _).mp mem).imp_right shrinks.entries

lemma sweep_spec {V : Type} (size : CacheKey → V → Nat) (keep : V → Bool)
    (table : Table CacheKey V) {current : Nat} (enough : table.total size ≤ current) :
    ∃ left, sweep size keep table current = some (table.retain fun _ value => keep value, left) ∧
      left + table.total size = current + (table.retain fun _ value => keep value).total size ∧
      left ≤ current := by
  have weighed := total_retain size (fun _ value => keep value) table
  refine ⟨_, by rw [sweep, foldlM_sub (by omega)]; rfl, ?_, Nat.sub_le _ _⟩
  omega

lemma evictStale_spec (now : Nat) (exact : cache.Exact) :
    ∃ after, evictStale now cache = some after ∧ after.Exact ∧ Shrinks cache after := by
  unfold Exact at exact
  obtain ⟨size, entriesSwept, entriesWeighed, less⟩ := sweep_spec responseSize
    (fun resp => now - resp.createdAt < cache.retention.nanos) cache.entries
    (show _ ≤ cache.currentSize by omega)
  obtain ⟨left, countsSwept, countsWeighed, fewer⟩ := sweep_spec countSize
    (fun count => now - count.lastSeen < cache.ttl.nanos) cache.requestCounts
    (show _ ≤ size by omega)
  have swept : evictStale now cache = some { cache with
      currentSize := left
      entries := cache.entries.retain fun _ resp =>
        now - resp.createdAt < cache.retention.nanos
      requestCounts := cache.requestCounts.retain fun _ count =>
        now - count.lastSeen < cache.ttl.nanos
      lastSweep := now } := by
    simp [evictStale, entriesSwept, countsSwept]
  refine ⟨_, swept, ?_, ⟨mem_retain, mem_retain, rfl, fewer.trans less⟩⟩
  simp only [Exact]
  omega

lemma syncLimits_spec (choose : Chooser) (now : Nat) (config : CacheConfig) (maxSize : UInt64)
    (exact : cache.Exact) :
    ∃ after, syncLimits choose now config maxSize cache = some after ∧ after.Accounted ∧
      ∀ key, Touches key cache after := by
  let limited : LocationCache :=
    { cache with ttl := cacheTtl config, retention := cacheRetention config, maxSize }
  have limitedExact : limited.Exact := exact
  obtain ⟨swept, sweeps, sweptExact, fewer⟩ :
      ∃ swept, (if now - limited.lastSweep ≥ 10 ^ 9 then evictStale now limited else some limited) =
        some swept ∧ swept.Exact ∧ Shrinks limited swept := by
    split
    next => exact evictStale_spec now limitedExact
    next => exact ⟨limited, rfl, limitedExact, Shrinks.refl limited⟩
  obtain ⟨fits, room, made, roomExact, evicted, enough, always⟩ := makeRoom_spec choose 0 sweptExact
  have shrinks := fewer.trans evicted
  refine ⟨room, ?_, ⟨roomExact, ?_⟩, fun key => ⟨(.inr <| shrinks.entries ·), (.inr <| shrinks.counts ·)⟩⟩
  · simp only [syncLimits]
    rw [sweeps]
    simp [made]
  · exact enough (always (Nat.zero_le _))

inductive Operation where
  | syncLimits (choose : Chooser) (now : Nat) (config : CacheConfig) (maxSize : UInt64)
  | recordMiss (choose : Chooser) (now : Nat) (key : CacheKey) (minUses : UInt64)
  | put (choose : Chooser) (key : CacheKey) (response : CachedResponse)
  | evictStale (now : Nat)

/-- There is no result when `currentSize` goes below zero or does not fit 64 bits. -/
def apply (cache : LocationCache) : Operation → Option LocationCache
  | .syncLimits choose now config maxSize => cache.syncLimits choose now config maxSize
  | .recordMiss choose now key minUses => (cache.recordMiss choose now key minUses).map Prod.snd
  | .put choose key response => cache.put choose key response
  | .evictStale now => cache.evictStale now

/-- No single size reaches the greatest number. -/
structure Unsaturated (cache : LocationCache) : Prop where
  entries : ∀ entry ∈ cache.entries.entries,
    entry.1.estimatedSize + entry.2.estimatedSize < limit
  counts : ∀ entry ∈ cache.requestCounts.entries, entry.1.estimatedSize + 64 < limit

lemma accounted_new (config : CacheConfig) (maxSize : UInt64) (now : Nat) :
    (new config maxSize now).Accounted :=
  ⟨rfl, Nat.zero_le _⟩

lemma accounted_apply (operation : Operation) (accounted : cache.Accounted) :
    ∃ after, cache.apply operation = some after ∧ after.Accounted := by
  cases operation with
  | syncLimits choose now config maxSize =>
    obtain ⟨after, synced, res, _⟩ := syncLimits_spec choose now config maxSize accounted.exact
    exact ⟨after, synced, res⟩
  | recordMiss choose now key minUses =>
    obtain ⟨reached, after, recorded, res, _⟩ := recordMiss_spec choose now key minUses accounted
    exact ⟨after, by rw [apply, recorded]; rfl, res⟩
  | put choose key resp =>
    obtain ⟨after, stored, res, _⟩ := put_spec choose key resp accounted
    exact ⟨after, stored, res⟩
  | evictStale now =>
    obtain ⟨after, swept, exact, shrinks⟩ := evictStale_spec now accounted.exact
    exact ⟨after, swept, exact, shrinks.bounded accounted.bounded⟩

lemma accounted_run (operations : List Operation) (accounted : cache.Accounted) :
    ∃ after, operations.foldlM apply cache = some after ∧ after.Accounted := by
  induction operations generalizing cache with
  | nil => exact ⟨cache, rfl, accounted⟩
  | cons operation rest ih =>
    obtain ⟨next, applied, nextAccounted⟩ := accounted_apply operation accounted
    obtain ⟨after, ran, res⟩ := ih nextAccounted
    exact ⟨after, by simpa [applied] using ran, res⟩

lemma Unsaturated.sizes (unsaturated : cache.Unsaturated) : cache.entries.total responseSize =
      cache.entries.total (fun key resp => key.estimatedSize + resp.estimatedSize) ∧
    cache.requestCounts.total countSize =
      cache.requestCounts.total (fun key _ => key.estimatedSize + 64) := by
  constructor
  · refine congrArg List.sum (map_congr_left fun entry mem => ?_)
    exact saturatingAdd_eq (unsaturated.entries entry mem)
  · refine congrArg List.sum (map_congr_left fun entry mem => ?_)
    exact saturatingAdd_eq (unsaturated.counts entry mem)

/-- Whatever is done to a cache, no subtraction or addition on its size fails, the size
is the sum over what is stored, and it is within the limit. -/
theorem cache_size_is_exact (config : CacheConfig) (maxSize : UInt64) (start : Nat)
    (operations : List Operation) :
    ∃ cache, operations.foldlM apply (new config maxSize start) = some cache ∧
      cache.currentSize =
        cache.entries.total responseSize + cache.requestCounts.total countSize ∧
      (cache.Unsaturated → cache.currentSize =
        cache.entries.total (fun key response => key.estimatedSize + response.estimatedSize) +
          cache.requestCounts.total (fun key _ => key.estimatedSize + 64)) ∧
      cache.currentSize ≤ cache.maxSize.toNat := by
  obtain ⟨cache, ran, accounted⟩ := accounted_run operations (accounted_new config maxSize start)
  refine ⟨cache, ran, accounted.exact, fun unsaturated => ?_, accounted.bounded⟩
  rw [← unsaturated.sizes.1, ← unsaturated.sizes.2]
  exact accounted.exact

end LocationCache

end Ngxora.Cache
