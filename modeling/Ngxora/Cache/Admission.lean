/-
When a key has missed often enough to be stored.
-/

import Ngxora.Cache.Store

namespace Ngxora.Cache

open List Option

namespace LocationCache

def KeepsCounts (before after : LocationCache) : Prop :=
  ∀ key value, after.requestCounts.lookup key = some value →
    before.requestCounts.lookup key = some value

/-- Nothing appears that was not there. -/
structure Keeps (before after : LocationCache) : Prop where
  counts : KeepsCounts before after
  entries : ∀ key value, after.entries.lookup key = some value →
    before.entries.lookup key = some value

variable {cache after : LocationCache} {key : CacheKey}

lemma Keeps.refl (cache : LocationCache) : Keeps cache cache :=
  ⟨fun _ _ found => found, fun _ _ found => found⟩

lemma Keeps.trans {middle : LocationCache} (first : Keeps cache middle)
    (second : Keeps middle after) : Keeps cache after :=
  ⟨fun key value found => first.counts key value (second.counts key value found),
    fun key value found => first.entries key value (second.entries key value found)⟩

private lemma keeps_removeResponse (removed : cache.removeResponse key = some after) :
    Keeps cache after ∧ after.entries.lookup key = none := by
  unfold removeResponse at removed
  split at removed
  · next absent =>
      cases removed
      exact ⟨.refl _, absent⟩
  · obtain ⟨_, _, same⟩ := bind_eq_some_iff.mp removed
    cases same
    exact ⟨⟨fun _ _ found => found, fun _ _ => Table.lookup_of_erase⟩, AList.lookup_erase ..⟩

private lemma keeps_removeCount (removed : cache.removeCount key = some after) :
    Keeps cache after := by
  unfold removeCount at removed
  split at removed
  · cases removed
    exact .refl _
  · obtain ⟨_, _, same⟩ := bind_eq_some_iff.mp removed
    cases same
    exact ⟨fun _ _ => Table.lookup_of_erase, fun _ _ found => found⟩

variable {choose : Chooser} {now : Nat} {missed : CacheKey} {minUses : UInt64} {reached : Bool}

private lemma keeps_evict {room fuel : Nat} (evicted : evict choose room fuel cache = some after) :
    Keeps cache after := by
  induction fuel generalizing cache with
  | zero =>
    cases evicted
    exact .refl _
  | succ fuel ih =>
    unfold evict at evicted
    split at evicted
    · cases evicted
      exact .refl _
    · split at evicted
      · obtain ⟨next, removed, evicted⟩ := bind_eq_some_iff.mp evicted
        exact (keeps_removeCount removed).trans (ih evicted)
      · split at evicted
        · obtain ⟨next, removed, evicted⟩ := bind_eq_some_iff.mp evicted
          exact (keeps_removeResponse removed).1.trans (ih evicted)
        · cases evicted
          exact .refl _

private lemma keeps_makeRoom {size : Nat} {fits : Bool}
    (made : makeRoom choose size cache = some (fits, after)) : Keeps cache after := by
  unfold makeRoom at made
  split at made
  · cases made
    exact .refl _
  · obtain ⟨_, evicted, same⟩ := map_eq_some_iff.mp made
    cases same
    exact keeps_evict evicted

private lemma keeps_put {resp : CachedResponse} (stored : put choose key resp cache = some after) :
    KeepsCounts cache after ∧ ∀ other value, after.entries.lookup other = some value →
      if other = key then value = resp else cache.entries.lookup other = some value := by
  obtain ⟨uncounted, removed, without, removedResponse, stored⟩ := Results.bind₂_eq_some.mp stored
  obtain ⟨⟨fits, room⟩, made, stored⟩ := bind_eq_some_iff.mp stored
  obtain ⟨emptied, gone⟩ := keeps_removeResponse removedResponse
  have kept := ((keeps_removeCount removed).trans emptied).trans (keeps_makeRoom made)
  have old : ∀ other value, room.entries.lookup other = some value →
      if other = key then value = resp else cache.entries.lookup other = some value := by
    intro other value found
    split
    · next here =>
        have present := (keeps_makeRoom made).entries other value found
        rw [here, gone] at present
        cases present
    · exact kept.entries other value found
  cases fits with
  | false =>
    cases stored
    exact ⟨kept.counts, old⟩
  | true =>
    obtain ⟨_, _, same⟩ := bind_eq_some_iff.mp stored
    cases same
    refine ⟨kept.counts, fun other value found => ?_⟩
    by_cases here : other = key
    · rw [here, AList.lookup_insert] at found
      cases found
      rw [if_pos here]
    · rw [AList.lookup_insert_ne here] at found
      exact old other value found

private lemma keeps_evictStale (swept : evictStale now cache = some after) : Keeps cache after := by
  obtain ⟨⟨entries, size⟩, sweptEntries, ⟨counts, rest⟩, sweptCounts, same⟩ :=
    Results.bind₂_eq_some.mp swept
  obtain ⟨_, _, keptEntries⟩ := bind_eq_some_iff.mp sweptEntries
  obtain ⟨_, _, keptCounts⟩ := bind_eq_some_iff.mp sweptCounts
  cases keptEntries
  cases keptCounts
  cases same
  exact ⟨fun _ _ found => (Table.lookup_retain_eq_some.mp found).1,
    fun _ _ found => (Table.lookup_retain_eq_some.mp found).1⟩

private lemma keeps_syncLimits {config : CacheConfig} {maxSize : UInt64}
    (synced : syncLimits choose now config maxSize cache = some after) : Keeps cache after := by
  obtain ⟨swept, sweptOk, ⟨_, _⟩, made, same⟩ := Results.bind₂_eq_some.mp synced
  cases same
  refine Keeps.trans ?_ (keeps_makeRoom made)
  split at sweptOk
  · exact ⟨(keeps_evictStale sweptOk).counts, (keeps_evictStale sweptOk).entries⟩
  · cases sweptOk
    exact ⟨fun _ _ found => found, fun _ _ found => found⟩

structure Miss where
  time : Nat
  ttl : Duration

/-- The history after an operation.  A miss of a key without a counter starts it again. -/
def observe (key : CacheKey) (cache : LocationCache) (history : List Miss) :
    Operation → List Miss
  | .recordMiss _ now missed minUses =>
    if missed = key ∧ minUses > 1 then
      let miss : Miss := { time := now, ttl := cache.ttl }
      if (cache.requestCounts.lookup key).isSome then miss :: history else [miss]
    else history
  | _ => history

/-- The history has the misses since the counter of the key was created, the latest first. -/
def observed (key : CacheKey) (state : LocationCache × List Miss) (operation : Operation) :
    Option (LocationCache × List Miss) :=
  (state.1.apply operation).map fun after => (after, observe key state.1 state.2 operation)

/-- The counter had not expired between the two misses. -/
def Within (later earlier : Miss) : Prop := later.time - earlier.time < later.ttl.nanos

/-- The last `count` misses came in quick succession. -/
def Recent (count : Nat) (history : List Miss) : Prop :=
  count ≤ history.length ∧ (history.take count).IsChain Within

variable {history : List Miss}

lemma Recent.mono {fewer count : Nat} (recent : Recent count history) (least : fewer ≤ count) :
    Recent fewer history := by
  refine ⟨least.trans recent.1, ?_⟩
  have shorter := recent.2.take fewer
  rwa [take_take, min_eq_left least] at shorter

/-- A counter and the misses it stands for. -/
def Counts (value : MissCount) (history : List Miss) : Prop :=
  (∃ latest earlier, history = latest :: earlier ∧ latest.time = value.lastSeen) ∧
    Recent value.count.toNat history

private lemma counts_countMiss {value : MissCount} (counts : Counts value history) (ttl : Duration)
    (now : Nat) : Counts (countMiss ttl now value) (⟨now, ttl⟩ :: history) := by
  refine ⟨⟨_, _, rfl, rfl⟩, ?_⟩
  obtain ⟨⟨latest, old, rfl, seen⟩, recent⟩ := counts
  have bound : ∀ count : Nat, (Machine.saturateU64 (count + 1)).toNat ≤ count + 1 := by
    intro count
    by_cases small : count + 1 < 2 ^ 64
    · rw [Machine.saturateU64_toNat small]
    · have below := (Machine.saturateU64 (count + 1)).toNat_lt
      omega
  simp only [countMiss]
  split
  · exact Recent.mono ⟨by simp, by simp⟩ (bound 0)
  · next inTime =>
      refine Recent.mono ⟨?_, ?_⟩ (bound value.count.toNat)
      · have enough := recent.1
        simp only [length_cons] at enough ⊢
        omega
      · have chain := recent.2
        cases many : value.count.toNat with
        | zero => simp
        | succ count =>
          rw [many, take_succ_cons] at chain
          rw [take_succ_cons, take_succ_cons, isChain_cons_cons]
          refine ⟨?_, chain⟩
          rw [Within, seen]
          exact Nat.lt_of_not_le inTime

private lemma recordMiss_cases
    (recorded : recordMiss choose now missed minUses cache = some (reached, after)) :
    (minUses ≤ 1 ∧ after = cache) ∨
      (1 < minUses ∧ ∃ value, cache.requestCounts.lookup missed = some value ∧
        reached = decide ((countMiss cache.ttl now value).count ≥ minUses) ∧
        after = { cache with
          requestCounts := cache.requestCounts.insert missed (countMiss cache.ttl now value) }) ∨
      (1 < minUses ∧ cache.requestCounts.lookup missed = none ∧ reached = false ∧
        ∃ room, Keeps cache room ∧ (after = room ∨ ∃ size, after = { room with
          requestCounts := room.requestCounts.insert missed ⟨1, now⟩, currentSize := size })) := by
  unfold recordMiss at recorded
  split at recorded
  · next few =>
      cases recorded
      exact .inl ⟨few, rfl⟩
  · next more =>
      have several : 1 < minUses := UInt64.not_le.mp more
      split at recorded
      · next value found =>
          cases recorded
          exact .inr (.inl ⟨several, value, found, rfl, rfl⟩)
      · next absent =>
          obtain ⟨⟨fits, room⟩, made, recorded⟩ := bind_eq_some_iff.mp recorded
          have kept := keeps_makeRoom made
          cases fits with
          | false =>
            cases recorded
            exact .inr (.inr ⟨several, absent, rfl, _, kept, .inl rfl⟩)
          | true =>
            obtain ⟨_, _, same⟩ := bind_eq_some_iff.mp recorded
            cases same
            exact .inr (.inr ⟨several, absent, rfl, room, kept, .inr ⟨_, rfl⟩⟩)

/-- What a counter says has happened. -/
def Backed (key : CacheKey) (cache : LocationCache) (history : List Miss) : Prop :=
  ∀ value, cache.requestCounts.lookup key = some value → Counts value history

private lemma Backed.of_keeps (backed : Backed key cache history) (kept : KeepsCounts cache after) :
    Backed key after history :=
  fun value found => backed value (kept key value found)

private lemma backed_recordMiss (backed : Backed key cache history)
    (recorded : recordMiss choose now missed minUses cache = some (reached, after)) :
    Backed key after (observe key cache history (.recordMiss choose now missed minUses)) := by
  rcases recordMiss_cases recorded with ⟨few, rfl⟩ | ⟨several, value, found, _, counted⟩ |
    ⟨several, absent, _, room, kept, counted⟩
  · rwa [observe, if_neg (fun both => UInt64.not_lt.mpr few both.2)]
  · intro other present
    rw [counted, Table.lookup_insert_eq] at present
    by_cases here : key = missed
    · subst here
      rw [if_pos rfl] at present
      cases present
      simp only [observe, several, found, and_self, if_true, isSome_some]
      exact counts_countMiss (backed value found) cache.ttl now
    · rw [if_neg here] at present
      rw [observe, if_neg (fun both => here both.1.symm)]
      exact backed other present
  · intro other present
    by_cases here : key = missed
    · subst here
      have gone : room.requestCounts.lookup key = none := by
        cases found : room.requestCounts.lookup key with
        | none => rfl
        | some value =>
          rw [kept.counts key value found] at absent
          cases absent
      rcases counted with rfl | ⟨_, rfl⟩
      · rw [gone] at present
        cases present
      · rw [AList.lookup_insert] at present
        cases present
        simp only [observe, several, absent, and_self, if_true, isSome_none]
        exact ⟨⟨_, _, rfl, rfl⟩, by simp [Recent]⟩
    · rw [observe, if_neg (fun both => here both.1.symm)]
      refine backed other (kept.counts key other ?_)
      rcases counted with rfl | ⟨_, rfl⟩
      · exact present
      · rwa [AList.lookup_insert_ne here] at present

private lemma backed_observed {later : List Miss} {operation : Operation}
    (backed : Backed key cache history)
    (step : observed key (cache, history) operation = some (after, later)) :
    Backed key after later := by
  obtain ⟨_, applied, same⟩ := map_eq_some_iff.mp step
  cases same
  cases operation with
  | syncLimits choose now config maxSize => exact backed.of_keeps (keeps_syncLimits applied).counts
  | recordMiss choose now missed minUses =>
    obtain ⟨⟨_, _⟩, recorded, same⟩ := map_eq_some_iff.mp applied
    cases same
    exact backed_recordMiss backed recorded
  | put choose stored resp => exact backed.of_keeps (keeps_put applied).1
  | evictStale now => exact backed.of_keeps (keeps_evictStale applied).counts

private lemma exists_observed_run (key : CacheKey) (operations : List Operation)
    (accounted : cache.Accounted) (backed : Backed key cache history) :
    ∃ after later, operations.foldlM (observed key) (cache, history) = some (after, later) ∧
      Backed key after later := by
  induction operations generalizing cache history with
  | nil => exact ⟨cache, history, rfl, backed⟩
  | cons operation rest ih =>
    obtain ⟨next, applied, nextAccounted⟩ := accounted_apply operation accounted
    have step : observed key (cache, history) operation =
        some (next, observe key cache history operation) := by
      rw [observed, applied, map_some]
    obtain ⟨after, later, ran, res⟩ := ih nextAccounted (backed_observed backed step)
    exact ⟨after, later, by rw [foldlM_cons, step]; exact ran, res⟩

/-- A key is admitted only after as many misses in time as are asked for, this one counted. -/
theorem admission_needs_recent_misses (config : CacheConfig) (maxSize : UInt64) (start : Nat)
    (operations : List Operation) (key : CacheKey) :
    ∃ cache history,
      operations.foldlM (observed key) (new config maxSize start, []) = some (cache, history) ∧
      ∀ choose now minUses after, 1 < minUses →
        recordMiss choose now key minUses cache = some (true, after) →
          Recent minUses.toNat
            (observe key cache history (.recordMiss choose now key minUses)) := by
  have backed : Backed key (new config maxSize start) [] := fun _ found => nomatch found
  rcases exists_observed_run key operations (accounted_new config maxSize start) backed with
    ⟨cache, history, ran, backed⟩
  refine ⟨cache, history, ran, fun choose now minUses after several recorded => ?_⟩
  rcases recordMiss_cases recorded with ⟨few, _⟩ | ⟨_, value, found, reached, _⟩ |
    ⟨_, _, reached, _⟩
  · exact absurd several (UInt64.not_lt.mpr few)
  · have enough : minUses ≤ (countMiss cache.ttl now value).count := of_decide_eq_true reached.symm
    have counts := counts_countMiss (backed value found) cache.ttl now
    simp only [observe, several, found, and_self, if_true, isSome_some]
    exact counts.2.mono (UInt64.le_iff_toNat_le.mp enough)
  · cases reached

/-- The response last put under the key. -/
def lastPut (key : CacheKey) (last : Option CachedResponse) : Operation → Option CachedResponse
  | .put _ stored response => if stored = key then some response else last
  | _ => last

private lemma lastPut_apply {last : CacheKey → Option CachedResponse} {operation : Operation}
    (held : ∀ key value, cache.entries.lookup key = some value → last key = some value)
    (applied : cache.apply operation = some after) (key : CacheKey) (value : CachedResponse)
    (found : after.entries.lookup key = some value) :
    lastPut key (last key) operation = some value := by
  cases operation with
  | syncLimits choose now config maxSize =>
    exact held key value ((keeps_syncLimits applied).entries key value found)
  | recordMiss choose now missed minUses =>
    obtain ⟨⟨_, _⟩, recorded, same⟩ := map_eq_some_iff.mp applied
    cases same
    rcases recordMiss_cases recorded with ⟨_, rfl⟩ | ⟨_, _, _, _, rfl⟩ |
      ⟨_, _, _, _, kept, rfl | ⟨_, rfl⟩⟩
    · exact held key value found
    · exact held key value found
    · exact held key value (kept.entries key value found)
    · exact held key value (kept.entries key value found)
  | put choose stored resp =>
    have kept := (keeps_put applied).2 key value found
    by_cases here : key = stored
    · rw [if_pos here] at kept
      rw [lastPut, if_pos here.symm, kept]
    · rw [if_neg here] at kept
      rw [lastPut, if_neg (Ne.symm here)]
      exact held key value kept
  | evictStale now =>
    exact held key value ((keeps_evictStale applied).entries key value found)

private lemma lastPut_run (operations : List Operation) (last : CacheKey → Option CachedResponse)
    (run : operations.foldlM apply cache = some after)
    (held : ∀ key value, cache.entries.lookup key = some value → last key = some value)
    (key : CacheKey) (value : CachedResponse) (found : after.entries.lookup key = some value) :
    operations.foldl (lastPut key) (last key) = some value := by
  induction operations generalizing cache last with
  | nil =>
    cases run
    exact held key value found
  | cons operation rest ih =>
    obtain ⟨next, applied, run⟩ := bind_eq_some_iff.mp run
    exact ih _ run (lastPut_apply held applied)

/-- Whatever was evicted, swept or admitted in between, what a key finds is the response put under
it last: never one of another key, and never one that a later `put` replaced. -/
theorem cached_response_is_last_put (config : CacheConfig) (maxSize : UInt64) (start : Nat)
    (operations : List Operation) :
    ∃ cache, operations.foldlM apply (new config maxSize start) = some cache ∧
      ∀ key response, cache.entries.lookup key = some response →
        operations.foldl (lastPut key) none = some response := by
  obtain ⟨cache, run, _⟩ := accounted_run operations (accounted_new config maxSize start)
  refine ⟨cache, run, fun key response found => ?_⟩
  exact lastPut_run operations (fun _ => none) run (fun _ _ held => nomatch held) key response found

end LocationCache
end Ngxora.Cache
