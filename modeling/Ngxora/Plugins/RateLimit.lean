/-
The rate-limit plugin: a counter for each client, started again in every window.
-/

import Ngxora.Base.Runs
import Ngxora.Base.Totals
import Ngxora.Net.IpAddr

namespace Ngxora.RateLimit

open Table List Net

/-- `u32::MAX`, where the counter of a bucket stops. -/
def maxCount : Nat := 4294967295

def bucketTtlSecs : Nat := 120

def sweepIntervalRequests : Nat := 1024

structure Bucket where
  window : Nat
  count : Nat
  lastSeen : Nat

def Bucket.new (window : Nat) : Bucket where
  window
  count := 0
  lastSeen := window

abbrev Buckets := Table IpAddr Bucket

def updateBucket (currentWindow : Nat) (found : Option Bucket) : Bucket :=
  let bucket := found.getD (.new currentWindow)
  let bucket := if bucket.window ≠ currentWindow then .new currentWindow else bucket
  { bucket with lastSeen := currentWindow, count := min (bucket.count + 1) maxCount }

/-- What `allow_request` does under the lock. -/
def takeRequest (maxRequestsPerSecond : UInt32) (clientIp : IpAddr) (currentWindow : Nat)
    (buckets : Buckets) : Bool × Buckets :=
  let bucket := updateBucket currentWindow (buckets.lookup clientIp)
  (decide (bucket.count ≤ maxRequestsPerSecond.toNat), buckets.insert clientIp bucket)

def sweepDue (requests : UInt64) : Bool := requests.toNat % sweepIntervalRequests == 0

def sweep (currentWindow : Nat) (buckets : Buckets) : Buckets :=
  buckets.retain fun _ bucket => decide (bucket.lastSeen ≥ currentWindow - bucketTtlSecs)

structure RateLimitPlugin where
  maxRequestsPerSecond : UInt32
  buckets : Buckets := ∅
  requestsSinceSweep : UInt64 := 0

namespace RateLimitPlugin

def maybeSweep (plugin : RateLimitPlugin) (currentWindow : Nat) : RateLimitPlugin :=
  let requests := plugin.requestsSinceSweep + 1
  { plugin with
    requestsSinceSweep := requests
    buckets := if sweepDue requests then sweep currentWindow plugin.buckets else plugin.buckets }

def takeRequest (plugin : RateLimitPlugin) (clientIp : IpAddr) (currentWindow : Nat) :
    Bool × RateLimitPlugin :=
  let taken := RateLimit.takeRequest plugin.maxRequestsPerSecond clientIp currentWindow
    plugin.buckets
  (taken.1, { plugin with buckets := taken.2 })

def allowRequest (plugin : RateLimitPlugin) (clientIp : IpAddr) (currentWindow : Nat) :
    Bool × RateLimitPlugin :=
  let taken := plugin.takeRequest clientIp currentWindow
  (taken.1, taken.2.maybeSweep currentWindow)

end RateLimitPlugin

open RateLimitPlugin (allowRequest)

lemma lookup_sweep (buckets : Buckets) (currentWindow : Nat) (ip : IpAddr) :
    (sweep currentWindow buckets).lookup ip = buckets.lookup ip ∨
      (sweep currentWindow buckets).lookup ip = none ∧
        ∃ bucket, buckets.lookup ip = some bucket ∧ bucket.lastSeen < currentWindow := by
  cases kept : (sweep currentWindow buckets).lookup ip with
  | some bucket => exact .inl (lookup_retain_eq_some.mp kept).1.symm
  | none =>
    cases found : buckets.lookup ip with
    | none => exact .inl rfl
    | some bucket =>
      refine .inr ⟨rfl, bucket, rfl, ?_⟩
      by_contra recent
      have here : (sweep currentWindow buckets).lookup ip = some bucket :=
        lookup_retain_eq_some.mpr ⟨found, by simp; omega⟩
      rw [kept] at here
      cases here

def decisions (call : RateLimitPlugin → IpAddr → Nat → Bool × RateLimitPlugin) :
    RateLimitPlugin → List (IpAddr × Nat) → List Bool
  | _, [] => []
  | plugin, (clientIp, window) :: rest =>
    let answer := call plugin clientIp window
    answer.1 :: decisions call answer.2 rest

/-- What a sweep may have done to the bucket of a client: nothing, or it has removed a
bucket of an earlier window. -/
def Swept (currentWindow : Nat) (swept unswept : Option Bucket) : Prop :=
  (swept = unswept ∧ ∀ bucket ∈ unswept, bucket.lastSeen = bucket.window) ∨
    swept = none ∧ ∃ bucket, unswept = some bucket ∧ bucket.window < currentWindow

/-- The plugins differ by buckets of windows before `before` only. -/
def Tracks (before : Nat) (swept unswept : RateLimitPlugin) : Prop :=
  swept.maxRequestsPerSecond = unswept.maxRequestsPerSecond ∧
    ∀ ip, Swept before (swept.buckets.lookup ip) (unswept.buckets.lookup ip)

variable {window : Nat} {swept unswept found : Option Bucket}

lemma Swept.later {later : Nat} (rel : Swept window swept unswept) (ordered : window ≤ later) :
    Swept later swept unswept := by
  rcases rel with same | ⟨gone, bucket, found, old⟩
  · exact .inl same
  · exact .inr ⟨gone, bucket, found, by omega⟩

lemma Swept.updateBucket (rel : Swept window swept unswept) :
    updateBucket window swept = RateLimit.updateBucket window unswept := by
  rcases rel with ⟨same, _⟩ | ⟨gone, bucket, found, old⟩
  · rw [same]
  · have other : bucket.window ≠ window := by omega
    rw [gone, found]
    simp [RateLimit.updateBucket, Bucket.new, other]

lemma lastSeen_updateBucket (window : Nat) (found : Option Bucket) :
    (updateBucket window found).lastSeen = window ∧
      (updateBucket window found).window = window := by
  refine ⟨rfl, ?_⟩
  simp only [updateBucket]
  split
  · rfl
  · next same => exact not_not.mp same

lemma tracks_empty (maxRequestsPerSecond : UInt32) :
    Tracks 0 { maxRequestsPerSecond } { maxRequestsPerSecond } :=
  ⟨rfl, fun ip => .inl ⟨rfl, fun bucket found => by cases found⟩⟩

lemma Tracks.allowRequest {swept unswept : RateLimitPlugin} {before : Nat}
    (tracks : Tracks before swept unswept) (ordered : before ≤ window) (clientIp : IpAddr) :
    (swept.allowRequest clientIp window).1 = (unswept.takeRequest clientIp window).1 ∧
      Tracks window (swept.allowRequest clientIp window).2
        (unswept.takeRequest clientIp window).2 := by
  obtain ⟨limits, rel⟩ := tracks
  have sameBucket := ((rel clientIp).later ordered).updateBucket
  have taken : ∀ ip, Swept window ((swept.takeRequest clientIp window).2.buckets.lookup ip)
      ((unswept.takeRequest clientIp window).2.buckets.lookup ip) := by
    intro ip
    simp only [RateLimitPlugin.takeRequest, takeRequest, lookup_insert_eq, sameBucket]
    by_cases here : ip = clientIp
    · rw [if_pos here, if_pos here]
      refine .inl ⟨rfl, ?_⟩
      intro bucket found
      cases found
      obtain ⟨seen, same⟩ := lastSeen_updateBucket window (unswept.buckets.lookup clientIp)
      rw [seen, same]
    · rw [if_neg here, if_neg here]
      exact (rel ip).later ordered
  refine ⟨?_, limits, ?_⟩
  · simp [RateLimitPlugin.allowRequest, RateLimitPlugin.takeRequest, takeRequest, sameBucket, limits]
  · intro ip
    simp only [RateLimitPlugin.allowRequest, RateLimitPlugin.maybeSweep]
    split
    · -- a bucket that the sweep removes would be started again in any later window
      rcases lookup_sweep (swept.takeRequest clientIp window).2.buckets window ip with
        kept | ⟨gone, bucket, found, old⟩
      · rw [kept]
        exact taken ip
      · rcases taken ip with ⟨same, seen⟩ | ⟨absent, _⟩
        · rw [found] at same
          have inWindow := seen bucket same.symm
          exact .inr ⟨gone, bucket, same.symm, by omega⟩
        · rw [absent] at found
          cases found
    · exact taken ip

/-- For windows that do not decrease, the answers are those of a plugin that never
sweeps. -/
theorem sweeping_is_invisible (maxRequestsPerSecond : UInt32) (calls : List (IpAddr × Nat))
    (ordered : (calls.map Prod.snd).Pairwise (· ≤ ·)) :
    decisions allowRequest { maxRequestsPerSecond } calls =
      decisions RateLimitPlugin.takeRequest { maxRequestsPerSecond } calls := by
  suffices general : ∀ (before : Nat) (swept unswept : RateLimitPlugin),
      Tracks before swept unswept → (∀ window ∈ calls.map Prod.snd, before ≤ window) →
        decisions allowRequest swept calls = decisions RateLimitPlugin.takeRequest unswept calls by
    exact general 0 _ _ (tracks_empty _) fun _ _ => Nat.zero_le _
  induction calls with
  | nil => exact fun _ _ _ _ _ => rfl
  | cons call rest ih =>
    intro before swept unswept tracks later
    rw [map_cons, pairwise_cons] at ordered
    rw [map_cons, forall_mem_cons] at later
    rcases tracks.allowRequest later.1 call.1 with ⟨answer, tracks⟩
    rw [decisions, decisions, answer, ih ordered.2 call.2 _ _ tracks ordered.1]

def client : IpAddr := .v4 ⟨192, 0, 2, 1⟩

/-- The sweep of the last of 1024 calls drops the bucket of the first client, who then
returns. -/
theorem returning_client_swept :
    let calls := (client, 0) :: replicate 1023 (.v4 ⟨192, 0, 2, 2⟩, 200)
    let plugin : RateLimitPlugin := { maxRequestsPerSecond := 1 }
    (calls.foldl (fun plugin call => (plugin.allowRequest call.1 call.2).2)
        plugin).buckets.lookup client = none ∧
      ((calls.foldl (fun plugin call => (plugin.takeRequest call.1 call.2).2)
        plugin).buckets.lookup client).isSome = true ∧
      decisions allowRequest plugin (calls ++ [(client, 200)]) =
        decisions RateLimitPlugin.takeRequest plugin (calls ++ [(client, 200)]) := by
  intro calls plugin
  have windows : (calls ++ [(client, 200)]).map Prod.snd = 0 :: replicate 1024 200 := by
    decide +kernel
  refine ⟨by decide +kernel, by decide +kernel, sweeping_is_invisible 1 _ ?_⟩
  rw [windows, pairwise_cons, pairwise_replicate]
  exact ⟨fun _ _ => Nat.zero_le _, .inr le_rfl⟩

/-- The answers to one client in a run with all clients. -/
def answersTo (clientIp : IpAddr) (plugin : RateLimitPlugin) (calls : List (IpAddr × Nat)) :
    List Bool :=
  (((decisions allowRequest plugin calls).zip calls).filter
    fun answer => answer.2.1 = clientIp).map Prod.fst

/-- A client is answered as if it were alone. -/
theorem clients_limited_separately (maxRequestsPerSecond : UInt32) (clientIp : IpAddr)
    (calls : List (IpAddr × Nat)) (ordered : (calls.map Prod.snd).Pairwise (· ≤ ·)) :
    answersTo clientIp { maxRequestsPerSecond } calls =
      decisions allowRequest { maxRequestsPerSecond }
        (calls.filter fun call => call.1 = clientIp) := by
  -- beside each plugin runs one that does not sweep, and these two have the same bucket
  suffices general : ∀ (before : Nat) (all allKept own ownKept : RateLimitPlugin),
      Tracks before all allKept → Tracks before own ownKept →
      allKept.maxRequestsPerSecond = ownKept.maxRequestsPerSecond →
      allKept.buckets.lookup clientIp = ownKept.buckets.lookup clientIp →
      (∀ window ∈ calls.map Prod.snd, before ≤ window) → answersTo clientIp all calls =
        decisions allowRequest own (calls.filter fun call => call.1 = clientIp) by
    exact general 0 _ _ _ _ (tracks_empty _) (tracks_empty _) rfl rfl fun _ _ => Nat.zero_le _
  induction calls with
  | nil => exact fun _ _ _ _ _ _ _ _ _ _ => rfl
  | cons call rest ih =>
    intro before all allKept own ownKept tracks ownTracks limits same later
    rw [map_cons, pairwise_cons] at ordered
    rw [map_cons, forall_mem_cons] at later
    obtain ⟨answer, next⟩ := tracks.allowRequest later.1 call.1
    rw [answersTo, decisions, zip_cons_cons]
    by_cases mine : call.1 = clientIp
    · subst mine
      obtain ⟨ownAnswer, ownNext⟩ := ownTracks.allowRequest later.1 call.1
      have taken := ih ordered.2 call.2 _ _ _ _ next ownNext limits
        (by simp [RateLimitPlugin.takeRequest, takeRequest, same]) ordered.1
      rw [filter_cons_of_pos (by simp), filter_cons_of_pos (by simp), map_cons, decisions, ← taken,
        answer, ownAnswer]
      simp [RateLimitPlugin.takeRequest, takeRequest, same, limits, answersTo]
    · rw [filter_cons_of_neg (by simpa using mine), filter_cons_of_neg (by simpa using mine)]
      refine ih ordered.2 call.2 _ _ _ _ next
        ⟨ownTracks.1, fun ip => (ownTracks.2 ip).later later.1⟩ limits ?_ ordered.1
      exact ((lookup_insert_eq _ _ _ _).trans (if_neg (Ne.symm mine))).trans same

theorem busy_neighbour_ignored :
    answersTo client { maxRequestsPerSecond := 1 }
      [(.v4 ⟨192, 0, 2, 2⟩, 0), (.v4 ⟨192, 0, 2, 2⟩, 0), (client, 0)] = [true] :=
  clients_limited_separately 1 _ _ (by decide)

/-- Where a call is: it has read its window, updated its bucket, or has a sweep to do. -/
inductive Call where
  | timed (clientIp : IpAddr) (window : Nat)
  | counted (window : Nat)
  | sweeping (window : Nat)
  | returned

structure Answer where
  clientIp : IpAddr
  window : Nat
  allowed : Bool
  started : Bool

/-- A request reads its window before it takes the lock. -/
structure System where
  plugin : RateLimitPlugin
  clock : Nat := 0
  calls : List Call := []
  answers : List Answer := []

inductive Action where
  | tick
  | call (clientIp : IpAddr)
  | update (call : Nat)
  | count (call : Nat)
  | sweep (call : Nat)

def inWindow (window : Nat) (found : Option Bucket) : Bool :=
  found.any fun bucket => decide (bucket.window = window)

def System.update (system : System) (place : Nat) (clientIp : IpAddr) (window : Nat) : System :=
  let taken := system.plugin.takeRequest clientIp window
  { system with
    plugin := taken.2
    calls := system.calls.set place (.counted window)
    answers := system.answers ++
      [{ clientIp
         window
         allowed := taken.1
         started := !inWindow window (system.plugin.buckets.lookup clientIp) }] }

def step (system : System) : Action → Option System
  | .tick => some { system with clock := system.clock + 1 }
  | .call clientIp =>
    some { system with calls := system.calls ++ [.timed clientIp system.clock] }
  | .update place =>
    match system.calls[place]? with
    | some (.timed clientIp window) => some (system.update place clientIp window)
    | _ => none
  | .count place =>
    match system.calls[place]? with
    | some (.counted window) =>
      let requests := system.plugin.requestsSinceSweep + 1
      some
        { system with
          plugin := { system.plugin with requestsSinceSweep := requests }
          calls := system.calls.set place
            (if sweepDue requests then .sweeping window else .returned) }
    | _ => none
  | .sweep place =>
    match system.calls[place]? with
    | some (.sweeping window) =>
      some
        { system with
          plugin :=
            { system.plugin with buckets := RateLimit.sweep window system.plugin.buckets }
          calls := system.calls.set place .returned }
    | _ => none

namespace System

def tally (system : System) (clientIp : IpAddr) (window : Nat) (counts : Answer → Bool) : Nat :=
  system.answers.countP fun answer =>
    decide (answer.clientIp = clientIp) && decide (answer.window = window) && counts answer

def requests (system : System) (clientIp : IpAddr) (window : Nat) : Nat :=
  system.tally clientIp window fun _ => true

def allowed (system : System) (clientIp : IpAddr) (window : Nat) : Nat :=
  system.tally clientIp window Answer.allowed

def starts (system : System) (clientIp : IpAddr) (window : Nat) : Nat :=
  system.tally clientIp window Answer.started

end System

/-- What is known of one client and window: `current` is the counter of its bucket while
the bucket is of this window. -/
structure Tallied (limit requests allowed starts : Nat) (current : Option Nat) : Prop where
  fresh : starts = 0 → requests = 0 ∧ allowed = 0 ∧ current = none
  once : starts = 1 → 0 < requests ∧ ∀ count ∈ current, count = min requests maxCount
  again : 2 ≤ starts → 0 < requests ∧ ∀ count ∈ current, count < requests
  unlimited : limit = maxCount → allowed = requests
  closed : limit = 0 → allowed = 0
  onceAllowed : starts = 1 → limit < maxCount → allowed = min requests limit
  againAllowed : 2 ≤ starts → 0 < limit → limit < maxCount →
    (requests ≤ limit → allowed = requests) ∧ (limit < requests → limit < allowed)

namespace Tallied

variable {limit requests allowed starts count : Nat} {current : Option Nat}

lemma initial (limit : Nat) : Tallied limit 0 0 0 none := by
  constructor <;> simp

lemma lose (tallied : Tallied limit requests allowed starts current) :
    Tallied limit requests allowed starts none :=
  { tallied with
    fresh := fun none => ⟨(tallied.fresh none).1, (tallied.fresh none).2.1, rfl⟩
    once := fun one => ⟨(tallied.once one).1, by simp⟩
    again := fun more => ⟨(tallied.again more).1, by simp⟩ }

lemma next (tallied : Tallied limit requests allowed starts (some count)) :
    Tallied limit (requests + 1)
      (allowed + (decide (min (count + 1) maxCount ≤ limit)).toNat) starts
      (some (min (count + 1) maxCount)) := by
  have inCurrent : count ∈ some count := rfl
  have started : starts ≠ 0 := fun none => nomatch (tallied.fresh none).2.2
  have decided : (decide (min (count + 1) maxCount ≤ limit)).toNat =
      if min (count + 1) maxCount ≤ limit then 1 else 0 := by
    split <;> simp_all
  rw [decided]
  refine ⟨fun none => absurd none started, ?_, ?_, ?_, ?_, ?_, ?_⟩
  · intro one
    have counted := (tallied.once one).2 count inCurrent
    refine ⟨by omega, fun other same => ?_⟩
    cases same
    omega
  · intro more
    have counted := (tallied.again more).2 count inCurrent
    refine ⟨by omega, fun other same => ?_⟩
    cases same
    omega
  · intro full
    have all := tallied.unlimited full
    rw [if_pos (by omega)]
    omega
  · intro zero
    have none := tallied.closed zero
    rw [if_neg (by unfold maxCount; omega)]
    omega
  · intro one below
    have counted := (tallied.once one).2 count inCurrent
    have before := tallied.onceAllowed one below
    split <;> omega
  · intro more pos below
    have counted := (tallied.again more).2 count inCurrent
    have before := tallied.againAllowed more pos below
    split <;> omega

lemma start (tallied : Tallied limit requests allowed starts current) :
    Tallied limit (requests + 1) (allowed + (decide (1 ≤ limit)).toNat) (starts + 1) (some 1) := by
  have pos : 0 < maxCount := by decide
  have decided : (decide (1 ≤ limit)).toNat = if 1 ≤ limit then 1 else 0 := by split <;> simp_all
  rw [decided]
  refine ⟨by omega, ?_, ?_, ?_, ?_, ?_, ?_⟩
  · intro one
    have before := tallied.fresh (by omega)
    refine ⟨by omega, fun other same => ?_⟩
    cases same
    omega
  · intro more
    have before : 0 < requests := by
      by_cases one : starts = 1
      · exact (tallied.once one).1
      · exact (tallied.again (by omega)).1
    refine ⟨by omega, fun other same => ?_⟩
    cases same
    omega
  · intro full
    have all := tallied.unlimited full
    rw [if_pos (by omega)]
    omega
  · intro zero
    have none := tallied.closed zero
    rw [if_neg (by omega)]
    omega
  · intro one below
    have before := tallied.fresh (by omega)
    split <;> omega
  · intro more allows below
    rw [if_pos (by omega)]
    by_cases one : starts = 1
    · have before := tallied.onceAllowed one below
      omega
    · have before := tallied.againAllowed (by omega) allows below
      omega

lemma bounded_iff (tallied : Tallied limit requests allowed starts current)
    (bound : limit ≤ maxCount) : allowed ≤ limit ↔
      limit = 0 ∨ requests ≤ limit ∨ starts ≤ 1 ∧ limit < maxCount := by
  by_cases full : limit = maxCount
  · have all := tallied.unlimited full
    have pos : 0 < maxCount := by decide
    omega
  · have below : limit < maxCount := by omega
    by_cases zero : limit = 0
    · have none := tallied.closed zero
      omega
    · by_cases more : 2 ≤ starts
      · have again := tallied.againAllowed more (by omega) below
        omega
      · by_cases one : starts = 1
        · have once := tallied.onceAllowed one below
          omega
        · have fresh := tallied.fresh (by omega)
          omega

end Tallied

def current (window : Nat) (found : Option Bucket) : Option Nat :=
  (found.filter fun bucket => decide (bucket.window = window)).map Bucket.count

lemma current_of_inWindow (here : inWindow window found = true) :
    current window found = some (found.getD (.new window)).count ∧
      (updateBucket window found).count = min ((found.getD (.new window)).count + 1) maxCount := by
  cases found with
  | none => cases here
  | some bucket =>
    have same : bucket.window = window := by simpa [inWindow] using here
    simp [current, updateBucket, same]

lemma count_of_started (elsewhere : inWindow window found = false) :
    (updateBucket window found).count = 1 := by
  cases found with
  | none => simp [updateBucket, Bucket.new, maxCount]
  | some bucket =>
    have other : bucket.window ≠ window := by simpa [inWindow] using elsewhere
    simp [updateBucket, Bucket.new, other, maxCount]

/-- The tallies of every client and window fit its bucket. -/
def System.Sound (limit : UInt32) (system : System) : Prop :=
  system.plugin.maxRequestsPerSecond = limit ∧ ∀ clientIp window,
    Tallied limit.toNat (system.requests clientIp window) (system.allowed clientIp window)
      (system.starts clientIp window) (current window (system.plugin.buckets.lookup clientIp))

lemma System.tally_update (system : System) (place : Nat) (caller ip : IpAddr)
    (read window : Nat) (counts : Answer → Bool) :
    (system.update place caller read).tally ip window counts =
      system.tally ip window counts +
        if caller = ip ∧ read = window then
          (counts
            { clientIp := caller
              window := read
              allowed := (system.plugin.takeRequest caller read).1
              started := !inWindow read (system.plugin.buckets.lookup caller) }).toNat
        else 0 := by
  simp only [tally, update, countP_append, countP_singleton]
  by_cases here : caller = ip ∧ read = window
  · rw [if_pos here]
    simp only [here.1, here.2, decide_true, Bool.true_and]
    cases counts _ <;> rfl
  · rw [if_neg here, if_neg]
    simp only [Bool.and_eq_true, decide_eq_true_eq]
    exact fun both => here both.1

variable {system : System}

lemma System.Sound.update {limit : UInt32} (sound : system.Sound limit) (place : Nat)
    (caller : IpAddr) (read : Nat) : (system.update place caller read).Sound limit := by
  refine ⟨sound.1, fun clientIp window => ?_⟩
  have before := sound.2 clientIp window
  have bucket : (system.update place caller read).plugin.buckets.lookup clientIp =
      if clientIp = caller then some (updateBucket read (system.plugin.buckets.lookup caller))
      else system.plugin.buckets.lookup clientIp :=
    lookup_insert_eq _ _ _ _
  simp only [requests, allowed, starts, tally_update] at before ⊢
  rw [bucket]
  by_cases same : caller = clientIp
  · subst same
    by_cases now : read = window
    · subst now
      have counter : current read (some (updateBucket read (system.plugin.buckets.lookup caller))) =
          some (updateBucket read (system.plugin.buckets.lookup caller)).count := by
        simp [current, (lastSeen_updateBucket read _).2]
      simp only [and_self, if_true, counter, RateLimitPlugin.takeRequest, takeRequest, sound.1,
        Bool.toNat_true]
      cases here : inWindow read (system.plugin.buckets.lookup caller) with
      | true =>
        obtain ⟨counted, counts⟩ := current_of_inWindow here
        rw [counted] at before
        rw [counts]
        exact before.next
      | false =>
        rw [count_of_started here]
        exact before.start
    · -- the bucket is now of another window
      have lost : current window (some (updateBucket read (system.plugin.buckets.lookup caller))) =
          none := by
        simp [current, (lastSeen_updateBucket read _).2, now]
      simp only [now, and_false, if_false, Nat.add_zero, if_true, lost]
      exact before.lose
  · simpa only [same, Ne.symm same, false_and, if_false, Nat.add_zero] using before

lemma System.Sound.step {limit : UInt32} {after : System} {action : Action}
    (sound : system.Sound limit) (stepped : step system action = some after) :
    after.Sound limit := by
  cases action with
  | tick | call ip =>
    cases stepped
    exact sound
  | update place =>
    simp only [RateLimit.step] at stepped
    split at stepped
    · cases stepped
      exact sound.update place _ _
    · cases stepped
  | count place =>
    simp only [RateLimit.step] at stepped
    split at stepped
    · cases stepped
      exact sound
    · cases stepped
  | sweep place =>
    simp only [RateLimit.step] at stepped
    split at stepped
    · next swept _ =>
        cases stepped
        refine ⟨sound.1, fun ip window => ?_⟩
        have before := sound.2 ip window
        dsimp only
        rcases lookup_sweep system.plugin.buckets swept ip with kept | ⟨gone, _⟩
        · rwa [kept]
        · rw [gone]
          exact before.lose
    · cases stepped

/-- The limit holds for a client and a window exactly when the requests are within it
anyway, or the bucket was started for the window once and the limit is below the number
at which counters stop. -/
theorem rate_limit_holds_iff (limit : UInt32) {system : System}
    (reached : Runs.Reaches step { plugin := { maxRequestsPerSecond := limit } } system)
    (clientIp : IpAddr) (window : Nat) :
    system.allowed clientIp window ≤ limit.toNat ↔
      limit.toNat = 0 ∨ system.requests clientIp window ≤ limit.toNat ∨
        system.starts clientIp window ≤ 1 ∧ limit.toNat < maxCount := by
  have sound : system.Sound limit :=
    reached.invariant ⟨rfl, fun _ _ => Tallied.initial _⟩ fun _ _ _ => System.Sound.step
  refine (sound.2 clientIp window).bounded_iff ?_
  have small := limit.toNat_lt
  unfold maxCount
  omega

def lateRequest : List Action :=
  [.call client, .call client, .tick, .call client,
    .update 0, .update 2, .update 1]

lemma lateRequest_runs :
    ∃ system, Runs.Reaches step { plugin := { maxRequestsPerSecond := 1 } } system ∧
      system.allowed client 0 = 2 := by
  obtain ⟨system, ran, two⟩ :
      ∃ system, lateRequest.foldlM step { plugin := { maxRequestsPerSecond := 1 } } = some system ∧
        system.allowed client 0 = 2 := by decide +kernel
  exact ⟨system, Runs.reaches_of_foldlM ran, two⟩

theorem late_request_allowed :
    ∃ system, Runs.Reaches step { plugin := { maxRequestsPerSecond := 1 } } system ∧
      (1 : UInt32).toNat < system.allowed client 0 := by
  rcases lateRequest_runs with ⟨system, reached, two⟩
  exact ⟨system, reached, by rw [two]; decide⟩

/-- Two requests in time are one too many; the late one finds its bucket started again. -/
theorem late_request_restarts :
    (∃ system, Runs.Reaches step { plugin := { maxRequestsPerSecond := 1 } } system ∧
      system.requests client 0 = 2 ∧
        system.allowed client 0 ≤ (1 : UInt32).toNat) ∧
    ∃ system, Runs.Reaches step { plugin := { maxRequestsPerSecond := 1 } } system ∧
      1 < system.starts client 0 := by
  constructor
  · obtain ⟨system, ran, two, once⟩ :
        ∃ system, ([.call client, .call client, .update 0, .update 1] : List Action).foldlM step
            { plugin := { maxRequestsPerSecond := 1 } } = some system ∧
          system.requests client 0 = 2 ∧ system.starts client 0 = 1 := by decide +kernel
    have reached := Runs.reaches_of_foldlM ran
    refine ⟨system, reached, two, ?_⟩
    exact (rate_limit_holds_iff 1 reached _ 0).mpr (.inr (.inr ⟨once.le, by decide⟩))
  · rcases lateRequest_runs with ⟨system, reached, two⟩
    refine ⟨system, reached, Nat.lt_of_not_le fun once => ?_⟩
    have bounded := (rate_limit_holds_iff 1 reached client 0).mpr
      (.inr (.inr ⟨once, by decide⟩))
    rw [two] at bounded
    exact absurd bounded (by decide)

end Ngxora.RateLimit
