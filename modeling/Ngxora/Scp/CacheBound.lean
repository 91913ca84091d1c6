/-
The discovery cache of an SCP profile under load.
-/

import Ngxora.Control.ScpReuse
import Ngxora.Scp.Threads

namespace Ngxora.Scp

open Runs Shared Nrf Table List Option Results Router Http
open Nrf (NrfQuery ScpError SearchResult)

variable {Selector Handle : Type}

/-- Something besides the cache refers to the group. -/
def Shared.InUse (shared : Shared Selector) (handle : Nat) : Prop :=
  (∃ thread, (thread, handle) ∈ shared.held) ∨ ∃ task ∈ shared.tasks, task.group = handle

variable {shared before after : Shared Selector} {order : Order} {key : CacheKey}
  {cache : Table CacheKey CacheEntry} {entry : CacheEntry} {place : Nat} {system : System Selector}

variable {handle : Nat}

private lemma strongCount_eq_one : shared.strongCount handle = 1 ↔ ¬ shared.InUse handle := by
  have split : shared.strongCount handle = 1 ↔
      shared.held.countP (fun reference => reference.2 = handle) = 0 ∧
        shared.tasks.countP (fun task => task.group = handle) = 0 := by
    unfold strongCount
    omega
  rw [split, countP_eq_zero, countP_eq_zero, InUse, not_or]
  simp only [decide_eq_true_eq, Prod.forall, not_exists, not_and]
  constructor
  · rintro ⟨noThread, noTask⟩
    exact ⟨fun thread mem => noThread thread handle mem rfl, noTask⟩
  · rintro ⟨noThread, noTask⟩
    exact ⟨fun thread other mem same => noThread thread (same ▸ mem), noTask⟩

private lemma idlest_eq_none (order : Order) : shared.idlest order = none ↔
    ∀ key entry, shared.cache.lookup key = some entry → shared.InUse entry.group := by
  rw [idlest, map_eq_none_iff, argmin_eq_none, filter_eq_nil_iff]
  constructor
  · intro none key entry found
    by_contra free
    exact none (key, entry) (mem_entries.mpr found) (decide_eq_true (strongCount_eq_one.mpr free))
  · rintro used ⟨key, entry⟩ mem free
    exact strongCount_eq_one.mp (of_decide_eq_true free) (used key entry (mem_entries.mp mem))

private lemma free_of_idlest (found : shared.idlest order = some key) :
    ∃ entry, shared.cache.lookup key = some entry ∧ ¬ shared.InUse entry.group := by
  obtain ⟨⟨otherKey, entry⟩, least, same⟩ := map_eq_some_iff.mp found
  cases same
  obtain ⟨mem, free⟩ := mem_filter.mp (argmin_mem least)
  exact ⟨entry, mem_entries.mp mem, strongCount_eq_one.mp (of_decide_eq_true free)⟩

/-- An entry leaves only when nothing but the cache refers to its group. -/
def KeepsUsed (before after : Shared Selector) : Prop :=
  ∀ key entry, before.cache.lookup key = some entry → before.InUse entry.group →
    ∃ kept, after.cache.lookup key = some kept ∧ kept.group = entry.group

private lemma KeepsUsed.of_cache (same : after.cache = before.cache) : KeepsUsed before after :=
  fun _ entry found _ => ⟨entry, same ▸ found, rfl⟩

private lemma lookup_makeRoom_of_used (room : shared.makeRoom order = some cache)
    (found : shared.cache.lookup key = some entry) (used : shared.InUse entry.group) :
    cache.lookup key = some entry := by
  unfold makeRoom at room
  split at room
  · obtain ⟨evicted, idlest, rfl⟩ := map_eq_some_iff.mp room
    obtain ⟨old, foundOld, free⟩ := free_of_idlest idlest
    have ne : key ≠ evicted := by
      rintro rfl
      rw [found] at foundOld
      cases foundOld
      exact free used
    rwa [AList.lookup_erase_ne ne]
  · cases room
    exact found

private lemma length_makeRoom (bound : shared.cache.entries.length ≤ maxCacheEntries)
    (room : shared.makeRoom order = some cache) : cache.entries.length < maxCacheEntries := by
  unfold makeRoom at room
  split at room
  next full =>
    obtain ⟨evicted, idlest, rfl⟩ := map_eq_some_iff.mp room
    obtain ⟨old, foundOld, _⟩ := free_of_idlest idlest
    have shorter := length_erase foundOld
    omega
  next notFull =>
    cases room
    omega

private lemma keepsUsed_use (found : before.cache.lookup key = some entry)
    (same : after.cache = (before.use key entry.group).cache) : KeepsUsed before after := by
  intro other used foundUsed _
  rw [same, use, lookup_insert_eq]
  split
  next here =>
    rw [here, found] at foundUsed
    cases foundUsed
    exact ⟨_, rfl, rfl⟩
  next => exact ⟨used, foundUsed, rfl⟩

private lemma length_use (found : shared.cache.lookup key = some entry) (handle : Nat) :
    (shared.use key handle).cache.entries.length = shared.cache.entries.length := by
  rw [use, Table.length_insert, ← Table.length_erase found]

/-- The cache stays within its bound and keeps what is used. -/
structure Keeps (before after : Shared Selector) : Prop where
  bounded : before.cache.entries.length ≤ maxCacheEntries →
    after.cache.entries.length ≤ maxCacheEntries
  used : KeepsUsed before after

private lemma Keeps.of_cache (same : after.cache = before.cache) : Keeps before after :=
  ⟨fun bound => same ▸ bound, KeepsUsed.of_cache same⟩

private lemma keeps_withGroup (tmpl : Template) (absent : shared.cache.lookup key = none)
    (room : shared.makeRoom order = some cache) :
    Keeps shared (shared.withGroup cache key tmpl) where
  bounded := by
    intro bound
    have absentStill : cache.lookup key = none := by
      cases found : cache.lookup key with
      | none => rfl
      | some entry =>
        rw [lookup_of_makeRoom room found] at absent
        cases absent
    have shorter := length_makeRoom bound room
    rw [withGroup, use, Table.length_insert, Table.erase_of_absent absentStill]
    omega
  used := by
    intro other entry found used
    have ne : other ≠ key := by
      rintro rfl
      rw [found] at absent
      cases absent
    refine ⟨entry, ?_, rfl⟩
    rw [withGroup, use, lookup_insert_eq, if_neg ne]
    exact lookup_makeRoom_of_used room found used

private lemma keeps_retainEntries (thread : Nat) (shared : Shared Selector) (order : Order) :
    Keeps shared (retainEntries thread shared order).1 where
  bounded := fun bound => le_trans (length_retain_le _ _) bound
  used := by
    intro key entry found used
    refine ⟨entry, lookup_retain_eq_some.mpr ⟨found, ?_⟩, rfl⟩
    have counted : shared.strongCount entry.group ≠ 1 := fun free => strongCount_eq_one.mp free used
    have pos : shared.strongCount entry.group > 1 := by
      unfold strongCount at counted ⊢
      omega
    simp [keeps, pos]

section Steps

variable {host : Host Selector} {profile : Control.RuntimeScp Handle} {outside : Outside}

private lemma keeps_perform {thread : Nat} {op : Op} {answer : operations.Answer op}
    (done : perform host profile thread before outside op = some (after, answer)) :
    Keeps before after := by
  cases op with
  | enter key tmpl =>
    cases entered_of_perform done with
    | hit entry found =>
      exact ⟨fun bound => (length_use found entry.group).symm ▸ bound, keepsUsed_use found rfl⟩
    | refused => exact Keeps.of_cache rfl
    | failed cache error absent room =>
      exact ⟨fun bound => le_of_lt (length_makeRoom bound room),
        fun key entry found used => ⟨entry, lookup_makeRoom_of_used room found used, rfl⟩⟩
    | built cache absent room =>
      have built := keeps_withGroup tmpl absent room
      exact ⟨built.bounded, built.used⟩
  | startRefresh handle =>
    obtain ⟨group, found, same⟩ := map_eq_some_iff.mp done
    cases same
    unfold startScpRefresh
    split <;> exact Keeps.of_cache rfl
  | touch key =>
    obtain ⟨entry, found, same⟩ := map_eq_some_iff.mp done
    cases same
    exact ⟨fun bound => (length_use found entry.group).symm ▸ bound, keepsUsed_use found rfl⟩
  | clone handle | drop handle =>
    cases done
    exact Keeps.of_cache rfl
  | retain =>
    cases retained_of_perform done
    exact keeps_retainEntries thread before outside.order
  | _ => exact Keeps.of_cache (perform_plain rfl done).cache

private lemma keeps_advanceThread {thread next : Thread}
    (advanced : advanceThread host profile place before outside thread = some (after, next)) :
    Keeps before after := by
  have program {α : Type} {running rest : Run α} {shared : Shared Selector}
      (moved : advanceProgram host profile place before outside running = some (shared, rest)) :
      Keeps before shared := by
    cases running with
    | done value => cases moved
    | call op rest =>
      obtain ⟨⟨shared, answer⟩, performed, same⟩ := map_eq_some_iff.mp moved
      cases same
      exact keeps_perform performed
  cases thread with
  | client headers request running | maintenance running =>
    obtain ⟨⟨shared, rest⟩, moved, same⟩ := map_eq_some_iff.mp advanced
    cases same
    exact program moved
  | gone => cases advanced

lemma keeps_step {before after : System Selector} {action : Action}
    (stepped : step host profile before action = some after) :
    Keeps before.shared after.shared := by
  cases moved_of_step stepped with
  | accepted | maintained | aborted => exact Keeps.of_cache rfl
  | performed place outside thread next shared running advanced => exact keeps_advanceThread advanced
  | changed shared quiet => exact Keeps.of_cache quiet.cache

private lemma bounded_of_reaches {start : Nat}
    (reached : Reaches (step host profile) (System.initial start) system) :
    system.shared.cache.entries.length ≤ maxCacheEntries :=
  reached.invariant (Nat.zero_le _) fun _ _ _ bound stepped => (keeps_step stepped).bounded bound

def System.Enters (system : System Selector) (place : Nat) (key : CacheKey) (template : Template) :
    Prop :=
  ∃ headers request next, system.threads[place]? =
    some (.client headers request (.call (Op.enter key template) next))

def System.UsedByOtherClient (system : System Selector) (place handle : Nat) : Prop :=
  ∃ (other : Nat) (thread : Thread), other ≠ place ∧ system.threads[other]? = some thread ∧
    thread.isClient = true ∧ (other, handle) ∈ system.shared.held

/-- Maintenance or a refresh refers to the group. -/
def System.UsedInBackground (system : System Selector) (handle : Nat) : Prop :=
  (∃ (place : Nat) (thread : Thread), system.threads[place]? = some thread ∧
    thread.isClient = false ∧ (place, handle) ∈ system.shared.held) ∨
    ∃ task ∈ system.shared.tasks, task.group = handle

private lemma notHeld_of_enters (ok : system.Sound host profile) {tmpl : Template}
    (enters : system.Enters place key tmpl) (handle : Nat) :
    (place, handle) ∉ system.shared.held := by
  obtain ⟨headers, request, next, running⟩ := enters
  have none : system.shared.heldBy place = [] := (ok.owns place _ running).1.1
  rw [← mem_heldBy, none]
  exact not_mem_nil

private lemma used_cases (ok : system.Sound host profile) {tmpl : Template}
    (enters : system.Enters place key tmpl) (used : system.shared.InUse handle) :
    system.UsedByOtherClient place handle ∨ system.UsedInBackground handle := by
  rcases used with ⟨other, held⟩ | task
  · have ne : other ≠ place := by
      rintro rfl
      exact notHeld_of_enters ok enters handle held
    cases running : system.threads[other]? with
    | none =>
      have nothing := ok.beyond other (getElem?_eq_none_iff.mp running)
      rw [← mem_heldBy, nothing] at held
      exact absurd held not_mem_nil
    | some thread =>
      cases client : thread.isClient with
      | true => exact .inl ⟨other, thread, ne, running, client, held⟩
      | false => exact .inr (.inl ⟨other, thread, running, client, held⟩)
  · exact .inr (.inr task)

private lemma refused_iff {tmpl : Template} (free : shared.locked = none)
    (new : shared.cache.lookup key = none) :
    (∃ after, perform host profile place shared outside (.enter key tmpl) =
        some (after, .error busy)) ↔ shared.cache.entries.length = maxCacheEntries ∧
        ∀ other entry, shared.cache.lookup other = some entry → shared.InUse entry.group := by
  have performs : perform host profile place shared outside (.enter key tmpl) =
      some (enterCache profile place shared outside key tmpl) := by
    simp only [perform, free]
    rfl
  have noRoom : shared.makeRoom outside.order = none ↔
      shared.cache.entries.length = maxCacheEntries ∧
        ∀ other entry, shared.cache.lookup other = some entry → shared.InUse entry.group := by
    rw [← idlest_eq_none outside.order, makeRoom]
    split
    next full => simp [full]
    next notFull => simp [notFull]
  rw [← noRoom]
  constructor
  · rintro ⟨after, refused⟩
    have entered := entered_of_perform refused
    cases entered with
    | refused absent full => exact full
    | failed cache _ _ _ other => exact absurd rfl other
  · intro full
    refine ⟨shared, ?_⟩
    rw [performs]
    simp only [enterCache, new, full]
    rfl

/-- There is room, or some group is not in use, or background work uses no group that
other clients do not use too. -/
def System.BackgroundHarmless (system : System Selector) (place : Nat) : Prop :=
  system.shared.cache.entries.length < maxCacheEntries ∨
    (∃ key entry, system.shared.cache.lookup key = some entry ∧ ¬ system.shared.InUse entry.group) ∨
    ∀ key entry, system.shared.cache.lookup key = some entry →
      system.UsedInBackground entry.group → system.UsedByOtherClient place entry.group

/-- A request that waits for the first refresh of its group. -/
structure Waits (program : Run Outcome) (key : CacheKey) (template : Template) where
  entered : Except ScpError Nat → Run Outcome
  checked : Nat → Except ScpError Unit → Run Outcome
  started : Nat → Unit → Run Outcome
  awaited : Nat → Bool → Run Outcome
  enters : program = .call (Op.enter key template) entered
  checks : ∀ handle, entered (.ok handle) = .call (Op.status handle) (checked handle)
  starts : ∀ handle error, checked handle (.error error) =
    .call (Op.startRefresh handle) (started handle)
  awaits : ∀ handle, started handle () = .call (Op.awaitRefresh handle) (awaited handle)

private lemma exists_waits (platform : Platform) {request : ScpRequest} {selected : Template}
    (noTarget : request.target = none) (chosen : template profile request = .ok selected)
    (headers : HeaderMap) (clientIp : List UInt8) (count : Nat) :
    Nonempty (Waits (serve platform profile request headers clientIp count)
      { upstream := selected.group.name, query := request.query } selected) := by
  unfold serve route discovered
  simp only [noTarget, chosen, filter_none]
  exact ⟨⟨_, _, _, _, rfl, fun _ => rfl, fun _ _ => rfl, fun _ => rfl⟩⟩

variable {threads : List Thread}

private lemma reaches_advanced {thread next : Thread} (outside : Outside)
    (moved : advanceThread host profile threads.length before outside thread =
      some (after, next)) : Reaches (step host profile)
      { shared := before, threads := threads ++ [thread] }
      { shared := after, threads := threads ++ [next] } :=
  Relation.ReflTransGen.single ⟨.perform threads.length outside, by simp [step, moved]⟩

private lemma reaches_operation {headers : HeaderMap} {request : ScpRequest} {op : Op}
    {next : operations.Answer op → Run Outcome} {answer : operations.Answer op}
    (done : perform host profile threads.length before outside op = some (after, answer)) :
    Reaches (step host profile)
      { shared := before, threads := threads ++ [.client headers request (.call op next)] }
      { shared := after, threads := threads ++ [.client headers request (next answer)] } :=
  reaches_advanced outside (by simp [advanceThread, advanceProgram, done])

/-- Nothing is held and no refresh runs. -/
def resting (clock : Nat) (groups : List (Group Selector)) (cache : Table CacheKey CacheEntry)
    (threads : List Thread) : System Selector where
  shared := { clock, groups, cache }
  threads

def Thread.Ended : Thread → Prop
  | .client _ _ (.done _) | .maintenance (.done _) | .gone => True
  | _ => False

end Steps

namespace Example

def path : String := "/nsmf-pdusession/v1/sessions"

def headersFor (id : String) : HeaderMap where
  entries := [("3gpp-sbi-discovery-target-nf-instance-id", HeaderValue.ofText id)]

def requestFor (id : String) : ScpRequest where
  target := none
  targetType := none
  requesterType := none
  query := { nfInstanceId := some id, apiVersion := "v1", serviceNames := ["nsmf-pdusession"] }
  discovery := true
  bound := false
  pathQuery := path
  hops := 0

structure PlainId (id : String) : Prop where
  readable : (HeaderValue.ofText id).toStr = some id
  trimmed : Text.trim id = id
  isToken : token id = true

variable {id : String} {cache : Table CacheKey CacheEntry}

private lemma single_self (plain : PlainId id) :
    single (headersFor id) "3gpp-sbi-discovery-target-nf-instance-id" = .ok (some id) := by
  have checked := plain.isToken
  simp only [token, Bool.and_eq_true, Bool.not_eq_true', decide_eq_true_eq] at checked
  have short : ¬ Text.byteLength id > 2048 := by omega
  simp [single, HeaderMap.getAll, headersFor, plain.readable, plain.trimmed, checked.1.1, short]

private lemma single_other (id name : String)
    (ne : "3gpp-sbi-discovery-target-nf-instance-id" ≠ name) :
    single (headersFor id) name = .ok none := by
  simp [single, HeaderMap.getAll, headersFor, ne]

private lemma parse_for (plain : PlainId id) :
    ScpRequest.parse uriPlatform (headersFor id) "GET" path none profile.root =
      .ok (requestFor id) := by
  have names : ((headersFor id).entries.forM fun entry => checkHeaderName entry.1) = .ok () := by
    have known : checkHeaderName "3gpp-sbi-discovery-target-nf-instance-id" = .ok () := by
      decide +kernel
    simp [headersFor, known]
  have target : parseTarget uriPlatform (headersFor id) profile.root = .ok none := by
    rw [parseTarget, single_other id _ (by decide)]
    rfl
  have hops : parseHops (headersFor id) = .ok 1 := by
    rw [parseHops, single_other id _ (by decide)]
    rfl
  have belowRoot : servicePath profile.root path = .ok path := by decide +kernel
  have selected : selector (headersFor id) "target-nf-instance-id" = .ok (some id) := by
    have same : discoveryHeader ++ "target-nf-instance-id" =
        "3gpp-sbi-discovery-target-nf-instance-id" := by decide +kernel
    simp [selector, same, single_self plain, plain.isToken]
  have absent (name : String) (other : "3gpp-sbi-discovery-target-nf-instance-id" ≠
      discoveryHeader ++ name) : selector (headersFor id) name = .ok none := by
    rw [selector, single_other id _ other]
    rfl
  have targetType := absent "target-nf-type" (by decide)
  have requesterType := absent "requester-nf-type" (by decide)
  have requester := absent "requester-nf-instance-id" (by decide)
  have api : discoveredApi true path [] = .ok ("v1", ["nsmf-pdusession"]) := by decide +kernel
  have binding := single_other id "3gpp-sbi-routing-binding" (by decide)
  have services := single_other id "3gpp-sbi-discovery-service-names" (by decide)
  simp [ScpRequest.parse, names, target, hops, belowRoot, selected, targetType, requesterType,
    requester, binding, services, serviceNames, api, boundInstances, requestFor, forwardedQuery]

def smf : Template where
  group
  nrf

def keyFor (id : String) : CacheKey where
  upstream := "smf"
  query := (requestFor id).query

private lemma template_for (id : String) : template profile (requestFor id) = .ok smf := by
  simp [template, templatesOf, profile, group, nrf, requestFor, smf]

def incomingFor (id : String) : Incoming where
  headers := headersFor id
  method := "GET"
  path
  query := none
  clientIp := []
  retries := 0

private lemma reaches_request {system : System (List Representative)} (plain : PlainId id) :
    Reaches (step host profile) system (system.spawn (.client (headersFor id) (requestFor id)
        (serve uriPlatform profile (requestFor id) (headersFor id) [] 0))) :=
  Relation.ReflTransGen.single ⟨.request (incomingFor id), by
    have parsed := parse_for plain
    simp only [step, incomingFor, host, parsed]⟩

private lemma reaches_cached (clock : Nat) (groups : List (Group (List Representative)))
    (threads : List Thread) (plain : PlainId id) (new : cache.lookup (keyFor id) = none)
    (room : cache.entries.length ≠ maxCacheEntries) :
    ∃ later, Reaches (step host profile) (resting clock groups cache threads)
      (resting clock later (cache.insert (keyFor id) ⟨groups.length, clock⟩)
        (threads ++ [.gone])) := by
  obtain ⟨shape⟩ := exists_waits uriPlatform rfl (template_for id) (headersFor id) [] 0
  let built : Group (List Representative) :=
    { template := smf
      query := (requestFor id).query
      task := { group := { schedule := { nextRunAt := clock } } } }
  let entered : Shared (List Representative) :=
    { clock
      groups := groups ++ [built]
      cache := cache.insert (keyFor id) ⟨groups.length, clock⟩
      held := [(threads.length, groups.length)] }
  have enters : perform host profile threads.length (resting clock groups cache threads).shared
      (outside false) (.enter (keyFor id) smf) = some (entered, .ok groups.length) := by
    have made : fromCompiledQuery profile smf (.ok ()) = .ok () := rfl
    simp [perform, enterCache, resting, new, makeRoom, room, made, outside]
    rfl
  have checks : perform host profile threads.length entered (outside false)
      (.status groups.length) = some (entered, .error .nrfUnreachable) := by
    simp [perform, entered, built, scpStatus]
  let spawned : Shared (List Representative) :=
    { entered with
      groups := groups ++ [{ built with refreshing := true }]
      tasks := [{ group := groups.length, stage := .spawned }] }
  have starts : perform host profile threads.length entered (outside false)
      (.startRefresh groups.length) = some (spawned, ()) := by
    simp [perform, entered, built, spawned, startScpRefresh, setGroup]
    rfl
  -- the client has gone and no permit is free, so the refresh ends without a request
  have ends (client : Thread) (waits : client.waits = true) : Reaches (step host profile)
      { shared := spawned, threads := threads ++ [client] }
      (resting clock (groups ++ [built]) entered.cache (threads ++ [.gone])) := by
    have run : ([.abort threads.length, .refresh 0 (.begin clock), .refresh 0 (.permit false),
        .settle 0, .finish 0] : List Action).foldlM (step host profile)
          { shared := spawned, threads := threads ++ [client] } =
        some (resting clock (groups ++ [built]) entered.cache (threads ++ [.gone])) := by
      simp [step, waits, release, runTask, settleTask, finishTask, refreshGroup, refreshStep,
        isAnswer, isBegin, Stage.allows, System.withShared, setGroup, setStage, Task.at, isExpired,
        resting, spawned, entered, built]
    exact reaches_of_foldlM run
  have arrived : Reaches (step host profile) (resting clock groups cache threads) _ :=
    reaches_request plain
  rw [shape.enters] at arrived
  have first := arrived.trans (reaches_operation enters)
  rw [shape.checks] at first
  have second := first.trans (reaches_operation checks)
  rw [shape.starts] at second
  have third := second.trans (reaches_operation starts)
  rw [shape.awaits] at third
  exact ⟨_, third.trans (ends _ rfl)⟩

private lemma keyFor_injective : Function.Injective keyFor := by
  intro left right same
  have ids := congrArg (fun key => key.query.nfInstanceId) same
  exact Option.some.inj ids

/-- The cache holds an entry for each of the ids. -/
structure Filled (cache : Table CacheKey CacheEntry) (ids : List String) : Prop where
  size : cache.entries.length = ids.length
  keys : ∀ key entry, cache.lookup key = some entry → ∃ id ∈ ids, key = keyFor id
  recent : ∀ key entry, cache.lookup key = some entry → entry.lastUsed = 0

lemma Filled.new {ids : List String} (filled : Filled cache ids) (absent : id ∉ ids) :
    cache.lookup (keyFor id) = none := by
  cases found : cache.lookup (keyFor id) with
  | none => rfl
  | some entry =>
    obtain ⟨other, here, same⟩ := filled.keys _ entry found
    exact absurd (keyFor_injective same ▸ here) absent

lemma Filled.insert {ids : List String} (filled : Filled cache ids) (absent : id ∉ ids)
    (handle : Nat) : Filled (cache.insert (keyFor id) ⟨handle, 0⟩) (id :: ids) where
  size := by
    rw [Table.length_insert, Table.erase_of_absent (filled.new absent), filled.size, length_cons]
  keys := by
    intro key entry found
    rw [lookup_insert_eq] at found
    split at found
    next same => exact ⟨id, mem_cons_self, same⟩
    next =>
      obtain ⟨other, here, same⟩ := filled.keys key entry found
      exact ⟨other, mem_cons_of_mem _ here, same⟩
  recent := by
    intro key entry found
    rw [lookup_insert_eq] at found
    split at found
    · cases found
      rfl
    · exact filled.recent key entry found

private lemma reaches_filled {ids : List String} (plain : ∀ id ∈ ids, PlainId id)
    (nodup : ids.Nodup)
    (few : ids.length ≤ maxCacheEntries) : ∃ groups cache, Filled cache ids ∧
      Reaches (step host profile) (System.initial 0)
        (resting 0 groups cache (replicate ids.length .gone)) := by
  induction ids with
  | nil =>
    refine ⟨[], ∅, ⟨rfl, ?_, ?_⟩, Relation.ReflTransGen.refl⟩
    · exact fun _ _ bad => nomatch bad
    · exact fun _ _ bad => nomatch bad
  | cons id rest ih =>
    obtain ⟨absent, nodup⟩ := nodup_cons.mp nodup
    rw [length_cons] at few
    obtain ⟨groups, cache, filled, reached⟩ :=
      ih (fun other mem => plain other (mem_cons_of_mem _ mem)) nodup (by omega)
    have room : cache.entries.length ≠ maxCacheEntries := by
      rw [filled.size]
      omega
    obtain ⟨later, cached⟩ := reaches_cached 0 groups (replicate rest.length .gone)
      (plain id mem_cons_self) (filled.new absent) room
    refine ⟨later, _, filled.insert absent groups.length, ?_⟩
    rw [length_cons, replicate_succ']
    exact reached.trans cached

def ids : List String := (List.range 256).map toString

private lemma plain_ids : ∀ id ∈ ids, PlainId id := by
  have checked : ∀ id ∈ ids, (HeaderValue.ofText id).toStr = some id ∧ Text.trim id = id ∧
      token id = true := by
    decide +kernel
  intro id mem
  obtain ⟨readable, trimmed, isToken⟩ := checked id mem
  exact ⟨readable, trimmed, isToken⟩

private lemma ids_nodup : ids.Nodup := by
  refine List.Nodup.map ?_ nodup_range
  intro left right same
  have digits : Nat.toDigits 10 left = Nat.toDigits 10 right := by
    simpa [ToString.toString, Nat.repr] using congrArg String.toList same
  have value (number : Nat) : Digits.valueOf 10 (Nat.toDigits 10 number) = number :=
    Digits.valueOf_toDigits (by decide) (by decide) number
  rw [← value left, digits, value right]

private lemma ids_length : ids.length = maxCacheEntries := by
  rw [ids, length_map, length_range, maxCacheEntries]

private lemma b_notMem_ids : "b" ∉ ids := by decide +kernel

private lemma plain_b : PlainId "b" := by constructor <;> decide +kernel

private lemma new_profile :
    Control.RuntimeScp.new uriPlatform builders config upstreams = .ok profile := by
  rw [Control.RuntimeScp.new_eq_ok]
  refine ⟨?_, ?_, ?_, ?_, rfl, rfl⟩
  · decide +kernel
  · decide +kernel
  · exact .cons rfl .nil
  · exact .nil

private lemma reaches_maintained {groups : List (Group (List Representative))}
    {threads : List Thread}
    (recent : ∀ key entry, cache.lookup key = some entry → entry.lastUsed = 0) :
    let handles := cache.values.map CacheEntry.group
    Reaches (step host profile) (resting 0 groups cache threads)
      { shared := (resting 0 groups cache threads).shared.acquire threads.length handles
        threads := threads ++ [.maintenance (startRefreshes handles)] } := by
  intro handles
  let shared := (resting 0 groups cache threads).shared
  have spawned : Reaches (step host profile) (resting 0 groups cache threads)
      ((resting 0 groups cache threads).spawn (.maintenance maintain)) :=
    Relation.ReflTransGen.single ⟨.maintain, rfl⟩
  have kept : cache.retain (fun _ entry => shared.keeps entry) = cache := by
    apply AList.ext
    refine filter_eq_self.mpr fun entry mem => ?_
    have unused := recent entry.1 entry.2 (mem_entries_iff.mp mem)
    simp [keeps, unused, shared, resting, idleTtl, Duration.fromSecs]
  have listed : (shared.entries (outside false).order).map (fun entry => entry.2.group) =
      handles := by
    simp [entries, outside, shared, resting, handles, Table.values]
  have retained : retainEntries threads.length shared (outside false).order =
      (shared.acquire threads.length handles, handles) := by
    unfold retainEntries
    rw [← listed]
    simp only [shared, resting] at kept ⊢
    simp only [kept]
  have done : perform host profile threads.length shared (outside false) .retain =
      some (shared.acquire threads.length handles, handles) :=
    congrArg some retained
  have moved : advanceThread host profile threads.length shared (outside false)
      (.maintenance (.call Op.retain startRefreshes)) =
        some (shared.acquire threads.length handles, .maintenance (startRefreshes handles)) := by
    simp only [advanceThread, advanceProgram, done]
    rfl
  exact spawned.trans (reaches_advanced (outside false) moved)

end Example

/-- In every reachable state the cache is within its bound, a step keeps the entries of
groups in use, and a request with a new key is refused under client load only exactly
when background work does no harm. -/
theorem discovery_cache_under_load {host : Host Selector} {profile : Control.RuntimeScp Handle}
    {start : Nat} {system : System Selector}
    (reached : Reaches (step host profile) (System.initial start) system) :
    system.shared.cache.entries.length ≤ 256 ∧
      (∀ action after, step host profile system action = some after →
        KeepsUsed system.shared after.shared) ∧
      ∀ place key template outside, system.Enters place key template →
        system.shared.locked = none → system.shared.cache.lookup key = none →
          (((∃ after, perform host profile place system.shared outside (.enter key template) =
                some (after, .error busy)) → system.shared.cache.entries.length = 256 ∧
                ∀ other entry, system.shared.cache.lookup other = some entry →
                  system.UsedByOtherClient place entry.group) ↔
            system.BackgroundHarmless place) := by
  have ok := sound_of_reaches reached
  have bounded := bounded_of_reaches reached
  refine ⟨bounded, fun action after stepped => (keeps_step stepped).used, ?_⟩
  intro place key template outside enters free new
  rw [refused_iff free new]
  constructor
  · intro onlyClients
    by_cases room : system.shared.cache.entries.length < maxCacheEntries
    · exact Or.inl room
    · by_cases allUsed : ∀ other entry, system.shared.cache.lookup other = some entry →
          system.shared.InUse entry.group
      · have clients := onlyClients ⟨le_antisymm bounded (not_lt.mp room), allUsed⟩
        exact Or.inr (Or.inr fun other entry found _ => clients.2 other entry found)
      · push Not at allUsed
        exact Or.inr (Or.inl allUsed)
  · rintro harmless ⟨full, allUsed⟩
    refine ⟨full, fun other entry found => ?_⟩
    rcases harmless with room | ⟨freeKey, freeEntry, foundFree, unused⟩ | shared
    · omega
    · exact absurd (allUsed freeKey freeEntry foundFree) unused
    · rcases used_cases ok enters (allUsed other entry found) with client | background
      · exact client
      · exact shared other entry found background

open Example in
/-- The 256 clients that filled the cache have ended, so an entry is evicted. -/
theorem full_cache_admits_request :
    ∃ (system : System (List Representative)) (place : Nat),
      Reaches (step host profile) (System.initial 0) system ∧
        system.shared.cache.entries.length = 256 ∧ system.Enters place (keyFor "b") smf ∧
        ¬ ∃ after, perform host profile place system.shared (outside true)
          (.enter (keyFor "b") smf) = some (after, .error busy) := by
  obtain ⟨groups, cache, filled, reached⟩ := reaches_filled plain_ids ids_nodup ids_length.le
  generalize replicate ids.length Thread.gone = threads at reached
  have asked := reached.trans (reaches_request plain_b)
  obtain ⟨shape⟩ := exists_waits uriPlatform rfl (template_for "b") (headersFor "b") [] 0
  rw [shape.enters] at asked
  have full : cache.entries.length = 256 := filled.size.trans ids_length
  have enters : ((resting 0 groups cache threads).spawn (.client (headersFor "b") (requestFor "b")
      (.call (Op.enter (keyFor "b") smf) shape.entered))).Enters threads.length (keyFor "b") smf :=
    ⟨_, _, _, getElem?_concat_length⟩
  refine ⟨_, threads.length, asked, full, enters, fun refused => ?_⟩
  obtain ⟨⟨key, entry⟩, mem⟩ := exists_mem_of_length_pos (full ▸ (by decide : 0 < 256))
  have found := mem_entries_iff.mp mem
  have unused : ¬ (resting 0 groups cache threads).shared.InUse entry.group := by
    rintro (⟨_, bad⟩ | ⟨_, bad, _⟩)
    · cases bad
    · cases bad
  have underLoad := (discovery_cache_under_load asked).2.2 threads.length (keyFor "b") smf
    (outside true) enters rfl (filled.new b_notMem_ids)
  obtain ⟨_, used⟩ := underLoad.mpr (Or.inr (Or.inl ⟨key, entry, found, unused⟩)) refused
  obtain ⟨_, _, _, _, _, held⟩ := used key entry found
  cases held

open Example in
/-- All clients have gone; a pass of maintenance holds the 256 groups, and a request
with a new key is refused. -/
theorem maintenance_refuses_new_keys :
    Control.RuntimeScp.new uriPlatform builders config upstreams = .ok profile ∧
      ∃ (system : System (List Representative)) (place : Nat) (key : CacheKey)
        (template : Template),
        Reaches (step host profile) (System.initial 0) system ∧
          system.Enters place key template ∧ system.shared.cache.lookup key = none ∧
          system.shared.cache.entries.length = 256 ∧
          (∀ outside, ∃ after, perform host profile place system.shared outside
            (.enter key template) = some (after, .error busy)) ∧
          ∀ other entry, system.shared.cache.lookup other = some entry →
            ¬ system.UsedByOtherClient place entry.group := by
  refine ⟨new_profile, ?_⟩
  obtain ⟨groups, cache, filled, reached⟩ := reaches_filled plain_ids ids_nodup ids_length.le
  generalize replicate ids.length Thread.gone = threads at reached
  let maintenance := Thread.maintenance (startRefreshes (cache.values.map CacheEntry.group))
  have asked := (reached.trans (reaches_maintained filled.recent)).trans (reaches_request plain_b)
  obtain ⟨shape⟩ := exists_waits uriPlatform rfl (template_for "b") (headersFor "b") [] 0
  rw [shape.enters] at asked
  have new : cache.lookup (keyFor "b") = none := filled.new b_notMem_ids
  refine ⟨_, (threads ++ [maintenance]).length, keyFor "b", smf, asked,
    ⟨_, _, _, getElem?_concat_length⟩, new, filled.size.trans ids_length, ?_, ?_⟩
  · intro outside
    refine (refused_iff rfl new).mpr ⟨filled.size.trans ids_length, fun other entry found => ?_⟩
    refine Or.inl ⟨threads.length, mem_acquire.mpr (Or.inl ⟨rfl, ?_⟩)⟩
    exact mem_map.mpr ⟨entry, mem_values_iff.mpr ⟨other, found⟩, rfl⟩
  · rintro other entry found ⟨place, thread, _, running, client, held⟩
    obtain ⟨here, _⟩ | impossible := mem_acquire.mp held
    rotate_left
    · cases impossible
    have background : (threads ++ [maintenance] ++ _)[place]? = some thread := running
    rw [here, append_assoc, getElem?_append_right le_rfl, Nat.sub_self] at background
    cases background
    cases client

/-- What has ended has left no reference behind: once nothing runs, a new key is admitted. -/
theorem ended_threads_pin_nothing {host : Host Selector} {profile : Control.RuntimeScp Handle}
    {start : Nat} {system : System Selector}
    (reached : Reaches (step host profile) (System.initial start) system)
    (ended : ∀ thread ∈ system.threads, thread.Ended) :
    system.shared.held = [] ∧ (system.shared.tasks = [] → system.shared.locked = none →
      ∀ place key template outside, system.shared.cache.lookup key = none →
        ¬ ∃ after, perform host profile place system.shared outside (.enter key template) =
          some (after, .error busy)) := by
  have ok := sound_of_reaches reached
  have nothing : ∀ place, system.shared.heldBy place = [] := by
    intro place
    cases found : system.threads[place]? with
    | none => exact ok.beyond place (List.getElem?_eq_none_iff.mp found)
    | some thread =>
      have owns := ok.owns place thread found
      have atEnd := ended thread (mem_of_getElem? found)
      cases thread with
      | gone => exact owns
      | client _ _ program | maintenance program =>
        cases program with
        | done _ => exact owns
        | call _ _ => exact atEnd.elim
  have held : system.shared.held = [] := by
    refine eq_nil_iff_forall_not_mem.mpr fun reference mem => ?_
    have here : reference.2 ∈ system.shared.heldBy reference.1 := mem_heldBy.mpr mem
    rw [nothing] at here
    cases here
  refine ⟨held, fun idle free place key template outside new refused => ?_⟩
  -- a full cache would have an entry in use
  obtain ⟨full, used⟩ := (refused_iff free new).mp refused
  obtain ⟨⟨other, entry⟩, mem⟩ := exists_mem_of_length_pos (full ▸ (by decide : 0 < maxCacheEntries))
  rcases used other entry (Table.mem_entries_iff.mp mem) with ⟨_, inHeld⟩ | ⟨_, inTasks, _⟩
  · rw [held] at inHeld
    cases inHeld
  · rw [idle] at inTasks
    cases inTasks

open Example in
/-- 256 clients have filled the cache and ended. -/
theorem ended_clients_admit_request :
    ∃ system : System (List Representative),
      Reaches (step host profile) (System.initial 0) system ∧ system.threads.length = 256 ∧
        system.shared.cache.entries.length = 256 ∧
        ¬ ∃ after, perform host profile 256 system.shared (outside true)
          (.enter (keyFor "b") smf) = some (after, .error busy) := by
  obtain ⟨groups, cache, filled, reached⟩ := reaches_filled plain_ids ids_nodup ids_length.le
  generalize gone : replicate ids.length Thread.gone = threads at reached
  obtain ⟨count, ended⟩ := eq_replicate_iff.mp gone.symm
  replace ended : ∀ thread ∈ threads, thread.Ended := fun thread mem => by
    rw [ended thread mem]
    trivial
  exact ⟨_, reached, count.trans ids_length, filled.size.trans ids_length,
    (ended_threads_pin_nothing reached ended).2 rfl rfl 256 _ _ _ (filled.new b_notMem_ids)⟩

end Ngxora.Scp
