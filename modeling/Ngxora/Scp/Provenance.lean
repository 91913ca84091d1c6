/-
Where the endpoints of an SCP profile come from.
-/

import Ngxora.Scp.System

namespace Ngxora.Scp

open Control Program Program.Follows List Option Results Router Http
open Nrf (NrfQuery ScpError SearchResult)

variable {Selector Handle : Type}

/-- The NRF answered the query of the group with the endpoint. -/
def Group.Discovered (host : Host Selector) (group : Group Selector)
    (server : CompiledUpstreamServer) : Prop :=
  ∃ answer ∈ group.answers,
    server ∈ (Nrf.extractQueryEndpoints (group.search host) answer.nfInstances).1

structure Group.Sound (host : Host Selector) (profile : RuntimeScp Handle)
    (group : Group Selector) : Prop where
  template : group.template ∈ templatesOf profile
  endpoints : group.task.Good (group.Discovered host)

/-- A group keeps its template and query. -/
structure Group.Continues (before after : Group Selector) : Prop where
  template : after.template = before.template
  query : after.query = before.query
  answers : before.answers ⊆ after.answers

def Group.Serves (group : Group Selector) (key : CacheKey) : Prop :=
  group.template.group.name = key.upstream ∧ group.query = key.query

lemma Group.Continues.refl (group : Group Selector) : group.Continues group :=
  ⟨rfl, rfl, List.Subset.refl _⟩

lemma Group.Continues.trans {first second third : Group Selector}
    (before : first.Continues second) (after : second.Continues third) : first.Continues third :=
  ⟨after.template.trans before.template, after.query.trans before.query,
    List.Subset.trans before.answers after.answers⟩

variable {key : CacheKey} {host : Host Selector} {before after shared : Shared Selector}
  {handle thread place : Nat} {group next : Group Selector} {profile : RuntimeScp Handle}
  {order : Order} {outside : Outside} {op : Op} {answer : operations.Answer op}

lemma Group.Continues.serves {before after : Group Selector} (cont : before.Continues after)
    (serves : before.Serves key) : after.Serves key := by
  rwa [Group.Serves, cont.template, cont.query]

lemma Group.Continues.discovered {before after : Group Selector} {server : CompiledUpstreamServer}
    (cont : before.Continues after) (discovered : before.Discovered host server) :
    after.Discovered host server := by
  obtain ⟨answer, received, extracted⟩ := discovered
  have sameSearch : after.search host = before.search host := by
    rw [Group.search, Group.search, cont.template, cont.query]
  exact ⟨answer, cont.answers received, sameSearch ▸ extracted⟩

/-- Groups have what the NRF answered, and entries the group of their key. -/
structure Shared.Valid (host : Host Selector) (profile : RuntimeScp Handle)
    (shared : Shared Selector) : Prop where
  groups : ∀ (handle : Nat) (group : Group Selector), shared.groups[handle]? = some group →
    group.Sound host profile
  cached : ∀ key entry, shared.cache.lookup key = some entry →
    ∃ group, shared.groups[entry.group]? = some group ∧ group.Serves key

/-- Every group stays and continues. -/
def Grows (before after : Shared Selector) : Prop :=
  ∀ (handle : Nat) (group : Group Selector), before.groups[handle]? = some group →
    ∃ later, after.groups[handle]? = some later ∧ group.Continues later

lemma Grows.of_eq (same : after.groups = before.groups) : Grows before after :=
  fun _ group found => ⟨group, same ▸ found, Group.Continues.refl group⟩

lemma Grows.refl (shared : Shared Selector) : Grows shared shared := Grows.of_eq rfl

lemma Grows.trans {first second third : Shared Selector} (before : Grows first second)
    (after : Grows second third) : Grows first third := by
  intro handle group found
  obtain ⟨middle, foundMiddle, continuesMiddle⟩ := before handle group found
  obtain ⟨last, foundLast, continuesLast⟩ := after handle middle foundMiddle
  exact ⟨last, foundLast, continuesMiddle.trans continuesLast⟩

lemma getElem?_setGroup {other : Nat} {found : Group Selector}
    (here : shared.groups[handle]? = some group)
    (foundAt : (shared.setGroup handle next).groups[other]? = some found) :
    (other = handle ∧ found = next) ∨ shared.groups[other]? = some found := by
  have bound : handle < shared.groups.length := (List.getElem?_eq_some_iff.mp here).1
  by_cases same : handle = other
  · subst same
    rw [Shared.setGroup, getElem?_set_self bound] at foundAt
    cases foundAt
    exact .inl ⟨rfl, rfl⟩
  · rw [Shared.setGroup, getElem?_set_ne same] at foundAt
    exact .inr foundAt

lemma grows_setGroup (here : shared.groups[handle]? = some group)
    (cont : group.Continues next) : Grows shared (shared.setGroup handle next) := by
  intro other found foundAt
  have bound : handle < shared.groups.length := (List.getElem?_eq_some_iff.mp here).1
  by_cases same : handle = other
  · subst same
    rw [here] at foundAt
    cases foundAt
    exact ⟨next, getElem?_set_self bound, cont⟩
  · exact ⟨found, (getElem?_set_ne same).trans foundAt, Group.Continues.refl found⟩

lemma Shared.Valid.of_grows (ok : before.Valid host profile) (growth : Grows before after)
    (groups : ∀ (handle : Nat) (group : Group Selector), after.groups[handle]? = some group →
      group.Sound host profile) (cached : ∀ key entry, after.cache.lookup key = some entry →
      ∃ old, before.cache.lookup key = some old ∧ entry.group = old.group) :
    after.Valid host profile where
  groups
  cached := by
    intro key entry found
    obtain ⟨old, foundOld, sameGroup⟩ := cached key entry found
    obtain ⟨group, foundGroup, serves⟩ := ok.cached key old foundOld
    obtain ⟨later, foundLater, cont⟩ := growth _ group foundGroup
    exact ⟨later, sameGroup ▸ foundLater, cont.serves serves⟩

lemma Shared.Valid.of_same (ok : before.Valid host profile) (groups : after.groups = before.groups)
    (cache : after.cache = before.cache) : after.Valid host profile :=
  ok.of_grows (Grows.of_eq groups) (fun handle group found => ok.groups handle group (groups ▸ found))
    fun _ entry found => ⟨entry, cache ▸ found, rfl⟩

lemma Shared.Valid.setGroup (ok : shared.Valid host profile)
    (here : shared.groups[handle]? = some group) (cont : group.Continues next)
    (sound : next.Sound host profile) : (shared.setGroup handle next).Valid host profile := by
  apply ok.of_grows (grows_setGroup here cont)
  · intro other found foundAt
    rcases getElem?_setGroup here foundAt with ⟨_, rfl⟩ | old
    · exact sound
    · exact ok.groups other found old
  · exact fun _ entry found => ⟨entry, found, rfl⟩

lemma Shared.Valid.use (ok : shared.Valid host profile) (here : shared.groups[handle]? = some group)
    (serves : group.Serves key) : (shared.use key handle).Valid host profile where
  groups := ok.groups
  cached := by
    intro other entry found
    rw [Shared.use, Table.lookup_insert_eq] at found
    split at found
    next same =>
      cases found
      exact ⟨group, here, same ▸ serves⟩
    next => exact ok.cached other entry found

variable {entry : CacheEntry} {cache : Table CacheKey CacheEntry} {event : Nrf.Event}

lemma mem_entries : (key, entry) ∈ shared.entries order ↔ shared.cache.lookup key = some entry := by
  rw [Shared.entries, (order.perm _).mem_iff, ← Table.mem_entries_iff, List.mem_map]
  constructor
  · rintro ⟨⟨otherKey, otherEntry⟩, mem, same⟩
    cases same
    exact mem
  · exact fun mem => ⟨⟨key, entry⟩, mem, rfl⟩

def Shared.withGroup (shared : Shared Selector) (cache : Table CacheKey CacheEntry)
    (key : CacheKey) (template : Template) : Shared Selector :=
  ({ shared with cache, groups := shared.groups ++ [shared.newGroup template key.query] }).use key
    shared.groups.length

/-- What entering the cache can lead to. -/
inductive Entered (thread : Nat) (shared : Shared Selector) (order : Order) (key : CacheKey)
    (template : Template) : Shared Selector → Except ScpError Nat → Prop where
  | hit (entry : CacheEntry) (found : shared.cache.lookup key = some entry) :
      Entered thread shared order key template
        ((shared.use key entry.group).acquire thread [entry.group]) (.ok entry.group)
  | refused (absent : shared.cache.lookup key = none) (full : shared.makeRoom order = none) :
      Entered thread shared order key template shared (.error busy)
  | failed (cache : Table CacheKey CacheEntry) (error : ScpError)
      (absent : shared.cache.lookup key = none) (room : shared.makeRoom order = some cache)
      (other : error ≠ busy) :
      Entered thread shared order key template { shared with cache } (.error error)
  | built (cache : Table CacheKey CacheEntry) (absent : shared.cache.lookup key = none)
      (room : shared.makeRoom order = some cache) :
      Entered thread shared order key template
        ((shared.withGroup cache key template).acquire thread [shared.groups.length])
        (.ok shared.groups.length)

lemma entered_enterCache (profile : RuntimeScp Handle) (thread : Nat)
    (shared : Shared Selector) (outside : Outside) (key : CacheKey) (tmpl : Template) :
    Entered thread shared outside.order key tmpl
      (enterCache profile thread shared outside key tmpl).1
      (enterCache profile thread shared outside key tmpl).2 := by
  unfold enterCache
  split
  next entry found => exact .hit entry found
  next absent =>
    split
    next full => exact .refused absent full
    next cache room =>
      simp only
      split
      next msg _ =>
        refine .failed cache _ absent room fun same => ?_
        have sameStatus : (500 : UInt16) = 503 := congrArg ScpError.status same
        exact absurd sameStatus (by decide)
      next => exact .built cache absent room

lemma entered_of_perform {tmpl : Template} {answer : Except ScpError Nat}
    (done : perform host profile thread before outside (.enter key tmpl) =
      some (after, answer)) : Entered thread before outside.order key tmpl after answer := by
  simp only [perform] at done
  split at done
  · cases done
  · have entered := entered_enterCache profile thread before outside key tmpl
    rwa [Option.some.inj done] at entered

lemma lookup_of_makeRoom (room : shared.makeRoom order = some cache)
    (found : cache.lookup key = some entry) : shared.cache.lookup key = some entry := by
  unfold Shared.makeRoom at room
  split at room
  · obtain ⟨evicted, _, rfl⟩ := map_eq_some_iff.mp room
    exact Table.lookup_of_erase found
  · cases room
    exact found

lemma grows_withGroup (shared : Shared Selector) (cache : Table CacheKey CacheEntry)
    (key : CacheKey) (tmpl : Template) : Grows shared (shared.withGroup cache key tmpl) := by
  intro handle group found
  have bound : handle < shared.groups.length := (List.getElem?_eq_some_iff.mp found).1
  exact ⟨group, (getElem?_append_left bound).trans found, Group.Continues.refl group⟩

lemma sound_newGroup (shared : Shared Selector) {tmpl : Template} (query : NrfQuery)
    (known : tmpl ∈ templatesOf profile) :
    (shared.newGroup tmpl query).Sound host profile where
  template := known
  endpoints :=
    { group := ⟨(fun _ bad => nomatch bad), (fun _ bad => nomatch bad)⟩
      phase := trivial }

lemma Shared.Valid.withGroup (ok : shared.Valid host profile)
    (room : shared.makeRoom order = some cache) {tmpl : Template}
    (known : tmpl ∈ templatesOf profile) (named : tmpl.group.name = key.upstream) :
    (shared.withGroup cache key tmpl).Valid host profile := by
  let extended : Shared Selector :=
    { shared with cache, groups := shared.groups ++ [shared.newGroup tmpl key.query] }
  have growth : Grows shared extended := grows_withGroup shared cache key tmpl
  have extendedOk : extended.Valid host profile := by
    refine ok.of_grows growth ?_ fun other entry found =>
      ⟨entry, lookup_of_makeRoom room found, rfl⟩
    intro handle group found
    rcases mem_append.mp (mem_of_getElem? found) with old | new
    · obtain ⟨place, foundOld⟩ := getElem?_of_mem old
      exact ok.groups place group foundOld
    · rw [mem_singleton.mp new]
      exact sound_newGroup shared key.query known
  exact extendedOk.use getElem?_concat_length ⟨named, rfl⟩

def Op.isPlain : Op → Bool
  | .status _ | .awaitRefresh _ | .load _ _ _ | .candidates _ | .hashKey _ | .lock | .unlock => true
  | .enter _ _ | .startRefresh _ | .clone _ | .drop _ | .touch _ | .retain => false

structure SameBesidesLock (before after : Shared Selector) : Prop where
  groups : after.groups = before.groups
  cache : after.cache = before.cache
  held : after.held = before.held

lemma perform_plain (plain : op.isPlain = true)
    (done : perform host profile thread before outside op = some (after, answer)) :
    SameBesidesLock before after := by
  cases op with
  | status handle | load handle key accept | candidates handle | hashKey handle =>
    obtain ⟨group, found, same⟩ := map_eq_some_iff.mp done
    cases same
    exact ⟨rfl, rfl, rfl⟩
  | awaitRefresh handle | unlock =>
    cases done
    exact ⟨rfl, rfl, rfl⟩
  | lock =>
    simp only [perform] at done
    split at done
    · cases done
    · cases done
      exact ⟨rfl, rfl, rfl⟩
  | enter _ _ | startRefresh _ | clone _ | drop _ | touch _ | retain => cases plain

lemma retained_of_perform {handles : List Nat}
    (done : perform host profile thread before outside .retain = some (after, handles)) :
    retainEntries thread before outside.order = (after, handles) := by
  simp only [perform] at done
  split at done
  · cases done
  · exact Option.some.inj done

lemma perform_grows (done : perform host profile thread before outside op = some (after, answer)) :
    Grows before after := by
  cases op with
  | enter key tmpl =>
    cases entered_of_perform done with
    | hit | refused | failed => exact Grows.of_eq rfl
    | built cache => exact grows_withGroup before cache key tmpl
  | startRefresh handle =>
    obtain ⟨group, found, same⟩ := map_eq_some_iff.mp done
    cases same
    unfold startScpRefresh
    split
    · exact Grows.refl before
    · exact grows_setGroup found ⟨rfl, rfl, List.Subset.refl _⟩
  | touch key =>
    obtain ⟨entry, found, same⟩ := map_eq_some_iff.mp done
    cases same
    exact Grows.of_eq rfl
  | clone handle | drop handle =>
    cases done
    exact Grows.of_eq rfl
  | retain =>
    cases retained_of_perform done
    exact Grows.of_eq rfl
  | _ => exact Grows.of_eq (perform_plain rfl done).groups

def Allowed (profile : RuntimeScp Handle) : Op → List Nat → Prop
  | .enter key template, held =>
    held = [] ∧ template ∈ templatesOf profile ∧ template.group.name = key.upstream
  | .drop handle, held => handle ∈ held
  | .retain, held => held = []
  | _, _ => True

def heldAfter : (op : Op) → operations.Answer op → List Nat → List Nat
  | .enter _ _, .ok handle, held => handle :: held
  | .clone handle, _, held => handle :: held
  | .drop handle, _, held => held.erase handle
  | .retain, handles, held => List.append handles held
  | _, _, held => held

/-- A thread drops every reference it has taken, and only those. -/
abbrev Balanced {α : Type} (profile : RuntimeScp Handle) (left : α → List Nat → Prop)
    (program : Run α) (held : List Nat) : Prop :=
  @Follows operations α (List Nat) (Allowed profile) heldAfter left program held

lemma Shared.Valid.perform {held : List Nat} (ok : before.Valid host profile)
    (allowed : Allowed profile op held)
    (done : perform host profile thread before outside op = some (after, answer)) :
    after.Valid host profile := by
  cases op with
  | enter key tmpl =>
    cases entered_of_perform done with
    | hit entry found =>
      obtain ⟨group, here, serves⟩ := ok.cached key entry found
      have used := ok.use here serves
      exact ⟨used.groups, used.cached⟩
    | refused => exact ok
    | failed cache _ _ room =>
      exact ⟨ok.groups, fun other entry found =>
        ok.cached other entry (lookup_of_makeRoom room found)⟩
    | built cache _ room =>
      have built := ok.withGroup room allowed.2.1 allowed.2.2
      exact ⟨built.groups, built.cached⟩
  | startRefresh handle =>
    obtain ⟨group, found, same⟩ := map_eq_some_iff.mp done
    cases same
    unfold startScpRefresh
    split
    · exact ok
    · have sound := ok.groups handle group found
      have flagged : ({ group with refreshing := true } : Group Selector).Sound host profile :=
        ⟨sound.template, sound.endpoints⟩
      have cont : group.Continues { group with refreshing := true } :=
        ⟨rfl, rfl, List.Subset.refl _⟩
      have set := ok.setGroup found cont flagged
      exact ⟨set.groups, set.cached⟩
  | touch key =>
    obtain ⟨entry, found, same⟩ := map_eq_some_iff.mp done
    cases same
    obtain ⟨group, here, serves⟩ := ok.cached key entry found
    exact ok.use here serves
  | clone handle | drop handle =>
    cases done
    exact ⟨ok.groups, ok.cached⟩
  | retain =>
    cases retained_of_perform done
    exact ⟨ok.groups, fun key entry found =>
      ok.cached key entry (Table.lookup_retain_eq_some.mp found).1⟩
  | _ =>
    have same := perform_plain rfl done
    exact ok.of_same same.groups same.cache

lemma mem_templatesOf {request : ScpRequest} {found : Template}
    (selected : template profile request = .ok found) : found ∈ templatesOf profile := by
  unfold template at selected
  simp only at selected
  split at selected
  next only single =>
    obtain ⟨_, _, same⟩ := bind_eq_ok.mp selected
    cases same
    exact mem_of_mem_filter (single ▸ mem_singleton_self _)
  next => cases selected

/-- The program leaves the references as they were. -/
abbrev Neutral {α : Type} (profile : RuntimeScp Handle) (program : Run α)
    (held : List Nat) : Prop :=
  Balanced profile (fun _ left => left = held) program held

lemma neutral_scpSelect (profile : RuntimeScp Handle) (handle : Nat) (key : List UInt8)
    (accept : CompiledUpstreamServer → Bool) (held : List Nat) :
    Neutral profile (scpSelect handle key accept) held := by
  refine ⟨trivial, fun answer => ?_⟩
  cases answer with
  | error _ => rfl
  | ok _ => exact ⟨trivial, fun _ => rfl⟩

lemma neutral_unavailability (profile : RuntimeScp Handle) (handle : Nat)
    (held : List Nat) : Neutral profile (unavailability handle) held := by
  refine ⟨trivial, fun answer => ?_⟩
  cases answer <;> rfl

lemma neutral_awaitDiscovery (profile : RuntimeScp Handle) (handle : Nat)
    (held : List Nat) : Neutral profile (awaitDiscovery handle) held := by
  refine ⟨trivial, fun answer => ?_⟩
  cases answer with
  | ok _ => rfl
  | error _ => exact ⟨trivial, fun _ => ⟨trivial, fun _ => rfl⟩⟩

def discoveredLeaves : Except ScpError Nat → List Nat → Prop
  | .ok handle, held => held = [handle]
  | .error _, held => held = []

lemma balanced_enter {tmpl : Template} (known : tmpl ∈ templatesOf profile)
    (named : tmpl.group.name = key.upstream) :
    Balanced profile discoveredLeaves (enter key tmpl) [] := by
  refine ⟨⟨rfl, known, named⟩, fun entered => ?_⟩
  cases entered <;> rfl

lemma balanced_discovered (profile : RuntimeScp Handle) (request : ScpRequest) :
    Balanced profile discoveredLeaves (discovered profile request) [] := by
  unfold discovered
  split
  · rfl
  next template selected =>
    refine Follows.bind (balanced_enter (mem_templatesOf selected) rfl) ?_
    intro entered held left
    cases entered with
    | error _ => exact left
    | ok handle =>
      cases left
      have dropped (error : ScpError) : Balanced profile discoveredLeaves
          (do drop handle; pure (.error error)) [handle] :=
        ⟨mem_singleton_self handle, fun _ =>
          show [handle].erase handle = [] from erase_cons_head handle []⟩
      refine Follows.bind (neutral_awaitDiscovery profile handle [handle]) ?_
      rintro ready _ rfl
      cases ready with
      | true =>
        show Balanced profile discoveredLeaves (status handle >>= _) [handle]
        refine ⟨trivial, fun answer => ?_⟩
        cases answer with
        | error error => exact dropped error
        | ok _ => rfl
      | false => exact dropped _

lemma balanced_startRefreshes (profile : RuntimeScp Handle) (handles : List Nat) :
    Balanced profile (fun _ held => held = []) (startRefreshes handles) handles := by
  induction handles with
  | nil => rfl
  | cons handle rest ih =>
    refine ⟨trivial, fun _ => ⟨mem_cons_self, fun _ => ?_⟩⟩
    have erased : (handle :: rest).erase handle = rest := erase_cons_head handle rest
    simp only [heldAfter, erased]
    exact ih

lemma balanced_maintain (profile : RuntimeScp Handle) :
    Balanced profile (fun _ held => held = []) maintain [] := by
  refine ⟨rfl, fun handles => ?_⟩
  have all : List.append handles [] = handles := append_nil handles
  simp only [heldAfter, all]
  exact balanced_startRefreshes profile handles

def routedLeaves : Routed → List Nat → Prop
  | .exchange exchange, held => held = exchange.group.toList
  | .refused _, held => held = []
  | .panicked, held => held = []

variable (platform : Platform)

lemma balanced_scanCache (profile : RuntimeScp Handle) (request : ScpRequest) (root : ApiRoot)
    (ip : List UInt8)
    (entries : List (CacheKey × Nat)) (unavailable : Option ScpError) :
    Balanced profile routedLeaves
      (scanCache platform profile request root ip entries unavailable) [] := by
  induction entries generalizing unavailable with
  | nil => exact ⟨trivial, fun _ => rfl⟩
  | cons entry rest ih =>
    obtain ⟨key, handle⟩ := entry
    unfold scanCache
    split
    · rfl
    next tmpl found =>
      have known : Neutral profile (candidates handle) [] := ⟨trivial, fun _ => rfl⟩
      refine Follows.bind known ?_
      rintro backends _ rfl
      split
      · exact ih unavailable
      · have touched : Neutral profile (touch key) [] := ⟨trivial, fun _ => rfl⟩
        refine Follows.bind touched ?_
        rintro _ _ rfl
        refine Follows.bind (neutral_unavailability profile handle []) ?_
        rintro unavailable _ rfl
        refine Follows.bind (neutral_scpSelect profile handle ip _ []) ?_
        rintro selected _ rfl
        cases selected with
        | none => exact ih _
        | some backend => exact ⟨trivial, fun _ => ⟨trivial, fun _ => rfl⟩⟩

lemma neutral_selectDiscovered (profile : RuntimeScp Handle) (request : ScpRequest) (handle : Nat)
    (key : List UInt8) (scheme : String) (held : List Nat) :
    Neutral profile (selectDiscovered platform request handle key scheme) held := by
  have selecting {answer : Option CompiledUpstreamServer → Run (Except ScpError CompiledUpstreamServer)}
      (each : ∀ selected, Neutral profile (answer selected) held) :
      Neutral profile (scpSelect handle key (fun _ => true) >>= answer) held := by
    refine Follows.bind (neutral_scpSelect profile handle key _ held) ?_
    rintro selected _ rfl
    exact each selected
  unfold selectDiscovered
  cases request.target with
  | none =>
    refine selecting fun selected => ?_
    cases selected <;> rfl
  | some target =>
    refine Follows.bind (neutral_scpSelect profile handle key _ held) ?_
    intro preferred left same
    rw [same]
    cases preferred with
    | some backend => rfl
    | none =>
      refine ⟨trivial, fun known => ?_⟩
      show Neutral profile (ite _ _ _) held
      split
      · rfl
      · refine selecting fun selected => ?_
        cases selected <;> rfl

def keepsGroup (handle : Nat) (result : Except ScpError ScpExchange) (held : List Nat) : Prop :=
  held = [handle] ∧ ∀ exchange, result = .ok exchange → exchange.group = some handle

lemma balanced_routeDiscovered (profile : RuntimeScp Handle) (request : ScpRequest)
    (headers : HeaderMap) (ip : List UInt8) (handle : Nat) :
    Balanced profile (keepsGroup handle)
      (routeDiscovered platform profile request headers ip handle) [handle] := by
  have named : Neutral profile (hashKey handle) [handle] := ⟨trivial, fun _ => rfl⟩
  refine Follows.bind named ?_
  rintro name _ rfl
  split
  · exact ⟨rfl, fun _ bad => nomatch bad⟩
  · exact ⟨rfl, fun _ bad => nomatch bad⟩
  next key tmpl _ _ =>
    refine Follows.bind (neutral_selectDiscovered platform profile request handle key
      (templateScheme tmpl.nrf) [handle]) ?_
    rintro selected _ rfl
    cases selected with
    | error error => exact ⟨rfl, fun _ bad => nomatch bad⟩
    | ok backend =>
      refine ⟨rfl, fun exchange same => ?_⟩
      obtain ⟨root, _, built⟩ := map_eq_ok.mp same
      rw [← built]

lemma balanced_route (profile : RuntimeScp Handle) (request : ScpRequest) (headers : HeaderMap)
    (ip : List UInt8) :
    Balanced profile routedLeaves (route platform profile request headers ip) [] := by
  unfold route
  split
  next root _ =>
    split
    · rfl
    · have locked : Neutral profile lock [] := ⟨trivial, fun _ => rfl⟩
      refine Follows.bind locked ?_
      rintro entries _ rfl
      exact balanced_scanCache platform profile request root ip entries none
  next =>
    refine Follows.bind (balanced_discovered profile request) ?_
    intro found held left
    cases found with
    | error error => exact left
    | ok handle =>
      cases left
      refine Follows.bind
        (balanced_routeDiscovered platform profile request headers ip handle) ?_
      rintro res _ ⟨rfl, kept⟩
      cases res with
      | ok exchange => exact (congrArg Option.toList (kept exchange rfl)).symm
      | error error =>
        exact ⟨mem_singleton_self handle, fun _ =>
          show [handle].erase handle = [] from erase_cons_head handle []⟩

lemma neutral_retries (profile : RuntimeScp Handle) (count : Nat) (exchange : ScpExchange)
    (held : List Nat) :
    Neutral profile (retries platform profile count exchange) held := by
  have once (exchange : ScpExchange) : Neutral profile (retryConnect platform profile exchange) held := by
    unfold retryConnect
    split
    · rfl
    · split
      · rfl
      next handle _ =>
        refine Follows.bind (neutral_scpSelect profile handle _ _ held) ?_
        intro selected left same
        rw [same]
        split
        · rfl
        · split
          · rfl
          · split <;> rfl
  induction count generalizing exchange with
  | zero => rfl
  | succ count ih =>
    refine Follows.bind (once exchange) ?_
    intro tried left same
    rw [same]
    refine Follows.bind (ih tried.2) ?_
    intro rest left same
    exact same

lemma balanced_serve (profile : RuntimeScp Handle) (request : ScpRequest) (headers : HeaderMap)
    (ip : List UInt8) (count : Nat) :
    Balanced profile (fun _ held => held = [])
      (serve platform profile request headers ip count) [] := by
  refine Follows.bind (balanced_route platform profile request headers ip) ?_
  intro routed held left
  cases routed with
  | refused error | panicked => exact left
  | exchange first =>
    refine Follows.bind (neutral_retries platform profile count first held) ?_
    intro retried after same
    rw [same, show held = first.group.toList from left]
    split
    next noGroup => rw [noGroup]; rfl
    next handle group =>
      rw [group]
      exact ⟨mem_singleton_self handle, fun _ =>
        show [handle].erase handle = [] from erase_cons_head handle []⟩

/-- A change that leaves the cache and the references of the threads alone. -/
structure Quiet (host : Host Selector) (profile : RuntimeScp Handle)
    (before after : Shared Selector) : Prop where
  cache : after.cache = before.cache
  held : after.held = before.held
  grows : Grows before after
  valid : before.Valid host profile → after.Valid host profile

lemma quiet_of_groups (groups : after.groups = before.groups) (cache : after.cache = before.cache)
    (held : after.held = before.held) : Quiet host profile before after where
  cache
  held
  grows := Grows.of_eq groups
  valid := fun ok => ok.of_same groups cache

lemma quiet_setGroup (here : shared.groups[handle]? = some group) (cont : group.Continues next)
    (sound : group.Sound host profile → next.Sound host profile) :
    Quiet host profile shared (shared.setGroup handle next) where
  cache := rfl
  held := rfl
  grows := grows_setGroup here cont
  valid := fun ok => ok.setGroup here cont (sound (ok.groups handle group here))

lemma Quiet.setStage (quiet : Quiet host profile before after) (place : Nat) (stage : Stage) :
    Quiet host profile before (after.setStage place stage) where
  cache := quiet.cache
  held := quiet.held
  grows := quiet.grows
  valid := fun ok => ⟨(quiet.valid ok).groups, (quiet.valid ok).cached⟩

lemma quiet_refreshGroup {noted : Group Selector} (here : before.groups[handle]? = some group)
    (cont : group.Continues noted) (sameTask : noted.task = group.task)
    (received : ∀ res, event = .answer (.ok res) → res.Good (noted.Discovered host))
    (step : refreshGroup host profile before handle noted event = some after) :
    Quiet host profile before after := by
  obtain ⟨task, refreshed, rfl⟩ := map_eq_some_iff.mp step
  refine quiet_setGroup here ⟨cont.template, cont.query, cont.answers⟩ fun sound => ?_
  have known : noted.task.Good (noted.Discovered host) := by
    rw [sameTask]
    exact sound.endpoints.mono fun server => cont.discovered
  exact ⟨cont.template ▸ sound.template, Nrf.good_refreshStep known received refreshed⟩

lemma quiet_runTask (noAnswer : isAnswer event = false)
    (step : runTask host profile before place event = some after) :
    Quiet host profile before after := by
  obtain ⟨task, _, group, here, step⟩ := Results.bind₂_eq_some.mp step
  obtain ⟨_, _, shared, refreshed, same⟩ := Results.bind₂_eq_some.mp step
  cases same
  refine (quiet_refreshGroup here (Group.Continues.refl group) rfl ?_ refreshed).setStage place _
  rintro res rfl
  cases noAnswer

lemma quiet_answerTask {answer : Except String SearchResult}
    (step : answerTask host profile before place answer = some after) :
    Quiet host profile before after := by
  obtain ⟨task, _, group, here, step⟩ := Results.bind₂_eq_some.mp step
  obtain ⟨_, _, step⟩ := bind_eq_some_iff.mp step
  have cont : group.Continues
      { group with answers := answer.toOption.toList ++ group.answers } :=
    ⟨rfl, rfl, subset_append_right _ _⟩
  refine quiet_refreshGroup here cont rfl ?_ step
  intro res same
  cases answer with
  | error msg => cases same
  | ok answer =>
    cases same
    exact fun server extracted => ⟨answer, mem_cons_self, extracted⟩

lemma quiet_settleTask (step : settleTask before place = some after) :
    Quiet host profile before after := by
  obtain ⟨task, _, group, here, step⟩ := Results.bind₂_eq_some.mp step
  split at step
  · cases step
    have cont : group.Continues { group with refreshing := false } :=
      ⟨rfl, rfl, List.Subset.refl _⟩
    have quiet : Quiet host profile before
        (before.setGroup task.group { group with refreshing := false }) :=
      quiet_setGroup here cont fun sound => ⟨sound.template, sound.endpoints⟩
    exact quiet.setStage place _
  · cases step

lemma quiet_finishTask (step : finishTask before place = some after) :
    Quiet host profile before after := by
  obtain ⟨task, _, _, _, step⟩ := Results.bind₂_eq_some.mp step
  cases step
  exact quiet_of_groups rfl rfl rfl

end Ngxora.Scp
