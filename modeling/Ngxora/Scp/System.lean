/-
The runtime state of an SCP profile.
-/

import Mathlib.Data.List.MinMax
import Ngxora.Base.Totals
import Ngxora.Nrf.Endpoints
import Ngxora.Router.Uris
import Ngxora.Scp.Route

namespace Ngxora.Scp

open Control Nrf Results Router Http
open Nrf (NrfQuery ScpError SearchResult)

def maxCacheEntries : Nat := 256

def idleTtl : Duration := Duration.fromSecs 300

structure Host (Selector : Type) where
  platform : Platform
  hostParses : String → Bool
  lastInstant : Nat
  hashes : Hashes
  balancer : Balancer Selector
  /-- The hash of the host and a group that spreads refreshes. -/
  jitter : String → UInt64

/-- The program does not keep `answers`. -/
structure Group (Selector : Type) where
  template : Template
  query : NrfQuery
  task : Nrf.Task Selector
  refreshing : Bool := false
  answers : List SearchResult := []

structure CacheEntry where
  group : Nat
  lastUsed : Nat

inductive Stage where
  | spawned
  | discovering
  | settled
  deriving DecidableEq

structure RefreshTask where
  group : Nat
  stage : Stage

/-- `groups` holds every group ever built; its references are the cache entry, those in
`held` and its refresh tasks. -/
structure Shared (Selector : Type) where
  clock : Nat
  groups : List (Group Selector) := []
  cache : Table CacheKey CacheEntry := ∅
  locked : Option Nat := none
  held : List (Nat × Nat) := []
  tasks : List RefreshTask := []

variable {Selector Handle : Type}

def Group.search (host : Host Selector) (group : Group Selector) : Search where
  platform := host.platform
  hostParses := host.hostParses
  config := group.template.nrf
  query := some group.query

/-- The copy of the template that a group is built from has the name of the profile. -/
def settings (host : Host Selector) (profile : RuntimeScp Handle) (template : Template) :
    Settings Selector where
  groupName := profile.config.name
  hasQuery := true
  staleIfError := template.nrf.staleIfError
  policy := template.group.policy
  lastInstant := host.lastInstant
  hashes := host.hashes
  balancer := host.balancer
  jitter := host.jitter profile.config.name

namespace Shared

/-- `Arc::strong_count` of a group that is cached. -/
def strongCount (shared : Shared Selector) (handle : Nat) : Nat :=
  1 + shared.held.countP (fun reference => reference.2 = handle) +
    shared.tasks.countP fun task => task.group = handle

def setGroup (shared : Shared Selector) (handle : Nat) (group : Group Selector) : Shared Selector :=
  { shared with groups := shared.groups.set handle group }

def acquire (shared : Shared Selector) (thread : Nat) (handles : List Nat) : Shared Selector :=
  { shared with held := handles.map (fun handle => (thread, handle)) ++ shared.held }

def use (shared : Shared Selector) (key : CacheKey) (handle : Nat) : Shared Selector :=
  { shared with cache := shared.cache.insert key { group := handle, lastUsed := shared.clock } }

end Shared

structure Order where
  arrange : List (CacheKey × CacheEntry) → List (CacheKey × CacheEntry)
  perm : ∀ entries, (arrange entries).Perm entries

structure Outside where
  order : Order
  view : View
  /-- The answer of the crates that a group is built with. -/
  build : Except String Unit
  /-- The refresh that is awaited ends in time. -/
  notified : Bool

def Shared.entries (shared : Shared Selector) (order : Order) : List (CacheKey × CacheEntry) :=
  order.arrange (shared.cache.entries.map fun entry => (entry.1, entry.2))

def fromCompiledQuery (profile : RuntimeScp Handle) (template : Template)
    (build : Except String Unit) : Except String Unit := do
  build
  rejectIf template.group.healthCheck.isNone
    s!"upstream `{profile.config.name}` has incomplete nrf_discovery runtime state"

def busy : ScpError where
  status := 503
  cause := "SCP_CONGESTION"
  detail := "Discovery cache is busy"

def Shared.idlest (shared : Shared Selector) (order : Order) : Option CacheKey :=
  (((shared.entries order).filter fun entry => shared.strongCount entry.2.group = 1).argmin
    fun entry => entry.2.lastUsed).map Prod.fst

def Shared.makeRoom (shared : Shared Selector) (order : Order) :
    Option (Table CacheKey CacheEntry) :=
  if shared.cache.entries.length = maxCacheEntries then
    (shared.idlest order).map fun key => shared.cache.erase key
  else some shared.cache

def Shared.newGroup (shared : Shared Selector) (template : Template) (query : NrfQuery) :
    Group Selector where
  template
  query
  task := { group := { schedule := { nextRunAt := shared.clock } } }

def enterCache (profile : RuntimeScp Handle) (thread : Nat) (shared : Shared Selector)
    (outside : Outside) (key : CacheKey) (template : Template) :
    Shared Selector × Except ScpError Nat :=
  match shared.cache.lookup key with
  | some entry => ((shared.use key entry.group).acquire thread [entry.group], .ok entry.group)
  | none =>
    match shared.makeRoom outside.order with
    | none => (shared, .error busy)
    | some cache =>
      let shared := { shared with cache }
      match fromCompiledQuery profile template outside.build with
      | .error message => (shared, .error
          { status := 500, cause := "SYSTEM_FAILURE", detail := message })
      | .ok _ =>
        let handle := shared.groups.length
        let built :=
          { shared with groups := shared.groups ++ [shared.newGroup template key.query] }
        ((built.use key handle).acquire thread [handle], .ok handle)

def startScpRefresh (shared : Shared Selector) (handle : Nat) (group : Group Selector) :
    Shared Selector :=
  if group.refreshing then shared
  else
    { shared.setGroup handle { group with refreshing := true } with
      tasks := shared.tasks ++
        [{ group := handle, stage := .spawned }] }

def Shared.keeps (shared : Shared Selector) (entry : CacheEntry) : Bool :=
  decide (shared.clock - entry.lastUsed < idleTtl.nanos) ||
    decide (shared.strongCount entry.group > 1)

def retainEntries (thread : Nat) (shared : Shared Selector) (order : Order) :
    Shared Selector × List Nat :=
  let kept := { shared with cache := shared.cache.retain fun _ entry => shared.keeps entry }
  let handles := (kept.entries order).map fun entry => entry.2.group
  (kept.acquire thread handles, handles)

/-- The operations of a thread; one that has to wait has no result. -/
def perform (host : Host Selector) (profile : RuntimeScp Handle) (thread : Nat) :
    Program.Performs operations (Shared Selector) Outside
  | shared, outside, .enter key template =>
    if shared.locked.isSome then none
    else some (enterCache profile thread shared outside key template)
  | shared, _, .status handle => (shared.groups[handle]?).map fun group =>
    (shared, scpStatus group.task.group.schedule shared.clock)
  | shared, _, .startRefresh handle => (shared.groups[handle]?).map fun group =>
    (startScpRefresh shared handle group, ())
  | shared, outside, .awaitRefresh _ => some (shared, outside.notified)
  | shared, outside, .load handle key accept => (shared.groups[handle]?).map fun group =>
    (shared, group.task.group.selection.bind fun snapshot =>
      snapshot.choose (settings host profile group.template) outside.view key accept)
  | shared, _, .candidates handle => (shared.groups[handle]?).map fun group =>
    (shared, group.task.group.schedule.candidates)
  | shared, _, .hashKey handle => (shared.groups[handle]?).map fun group =>
    (shared, group.template.group.hashKey)
  | shared, _, .clone handle => some (shared.acquire thread [handle], ())
  | shared, _, .drop handle => some ({ shared with held := shared.held.erase (thread, handle) }, ())
  | shared, outside, .lock =>
    if shared.locked.isSome then none
    else some ({ shared with locked := some thread },
      (shared.entries outside.order).map fun entry => (entry.1, entry.2.group))
  | shared, _, .touch key => (shared.cache.lookup key).map fun entry =>
    (shared.use key entry.group, ())
  | shared, _, .unlock => some ({ shared with locked := none }, ())
  | shared, outside, .retain =>
    if shared.locked.isSome then none
    else some (retainEntries thread shared outside.order)

inductive Thread where
  | client (headers : HeaderMap) (request : ScpRequest) (program : Run Outcome)
  | maintenance (program : Run Unit)
  | gone

def Thread.isClient : Thread → Bool
  | .client _ _ _ => true
  | .maintenance _ | .gone => false

structure Incoming where
  headers : HeaderMap
  method : String
  path : String
  query : Option String
  clientIp : List UInt8
  retries : Nat

structure System (Selector : Type) where
  shared : Shared Selector
  threads : List Thread := []

inductive Action where
  | advance (instant : Nat)
  | request (incoming : Incoming)
  | maintain
  | perform (thread : Nat) (outside : Outside)
  | abort (thread : Nat)
  /-- The next part of a refresh, other than an answer of the NRF. -/
  | refresh (place : Nat) (event : Event)
  | answer (place : Nat) (answer : Except String SearchResult)
  | settle (place : Nat)
  | finish (place : Nat)

def advanceProgram {α : Type} (host : Host Selector) (profile : RuntimeScp Handle)
    (thread : Nat) (shared : Shared Selector) (outside : Outside) :
    Run α → Option (Shared Selector × Run α)
  | .done _ => none
  | .call op next => (perform host profile thread shared outside op).map fun result =>
    (result.1, next result.2)

def advanceThread (host : Host Selector) (profile : RuntimeScp Handle) (place : Nat)
    (shared : Shared Selector) (outside : Outside) : Thread → Option (Shared Selector × Thread)
  | .client headers request program =>
    (advanceProgram host profile place shared outside program).map fun result =>
      (result.1, .client headers request result.2)
  | .maintenance program =>
    (advanceProgram host profile place shared outside program).map fun result =>
      (result.1, .maintenance result.2)
  | .gone => none

def Thread.waits : Thread → Bool
  | .client _ _ (.call (.awaitRefresh _) _) => true
  | _ => false

def Shared.release (shared : Shared Selector) (thread : Nat) : Shared Selector :=
  { shared with held := shared.held.filter fun reference => reference.1 ≠ thread }

def isBegin : Event → Bool
  | .begin _ => true
  | _ => false

def isAnswer : Event → Bool
  | .answer _ => true
  | _ => false

/-- A refresh starts with `begin`, and only then. -/
def Stage.allows (event : Event) : Stage → Bool
  | .spawned => isBegin event
  | .discovering => !isBegin event
  | .settled => false

def refreshGroup (host : Host Selector) (profile : RuntimeScp Handle)
    (shared : Shared Selector) (handle : Nat) (group : Group Selector) (event : Event) :
    Option (Shared Selector) :=
  (refreshStep (settings host profile group.template) shared.clock group.task event).map
    fun task => shared.setGroup handle { group with task }

def Shared.setStage (shared : Shared Selector) (place : Nat) (stage : Stage) : Shared Selector :=
  { shared with tasks := shared.tasks.modify place fun task => { task with stage } }

def runTask (host : Host Selector) (profile : RuntimeScp Handle) (shared : Shared Selector)
    (place : Nat) (event : Event) : Option (Shared Selector) := do
  let task ← shared.tasks[place]?
  let group ← shared.groups[task.group]?
  guard (task.stage.allows event)
  let shared ← refreshGroup host profile shared task.group group event
  pure (shared.setStage place .discovering)

def answerTask (host : Host Selector) (profile : RuntimeScp Handle)
    (shared : Shared Selector) (place : Nat) (answer : Except String SearchResult) :
    Option (Shared Selector) := do
  let task ← shared.tasks[place]?
  let group ← shared.groups[task.group]?
  guard (task.stage = .discovering)
  let group := { group with answers := answer.toOption.toList ++ group.answers }
  refreshGroup host profile shared task.group group
    (.answer (answer.map (discoveryResult (group.search host))))

def settleTask (shared : Shared Selector) (place : Nat) : Option (Shared Selector) := do
  let task ← shared.tasks[place]?
  let group ← shared.groups[task.group]?
  match task.stage, group.task.phase with
  | .discovering, .idle =>
    pure ((shared.setGroup task.group { group with refreshing := false }).setStage place .settled)
  | _, _ => none

def finishTask (shared : Shared Selector) (place : Nat) : Option (Shared Selector) := do
  let task ← shared.tasks[place]?
  guard (task.stage = .settled)
  pure { shared with tasks := shared.tasks.eraseIdx place }

def System.withShared (system : System Selector) (shared : Option (Shared Selector)) :
    Option (System Selector) :=
  shared.map fun shared => { system with shared }

def System.spawn (system : System Selector) (thread : Thread) : System Selector :=
  { system with threads := system.threads ++ [thread] }

/-- What a thread does while it holds the lock of the cache is one step, unless it looks at
groups meanwhile: a group that only the cache refers to gets no other reference without that
lock. -/
def step (host : Host Selector) (profile : RuntimeScp Handle) (system : System Selector) :
    Action → Option (System Selector)
  | .advance instant => system.withShared
      (if system.shared.clock ≤ instant then some { system.shared with clock := instant }
        else none)
  | .request incoming =>
    match ScpRequest.parse host.platform incoming.headers incoming.method incoming.path
        incoming.query profile.root with
    | .error _ => none
    | .ok request => some (system.spawn (.client incoming.headers request
        (serve host.platform profile request incoming.headers incoming.clientIp incoming.retries)))
  | .maintain => some (system.spawn (.maintenance maintain))
  | .perform place outside => do
    let thread ← system.threads[place]?
    let (shared, thread) ← advanceThread host profile place system.shared outside thread
    pure { shared, threads := system.threads.set place thread }
  | .abort place => do
    let thread ← system.threads[place]?
    guard thread.waits
    pure { shared := system.shared.release place, threads := system.threads.set place .gone }
  | .refresh place event =>
    if isAnswer event then none
    else system.withShared (runTask host profile system.shared place event)
  | .answer place answer => system.withShared (answerTask host profile system.shared place answer)
  | .settle place => system.withShared (settleTask system.shared place)
  | .finish place => system.withShared (finishTask system.shared place)

def System.initial (start : Nat) : System Selector where
  shared := { clock := start }

namespace Example

def nrf : CompiledNrfDiscovery where
  apiRoot := { scheme := "http", host := some "nrf.example", port := none, path := "/nnrf-disc/v1" }
  targetNfType := "SMF"
  requesterNfType := "SCP"
  serviceName := "nsmf-pdusession"
  endpointScheme := .http
  timeout := Duration.fromMillis 3000
  staleIfError := Duration.fromMillis 60000
  tlsOptions := {}

def group : CompiledUpstreamGroup where
  allowEmpty := false
  name := "smf"
  policy := .roundRobin
  hashKey := none
  servers := []
  nrfDiscovery := some nrf
  healthCheck := some
    { checkType := .tcp
      timeout := Duration.fromMillis 1000
      interval := Duration.fromMillis 5000
      consecutiveSuccess := 1
      consecutiveFailure := 1 }

def upstreams : UpstreamTable := (∅ : UpstreamTable).insert "smf" group

def config : ScpProfile where
  name := "core"
  apiRoot := "http://scp.example:8080"
  discoveryUpstreams := ["smf"]

def builders : Builders Unit Unit := .constant () ()

def profile : RuntimeScp Unit where
  root := { scheme := "http", host := "scp.example", port := 8080, pathPrefix := "" }
  config
  templates := [group]
  allowed := []
  cache := ()

def host : Host (List Representative) where
  platform := uriPlatform
  hostParses name := !name.isEmpty
  lastInstant := 2 ^ 128
  hashes :=
    { stableBackendId := fun server => UInt64.ofNat server.port.toNat
      stableNrfServiceId := fun _ => 0 }
  balancer :=
    { build := fun _ representatives => .ok representatives
      selectWith := fun representatives _ _ accept => representatives.find? accept }
  jitter _ := 0

def outside (notified : Bool) : Outside where
  order := { arrange := id, perm := List.Perm.refl }
  view :=
    { ready := fun _ => true
      starts := fun _ => 0 }
  build := .ok ()
  notified

end Example

end Ngxora.Scp
