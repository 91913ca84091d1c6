/-
What the compilation of a list of locations keeps. A location whose `proxy_pass` URL gives no target
is dropped.
-/

import Ngxora.Reference
import Ngxora.Router.Blocks

namespace Ngxora.Router

open Reference List Option Results

/-- The URL names a group, or a host the proxy can reach. -/
def UrlTargets (upstreams : UpstreamTable) (url : Url) : Prop :=
  (upstreamGroupFromUrl url upstreams).isSome = true ∨
    (url.host.isSome = true ∧ url.portOrKnownDefault.isSome = true ∧
      (proxyPassTls url.scheme).isSome = true)

def Targets (upstreams : UpstreamTable) (location : Location) : Prop :=
  ∀ url, LocationDirective.proxyPass (.url url) ∈ location.directives → UrlTargets upstreams url

def isAction : LocationDirective → Bool
  | .proxyPass _ | .scpPass _ | .returnRedirect _ _ | .weightedBackends _ | .directResponse _
  | .httpRedirect _ => true
  | _ => false

variable {upstreams : UpstreamTable} {directives : List LocationDirective}
  {routeId nextId endId : UInt64} {locations : List Location}

private lemma proxyPassTarget_url {url : Url} {target : Option ActionTarget}
    (compiled : proxyPassTarget upstreams (.url url) = .ok target) :
    target.isSome = true ↔ UrlTargets upstreams url := by
  unfold proxyPassTarget at compiled
  unfold UrlTargets
  cases group : upstreamGroupFromUrl url upstreams with
  | some found =>
    simp only [group] at compiled
    obtain ⟨_, _, _, _, same⟩ := bind₂_eq_ok.mp compiled
    cases same
    simp
  | none =>
    simp only [group] at compiled
    cases host : url.host <;> cases port : url.portOrKnownDefault <;>
      cases tls : proxyPassTls url.scheme <;> simp only [host, port, tls] at compiled <;>
      cases compiled <;> simp

variable {dir : LocationDirective} {rest : List Location} {first : CompiledLocation}
  {others : List CompiledLocation} {routes : List ServerRoutes} {servers : List Server}
variable {compiled : List CompiledLocation} {router : CompiledRouter}

section Compiling

variable {platform : Platform} {loc : Location}

private lemma routeTargetFromDirective_action (action : isAction dir = true)
    {target : Option RouteTarget}
    (compiled : routeTargetFromDirective upstreams dir = .ok target) : target.isSome = true ↔
      ∀ url, dir = .proxyPass (.url url) → UrlTargets upstreams url := by
  cases dir with
  | proxyPass target =>
    obtain ⟨found, foundOk, same⟩ := map_eq_ok.mp compiled
    cases target with
    | url url =>
      rw [← same, isSome_map, proxyPassTarget_url foundOk]
      simp
    | upstreamGroup name tls =>
      obtain ⟨_, _, _, _, foundOk⟩ := bind₂_eq_ok.mp foundOk
      cases foundOk
      simp [← same]
  | scpPass profile | returnRedirect status loc | httpRedirect redirect =>
    cases compiled
    simp
  | directResponse status =>
    obtain ⟨found, foundOk, same⟩ := map_eq_ok.mp compiled
    obtain ⟨_, _, foundOk⟩ := bind_eq_ok.mp foundOk
    cases foundOk
    simp [← same]
  | weightedBackends backends =>
    obtain ⟨_, _, _, _, same⟩ := bind₂_eq_ok.mp compiled
    cases same
    simp
  | _ => cases action

private lemma routeTargetFromDirective_other (other : isAction dir = false) :
    routeTargetFromDirective upstreams dir = .ok none := by
  cases dir <;> first | rfl | cases other

private lemma routeTarget_filter (directives : List LocationDirective) :
    routeTarget upstreams (directives.filter isAction) = routeTarget upstreams directives := by
  induction directives with
  | nil => rfl
  | cons dir rest ih =>
    cases kind : isAction dir with
    | false =>
      rw [filter_cons_of_neg (by simp [kind]), ih, routeTarget,
        routeTargetFromDirective_other kind, ok_bind]
    | true => rw [filter_cons_of_pos kind, routeTarget, routeTarget, ih]

private lemma routeTarget_single (action : LocationDirective) :
    routeTarget upstreams [action] = routeTargetFromDirective upstreams action := by
  rw [routeTarget]
  cases routeTargetFromDirective upstreams action with
  | error msg => rfl
  | ok target => cases target <;> rfl

private lemma actionCount_eq {start count : Nat}
    (counted : directives.foldlM actionCountStep start = .ok count) :
    count = start + (directives.filter isAction).length := by
  induction directives generalizing start with
  | nil => simpa using (foldlM_nil_eq_ok.mp counted).symm
  | cons dir rest ih =>
    obtain ⟨next, stepOk, restOk⟩ := foldlM_cons_eq_ok.mp counted
    have total := ih restOk
    have step : next = start + ([dir].filter isAction).length := by
      cases dir <;> first | cases stepOk; rfl | cases stepOk
    rw [← singleton_append, filter_append, length_append]
    omega

private lemma compileLocation_isSome {res : Option CompiledLocation}
    (compiled : compileLocation platform upstreams loc routeId = .ok res) :
    res.isSome = true ↔ Targets upstreams loc := by
  obtain ⟨count, countOk, _, single, target, targetOk, compiled⟩ := bind₃_eq_ok.mp compiled
  have one : (loc.directives.filter isAction).length = 1 := by
    have total := actionCount_eq countOk
    have isOne : count = 1 := by simpa using rejectIf_eq_ok.mp single
    omega
  obtain ⟨action, only⟩ := length_eq_one_iff.mp one
  have isMember : ∀ dir, isAction dir = true →
      (dir ∈ loc.directives ↔ dir = action) := by
    intro dir kind
    have mem : dir ∈ loc.directives.filter isAction ↔ _ := mem_filter
    rw [only, mem_singleton] at mem
    simpa [kind] using mem.symm
  have kind : isAction action = true := (mem_filter.mp (only ▸ mem_singleton_self action)).2
  rw [← routeTarget_filter, only, routeTarget_single] at targetOk
  have targets := routeTargetFromDirective_action kind targetOk
  have whole : Targets upstreams loc ↔
      ∀ url, action = .proxyPass (.url url) → UrlTargets upstreams url := by
    unfold Targets
    apply forall_congr'
    intro url
    rw [isMember _ rfl, eq_comm]
  rw [whole, ← targets]
  cases target with
  | none =>
    cases compiled
    rfl
  | some found =>
    obtain ⟨_, _, same⟩ := map_eq_ok.mp compiled
    rw [← same]
    rfl

lemma compileLocation_eq_some {compiled : CompiledLocation}
    (ok : compileLocation platform upstreams loc routeId = .ok (some compiled)) :
    routeTarget upstreams loc.directives = .ok (some compiled.target) ∧
      validateTarget platform compiled.matcher compiled.target = .ok () ∧
      compiled.routeId = routeId := by
  obtain ⟨_, _, _, _, found, targetOk, ok⟩ := bind₃_eq_ok.mp ok
  cases found with
  | none => cases ok
  | some target =>
    obtain ⟨res, resultOk, same⟩ := map_eq_ok.mp ok
    cases same
    obtain ⟨_, _, _, _, _, _, ok⟩ := bind₃_eq_ok.mp resultOk
    obtain ⟨_, _, _, valid, _, _, ok⟩ := bind₃_eq_ok.mp ok
    obtain ⟨_, _, _, _, _, _, done⟩ := bind₃_eq_ok.mp ok
    cases done
    exact ⟨targetOk, valid, rfl⟩

private lemma routeId_of_compileLocation {compiled : CompiledLocation}
    (ok : compileLocation platform upstreams loc routeId = .ok (some compiled)) :
    compiled.routeId = routeId :=
  (compileLocation_eq_some ok).2.2

lemma compileLocationList_cons
    (ok : compileLocationList platform upstreams nextId (loc :: rest) = .ok (compiled, endId)) :
    (compileLocation platform upstreams loc nextId = .ok none ∧
      compileLocationList platform upstreams nextId rest = .ok (compiled, endId)) ∨
    ∃ first others, compileLocation platform upstreams loc nextId = .ok (some first) ∧
      compileLocationList platform upstreams (nextId + 1) rest = .ok (others, endId) ∧
      compiled = first :: others := by
  obtain ⟨res, resultOk, ok⟩ := bind_eq_ok.mp ok
  cases res with
  | none => exact .inl ⟨resultOk, ok⟩
  | some first =>
    obtain ⟨⟨others, lastId⟩, othersOk, same⟩ := bind_eq_ok.mp ok
    cases same
    exact .inr ⟨first, others, resultOk, othersOk, rfl⟩

private lemma compileLocationList_of_compileLocations
    (ok : compileLocations platform upstreams nextId locations = .ok (compiled, endId)) :
    compileLocationList platform upstreams nextId locations = .ok (compiled, endId) := by
  obtain ⟨_, _, listOk⟩ := bind_eq_ok.mp ok
  exact listOk

private lemma next_add_ofNat (nextId : UInt64) (index : Nat) :
    nextId + 1 + UInt64.ofNat index = nextId + UInt64.ofNat (index + 1) := by
  rw [UInt64.add_assoc, UInt64.ofNat_add, UInt64.add_comm 1]
  rfl

/-- The locations keep their places and get consecutive route ids. -/
structure InPlace (platform : Platform) (upstreams : UpstreamTable) (nextRouteId : UInt64)
    (locations : List Location) (compiled : List CompiledLocation) : Prop where
  length : compiled.length = locations.length
  compiles : ∀ (index : Nat) (location : Location), locations[index]? = some location →
    ∃ result, compiled[index]? = some result ∧
      compileLocation platform upstreams location (nextRouteId + UInt64.ofNat index) =
        .ok (some result)

lemma InPlace.cons
    (here : compileLocation platform upstreams loc nextId = .ok (some first))
    (later : InPlace platform upstreams (nextId + 1) rest others) :
    InPlace platform upstreams nextId (loc :: rest) (first :: others) where
  length := by simp [later.length]
  compiles := by
    intro index src found
    cases index with
    | zero =>
      cases found
      exact ⟨first, rfl, by simpa using here⟩
    | succ index =>
      rw [← next_add_ofNat]
      exact later.compiles index src found

/-- Route ids count up from `nextRouteId`. -/
def Numbered (nextRouteId : UInt64) (compiled : List CompiledLocation) : Prop :=
  ∀ (index : Nat) (location : CompiledLocation), compiled[index]? = some location →
    location.routeId = nextRouteId + UInt64.ofNat index

lemma Numbered.cons (here : first.routeId = nextId)
    (later : Numbered (nextId + 1) others) : Numbered nextId (first :: others) := by
  intro index loc found
  cases index with
  | zero =>
    cases found
    simpa using here
  | succ index =>
    rw [← next_add_ofNat]
    exact later index loc found

lemma Numbered.append {left right : List CompiledLocation} (first : Numbered nextId left)
    (second : Numbered (nextId + UInt64.ofNat left.length) right) :
    Numbered nextId (left ++ right) := by
  intro index loc found
  by_cases inLeft : index < left.length
  · rw [getElem?_append_left inLeft] at found
    exact first index loc found
  · have after : left.length + (index - left.length) = index := by omega
    rw [getElem?_append_right (by omega)] at found
    rw [second _ loc found, UInt64.add_assoc, ← UInt64.ofNat_add, after]

lemma Numbered.injective (numbered : Numbered nextId compiled)
    (fits : compiled.length ≤ 2 ^ 64) {left right : CompiledLocation} (leftMember : left ∈ compiled)
    (rightMember : right ∈ compiled) (same : left.routeId = right.routeId) : left = right := by
  obtain ⟨leftIndex, leftAt⟩ := getElem?_of_mem leftMember
  obtain ⟨rightIndex, rightAt⟩ := getElem?_of_mem rightMember
  rw [numbered _ _ leftAt, numbered _ _ rightAt] at same
  have indices := congrArg UInt64.toNat ((UInt64.add_right_inj _).mp same)
  have leftBound := (List.getElem?_eq_some_iff.mp leftAt).1
  have rightBound := (List.getElem?_eq_some_iff.mp rightAt).1
  rw [UInt64.toNat_ofNat_of_lt' (leftBound.trans_le fits),
    UInt64.toNat_ofNat_of_lt' (rightBound.trans_le fits)] at indices
  rw [indices, rightAt] at leftAt
  exact (Option.some.inj leftAt).symm

private lemma numbered_compileLocationList
    (ok : compileLocationList platform upstreams nextId locations = .ok (compiled, endId)) :
    Numbered nextId compiled ∧ endId = nextId + UInt64.ofNat compiled.length ∧
      compiled.length ≤ locations.length := by
  induction locations generalizing nextId compiled with
  | nil =>
    cases ok
    exact ⟨fun index loc found => by simp at found, by simp, le_refl _⟩
  | cons loc rest ih =>
    rcases compileLocationList_cons ok with
      ⟨_, restOk⟩ | ⟨first, others, firstOk, restOk, rfl⟩
    · obtain ⟨numbered, last, length⟩ := ih restOk
      exact ⟨numbered, last, Nat.le_succ_of_le length⟩
    · obtain ⟨numbered, last, length⟩ := ih restOk
      refine ⟨numbered.cons (routeId_of_compileLocation firstOk), ?_, Nat.succ_le_succ length⟩
      rw [last, next_add_ofNat, length_cons]

private lemma inPlace_iff
    (ok : compileLocationList platform upstreams nextId locations = .ok (compiled, endId)) :
    InPlace platform upstreams nextId locations compiled ↔
      ∀ loc ∈ locations, Targets upstreams loc := by
  constructor
  · intro kept loc mem
    obtain ⟨index, found⟩ := getElem?_of_mem mem
    obtain ⟨res, _, compiles⟩ := kept.compiles index loc found
    exact (compileLocation_isSome compiles).mp rfl
  · intro targets
    induction locations generalizing nextId compiled with
    | nil =>
      cases ok
      exact ⟨rfl, fun index loc found => by simp at found⟩
    | cons loc rest ih =>
      obtain ⟨here, later⟩ := forall_mem_cons.mp targets
      rcases compileLocationList_cons ok with ⟨dropped, _⟩ | ⟨first, others, kept, restOk, rfl⟩
      · cases (compileLocation_isSome dropped).mpr here
      · exact InPlace.cons kept (ih restOk later)

lemma compileLocationList_of_compileServer {server : Server} {routes : ServerRoutes}
    (ok : compileServer platform router nextId server = .ok (routes, endId)) :
    compileLocationList platform router.upstreams nextId server.locations =
      .ok (routes.locations, endId) := by
  obtain ⟨_, _, _, _, ⟨locations, lastId⟩, locationsOk, ok⟩ := bind₃_eq_ok.mp ok
  obtain ⟨_, _, same⟩ := bind_eq_ok.mp ok
  cases same
  exact compileLocationList_of_compileLocations locationsOk

def locationCount (servers : List Server) : Nat :=
  (servers.map fun server => server.locations.length).sum

lemma numbered_compileServers
    (ok : compileServers platform router nextId servers = .ok routes) :
    Numbered nextId (routes.flatMap ServerRoutes.locations) ∧
      (routes.flatMap ServerRoutes.locations).length ≤ locationCount servers := by
  induction servers generalizing nextId routes with
  | nil =>
    cases ok
    exact ⟨fun index loc found => by simp at found, le_refl _⟩
  | cons server rest ih =>
    obtain ⟨⟨first, afterId⟩, firstOk, others, othersOk, same⟩ := bind₂_eq_ok.mp ok
    cases same
    have listOk := compileLocationList_of_compileServer firstOk
    obtain ⟨numbered, last, length⟩ := numbered_compileLocationList listOk
    obtain ⟨restNumbered, restLength⟩ := ih othersOk
    rw [flatMap_cons]
    constructor
    · exact numbered.append (last ▸ restNumbered)
    · rw [length_append, locationCount, map_cons, sum_cons]
      exact Nat.add_le_add length restLength

/-- On some address the block is the last one with some name, or the default. -/
def KeepsHost (http : Http) (block : Nat) : Prop :=
  ∃ key owner, owner.index = block ∧
    ((∃ name, (listenBlocks key 0 http.servers).reverse.find?
        (fun block => decide (name ∈ block.server.serverNames.map normalizeHostname)) =
          some owner) ∨
      Slots.holder ListenBlock.isDefaultServer ListenBlock.isUnnamed
        (listenBlocks key 0 http.servers) = some owner)

/-- The router has every location of every server, compiled with the route id of its
place. -/
def RoutesEvery (platform : Platform) (http : Http) (router : CompiledRouter) : Prop :=
  ∀ (block : Nat) (server : Server) (index : Nat) (location : Location),
    http.servers[block]? = some server → server.locations[index]? = some location →
      ∃ compiled ∈ routerLocations router,
        compileLocation platform router.upstreams location
          (1 + UInt64.ofNat (locationCount (http.servers.take block) + index)) =
            .ok (some compiled)

lemma mem_routerLocations {loc : CompiledLocation} : loc ∈ routerLocations router ↔
    ∃ key hosts, router.listeners.lookup key = some hosts ∧
      ∃ routes : ServerRoutes, loc ∈ routes.locations ∧
        ((∃ name, hosts.named.lookup name = some routes) ∨ hosts.default = some routes) := by
  simp only [routerLocations, mem_flatMap, mem_append, Table.mem_values_iff, mem_toList]
  constructor
  · rintro ⟨hosts, ⟨key, found⟩, routes, place, mem⟩
    exact ⟨key, hosts, found, routes, mem, place⟩
  · rintro ⟨key, hosts, found, routes, mem, place⟩
    exact ⟨hosts, ⟨key, found⟩, routes, place, mem⟩

lemma mem_routerLocations_iff {http : Http} (compiled : Compiled platform http router)
    {loc : CompiledLocation} : loc ∈ routerLocations router ↔
      ∃ block, KeepsHost http block ∧ loc ∈ (compiled.routesAt block).locations := by
  rw [mem_routerLocations]
  constructor
  · rintro ⟨key, hosts, found, routes, mem, place⟩
    have hostsEq := (compiled.contributionsAt_ne_nil found).2
    rw [compiled.contributionsAt_blocks] at hostsEq
    rcases place with ⟨name, named⟩ | default
    · rw [hostsEq, hostsOf_named, ← map_reverse, find?_map, Option.map_map,
        map_eq_some_iff] at named
      obtain ⟨owner, last, rfl⟩ := named
      exact ⟨owner.index, ⟨key, owner, rfl, .inl ⟨name, last⟩⟩, mem⟩
    · rw [hostsEq, hostsOf_default, Slots.holder_map, Option.map_map,
        map_eq_some_iff] at default
      obtain ⟨owner, holds, rfl⟩ := default
      exact ⟨owner.index, ⟨key, owner, rfl, .inr holds⟩, mem⟩
  · rintro ⟨_, ⟨key, owner, rfl, slot⟩, mem⟩
    have listens : owner ∈ listenBlocks key 0 http.servers := by
      rcases slot with ⟨name, last⟩ | holds
      · exact mem_reverse.mp (mem_of_find?_eq_some last)
      · exact Slots.holder_mem holds
    have found := compiled.listeners_lookup key
    rw [compiled.contributionsAt_blocks, if_neg (ne_nil_of_mem (mem_map_of_mem listens))] at found
    refine ⟨key, _, found, compiled.routesAt owner.index, mem, ?_⟩
    rw [hostsOf_default, Slots.holder_map, Option.map_map]
    rcases slot with ⟨name, last⟩ | holds
    · refine .inl ⟨name, ?_⟩
      rw [hostsOf_named, ← map_reverse, find?_map, Option.map_map]
      exact map_eq_some_iff.mpr ⟨owner, last, rfl⟩
    · exact .inr (map_eq_some_iff.mpr ⟨owner, holds, rfl⟩)

private lemma inPlace_of_compileServers
    (ok : compileServers platform router nextId servers = .ok routes)
    (targets : ∀ server ∈ servers, ∀ loc ∈ server.locations, Targets router.upstreams loc)
    {block : Nat} {server : Server} (found : servers[block]? = some server) :
    InPlace platform router.upstreams
      (nextId + UInt64.ofNat (locationCount (servers.take block))) server.locations
      (routes[block]?.getD {}).locations := by
  induction servers generalizing nextId routes block with
  | nil => cases found
  | cons first rest ih =>
    obtain ⟨⟨firstRoutes, afterId⟩, firstOk, others, othersOk, same⟩ := bind₂_eq_ok.mp ok
    cases same
    have listOk := compileLocationList_of_compileServer firstOk
    have here := (inPlace_iff listOk).mpr (targets first mem_cons_self)
    cases block with
    | zero =>
      cases found
      simpa [locationCount] using here
    | succ block =>
      have later := ih othersOk (fun other mem => targets other (mem_cons_of_mem _ mem)) found
      rwa [(numbered_compileLocationList listOk).2.1, here.length, UInt64.add_assoc,
        ← UInt64.ofNat_add] at later

private lemma locationCount_take_succ {block : Nat} {server : Server}
    (found : servers[block]? = some server) : locationCount (servers.take (block + 1)) =
      locationCount (servers.take block) + server.locations.length := by
  simp [locationCount, take_add_one, found]

private lemma locationCount_take_le (servers : List Server) {block later : Nat}
    (ordered : block ≤ later) :
    locationCount (servers.take block) ≤ locationCount (servers.take later) := by
  have split := congrArg locationCount (take_append_drop block (servers.take later))
  rw [take_take, min_eq_left ordered] at split
  rw [← split, locationCount, locationCount, map_append, sum_append]
  exact Nat.le_add_right _ _

/-- Places are told apart by the number of locations before them. -/
private lemma block_le_of_place_le {left right : Nat} {server : Server} {index other : Nat}
    (found : servers[right]? = some server) (inside : other < server.locations.length)
    (same : locationCount (servers.take left) + index =
      locationCount (servers.take right) + other) : left ≤ right := by
  by_contra after
  have next := locationCount_take_le servers (Nat.succ_le_of_lt (not_le.mp after))
  rw [locationCount_take_succ found] at next
  omega

private lemma place_lt {block index : Nat} {server : Server} (found : servers[block]? = some server)
    (inside : index < server.locations.length) :
    locationCount (servers.take block) + index < locationCount servers := by
  have next := locationCount_take_le servers
    (Nat.succ_le_of_lt (List.getElem?_eq_some_iff.mp found).1)
  rw [locationCount_take_succ found, take_length] at next
  omega

private lemma routesEvery_iff {http : Http} (compiled : Compiled platform http router)
    (fits : locationCount http.servers ≤ 2 ^ 64) :
    RoutesEvery platform http router ↔
      (∀ server ∈ http.servers, ∀ loc ∈ server.locations, Targets router.upstreams loc) ∧
        ∀ (block : Nat) (server : Server), http.servers[block]? = some server →
          server.locations ≠ [] → KeepsHost http block := by
  have inPlace (targets : ∀ server ∈ http.servers, ∀ loc ∈ server.locations,
      Targets router.upstreams loc) {block : Nat} {server : Server}
      (found : http.servers[block]? = some server) : InPlace platform router.upstreams
        (1 + UInt64.ofNat (locationCount (http.servers.take block))) server.locations
        (compiled.routesAt block).locations := by
    rw [← compiled.frame.upstreams] at targets ⊢
    exact inPlace_of_compileServers compiled.routesOk targets found
  constructor
  · intro every
    have targets : ∀ server ∈ http.servers, ∀ loc ∈ server.locations,
        Targets router.upstreams loc := by
      intro server mem loc inServer
      obtain ⟨block, found⟩ := getElem?_of_mem mem
      obtain ⟨index, place⟩ := getElem?_of_mem inServer
      obtain ⟨_, _, ok⟩ := every block server index loc found place
      exact (compileLocation_isSome ok).mp rfl
    refine ⟨targets, fun block server found nonempty => ?_⟩
    have inside := length_pos_iff.mpr nonempty
    obtain ⟨result, held, ok⟩ := every block server 0 _ found (getElem?_eq_getElem inside)
    obtain ⟨other, keeps, mem⟩ := (mem_routerLocations_iff compiled).mp held
    -- the route id tells which block the location is of
    have known : other < http.servers.length := by
      rw [← compileServers_length compiled.routesOk]
      by_contra beyond
      rw [Compiled.routesAt, getElem?_eq_none (not_lt.mp beyond)] at mem
      cases mem
    have otherFound := getElem?_eq_getElem known
    have otherPlace := inPlace targets otherFound
    obtain ⟨index, place⟩ := getElem?_of_mem mem
    have otherInside := (List.getElem?_eq_some_iff.mp place).1
    rw [otherPlace.length] at otherInside
    obtain ⟨again, samePlace, compiles⟩ :=
      otherPlace.compiles index _ (getElem?_eq_getElem otherInside)
    cases place.symm.trans samePlace
    have ids := (routeId_of_compileLocation ok).symm.trans (routeId_of_compileLocation compiles)
    rw [UInt64.add_assoc, ← UInt64.ofNat_add, UInt64.add_right_inj] at ids
    have same := congrArg UInt64.toNat ids
    rw [UInt64.toNat_ofNat_of_lt' ((place_lt found inside).trans_le fits),
      UInt64.toNat_ofNat_of_lt' ((place_lt otherFound otherInside).trans_le fits)] at same
    have equal : other = block := le_antisymm
      (block_le_of_place_le found inside same.symm) (block_le_of_place_le otherFound otherInside same)
    exact equal ▸ keeps
  · rintro ⟨targets, keeps⟩ block server index loc found place
    obtain ⟨result, here, ok⟩ := (inPlace targets found).compiles index loc place
    rw [UInt64.add_assoc, ← UInt64.ofNat_add] at ok
    refine ⟨result, (mem_routerLocations_iff compiled).mpr ⟨block, ?_, mem_of_getElem? here⟩, ok⟩
    exact keeps block server found (ne_nil_of_mem (mem_of_getElem? place))

/-- Compiling locations loses none of them exactly when every `proxy_pass` URL
gives a target; a whole configuration must also leave every block a host of its own. -/
theorem locations_kept_iff (platform : Platform) :
    (∀ upstreams nextRouteId locations compiled endId,
      compileLocations platform upstreams nextRouteId locations = .ok (compiled, endId) →
        (InPlace platform upstreams nextRouteId locations compiled ↔
          ∀ location ∈ locations, Targets upstreams location)) ∧
    (∀ http router, fromHttp platform http = .ok router → locationCount http.servers ≤ 2 ^ 64 →
      (RoutesEvery platform http router ↔
        (∀ server ∈ http.servers, ∀ location ∈ server.locations,
          Targets router.upstreams location) ∧
        ∀ (block : Nat) (server : Server), http.servers[block]? = some server →
          server.locations ≠ [] → KeepsHost http block)) := by
  constructor
  · intro upstreams nextRouteId locations compiled endId succeeds
    exact inPlace_iff (compileLocationList_of_compileLocations succeeds)
  · intro http router accepted fits
    obtain ⟨compiled⟩ := compiled_of_fromHttp accepted
    exact routesEvery_iff compiled fits

end Compiling

namespace FilesExample

def location (scheme : String) : Location where
  matcher := .pathPrefix "/files"
  directives := [.proxyPass (.url { scheme, host := some "files", path := "/" })]

def http (scheme : String) : Http where
  servers := [{ locations := [location scheme], listens := [{ port := 8080 }] }]

def host (name : String) : Server where
  serverNames := [name]
  locations := [location "http"]
  listens := [{ port := 8080 }]

def twoHosts : Http where
  servers := ["a.example", "b.example"].map host

end FilesExample

open FilesExample in
/-- An `ftp` URL has a host and a port, but the proxy does not speak the scheme:
the location is left out and the configuration is accepted. -/
theorem ftp_location_dropped :
    compileLocations platform ∅ 1 [location "ftp"] = .ok ([], 1) ∧
      (∃ router, fromHttp platform (http "ftp") = .ok router ∧
        router.listeners.values.all (fun hosts =>
          (hosts.named.values ++ hosts.default.toList).all fun routes =>
            routes.locations.isEmpty) = true) := by
  refine ⟨rfl, ?_⟩
  decide +kernel

open FilesExample in
/-- Two blocks share an address under different names. -/
theorem http_location_kept :
    (∃ compiled endId, compileLocations platform ∅ 1 [location "http"] = .ok (compiled, endId) ∧
      InPlace platform ∅ 1 [location "http"] compiled) ∧
    ∃ router, fromHttp platform twoHosts = .ok router ∧ RoutesEvery platform twoHosts router := by
  have targets (upstreams : UpstreamTable) : ∀ loc ∈ [location "http"], Targets upstreams loc := by
    intro source member url found
    rw [mem_singleton.mp member] at found
    cases mem_singleton.mp found
    exact Or.inr (by decide)
  obtain ⟨kept, routed⟩ := locations_kept_iff platform
  have run : ∃ compiled endId, compileLocations platform ∅ 1 [location "http"] =
      .ok (compiled, endId) := ⟨_, _, rfl⟩
  obtain ⟨compiled, endId, succeeds⟩ := run
  have accepted : ∃ router, fromHttp platform twoHosts = .ok router ∧ True := by decide +kernel
  obtain ⟨router, accepted, _⟩ := accepted
  refine ⟨⟨compiled, endId, succeeds, (kept _ _ _ _ _ succeeds).mpr (targets ∅)⟩, router, accepted,
    (routed _ router accepted (by decide)).mpr ⟨?_, fun block server found _ => ?_⟩⟩
  · intro server member
    obtain ⟨name, _, rfl⟩ := mem_map.mp member
    exact targets router.upstreams
  · obtain ⟨name, named, rfl⟩ : ∃ name, ["a.example", "b.example"][block]? = some name ∧
        host name = server := by
      rw [twoHosts, getElem?_map] at found
      exact map_eq_some_iff.mp found
    match block, named with
    | 0, _ => exact ⟨.ofListen { port := 8080 }, ⟨0, host "a.example", { port := 8080 }⟩, rfl,
        .inl ⟨"a.example", rfl⟩⟩
    | 1, _ => exact ⟨.ofListen { port := 8080 }, ⟨1, host "b.example", { port := 8080 }⟩, rfl,
        .inl ⟨"b.example", rfl⟩⟩

end Ngxora.Router
