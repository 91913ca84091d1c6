/-
The compilation of a whole configuration, in stages.
-/

import Ngxora.Router.VirtualHosts

namespace Ngxora.Router

open ListenerCell Table List Option Results

def compileServers (platform : Platform) (router : CompiledRouter) :
    UInt64 → List Server → Except String (List ServerRoutes)
  | _, [] => .ok []
  | nextRouteId, server :: rest => do
    let (routes, nextRouteId) ← compileServer platform router nextRouteId server
    pure (routes :: (← compileServers platform router nextRouteId rest))

def contributions (leConfig : Option LetsEncryptConfig) (servers : List Server)
    (routes : List ServerRoutes) : List Contribution :=
  (servers.zip routes).flatMap fun block =>
    block.1.listens.map (contribution leConfig block.1 block.2)

/-- A listen directive with its server block, whose number says who contributed. -/
structure ListenBlock where
  index : Nat
  server : Server
  listen : Listen

def listenBlocks (key : ListenKey) (start : Nat) (servers : List Server) : List ListenBlock :=
  ((servers.zipIdx start).flatMap fun entry =>
    entry.1.listens.map (ListenBlock.mk entry.2 entry.1)).filter fun block =>
      ListenKey.ofListen block.listen = key

def ListenBlock.isDefaultServer (block : ListenBlock) : Bool := block.listen.defaultServer

def ListenBlock.isUnnamed (block : ListenBlock) : Bool := block.server.serverNames.isEmpty

variable {left right : CompiledRouter}

lemma compileServer_congr {platform : Platform} (frame : SameFrame left right)
    (nextId : UInt64) (server : Server) : compileServer platform left nextId server =
      compileServer platform right nextId server := by
  have scpRoute : validateScpRoute left server.listens = validateScpRoute right server.listens := by
    funext location
    simp only [validateScpRoute, frame.scpProfiles, frame.httpOptions]
  simp only [compileServer, frame.upstreams, scpRoute]

lemma compileServers_congr {platform : Platform} (frame : SameFrame left right)
    (nextId : UInt64) (servers : List Server) :
    compileServers platform left nextId servers =
      compileServers platform right nextId servers := by
  induction servers generalizing nextId with
  | nil => rfl
  | cons server rest ih => simp only [compileServers, compileServer_congr frame, ih]

variable {nextId : UInt64} {servers : List Server}
variable {platform : Platform} {router : CompiledRouter}

/-- Servers that are added one by one are compiled first and give their listen directives after. -/
lemma addServers_stages {final : CompiledRouter} {lastId : UInt64}
    (ok : servers.foldlM (addServer platform) (router, nextId) = .ok (final, lastId)) :
    ∃ routes, compileServers platform router nextId servers = .ok routes ∧
      (contributions router.leConfig servers routes).foldlM addListen router = .ok final := by
  induction servers generalizing router nextId with
  | nil =>
    have same : router = final := congrArg Prod.fst (foldlM_nil_eq_ok.mp ok)
    exact ⟨[], rfl, foldlM_nil_eq_ok.mpr same⟩
  | cons server rest ih =>
    obtain ⟨⟨next, afterId⟩, headOk, restOk⟩ := foldlM_cons_eq_ok.mp ok
    obtain ⟨⟨routes, afterId⟩, compiled, added, listensOk, same⟩ := bind₂_eq_ok.mp headOk
    cases same
    obtain ⟨others, othersOk, addedOk⟩ := ih restOk
    have frame := addListens_frame listensOk
    refine ⟨routes :: others, ?_, ?_⟩
    · rw [compileServers, compiled]
      simp only [ok_bind, compileServers_congr frame, othersOk, pure_eq_ok]
    · rw [← frame.leConfig] at addedOk
      exact foldlM_append_eq_ok.mpr ⟨next, listensOk, addedOk⟩

lemma compileServers_forall₂ {routes : List ServerRoutes}
    (ok : compileServers platform router nextId servers = .ok routes) :
    List.Forall₂ (fun server routes => ∃ startId endId,
      compileServer platform router startId server = .ok (routes, endId)) servers routes := by
  induction servers generalizing nextId routes with
  | nil =>
    cases ok
    exact .nil
  | cons server rest ih =>
    obtain ⟨⟨first, afterId⟩, firstOk, others, othersOk, same⟩ := bind₂_eq_ok.mp ok
    cases same
    exact .cons ⟨nextId, afterId, firstOk⟩ (ih othersOk)

lemma compileServers_length {routes : List ServerRoutes}
    (ok : compileServers platform router nextId servers = .ok routes) :
    routes.length = servers.length :=
  (compileServers_forall₂ ok).length_eq.symm

lemma compileServers_getElem {routes : List ServerRoutes}
    (ok : compileServers platform router nextId servers = .ok routes) {index : Nat}
    {server : Server} (found : servers[index]? = some server) :
    ∃ result startId endId, routes[index]? = some result ∧
      compileServer platform router startId server = .ok (result, endId) := by
  obtain ⟨inside, rfl⟩ := List.getElem?_eq_some_iff.mp found
  have inRoutes : index < routes.length := compileServers_length ok ▸ inside
  obtain ⟨startId, endId, compiles⟩ := (compileServers_forall₂ ok).get inside inRoutes
  exact ⟨_, startId, endId, getElem?_eq_getElem inRoutes, compiles⟩

/-- The settings of the `http` block passed their checks. -/
structure OptionsValid (http : Http) : Prop where
  tcpNodelay : http.tcpNodelay = .on
  http2 : http.http2.validate = .ok ()
  realIp : ∀ config ∈ http.realIp, config.validate = .ok ()
  timeouts : ∀ timeout ∈ [http.clientHeaderTimeout, http.clientBodyTimeout, http.sendTimeout],
    validateClientTimeout timeout = .ok ()
  geoip : ∀ config ∈ http.geoip, config.validate = .ok ()

lemma optionsValid_of_validate {http : Http} (valid : validateHttpOptions http = .ok ()) :
    OptionsValid http := by
  obtain ⟨_, nodelayOk, _, http2Ok, _, realIpOk, valid⟩ := bind₃_eq_ok.mp valid
  obtain ⟨_, timeoutsOk, geoipOk⟩ := bind_eq_ok.mp valid
  have nodelay := rejectIf_eq_ok.mp nodelayOk
  refine ⟨?_, http2Ok, ?_, forM_eq_ok.mp timeoutsOk, ?_⟩
  · cases mode : http.tcpNodelay with
    | on => rfl
    | off =>
      rw [mode] at nodelay
      cases nodelay
  · exact fun config found => forM_eq_ok.mp realIpOk config (mem_toList.mpr found)
  · exact fun config found => forM_eq_ok.mp geoipOk config (mem_toList.mpr found)

/-- Every block is compiled first and the listen directives are added then, which changes
nothing that compiling a block reads. -/
structure Compiled (platform : Platform) (http : Http) (router : CompiledRouter) where
  base : CompiledRouter
  routes : List ServerRoutes
  optionsOk : validateHttpOptions http = .ok ()
  baseOk : initialRouter platform http = .ok base
  routesOk : compileServers platform base 1 http.servers = .ok routes
  listensOk : (contributions base.leConfig http.servers routes).foldlM addListen base =
    .ok router
  bodyTimeoutOk : ∀ server ∈ http.servers, validateBodyTimeout http server = .ok ()
  headerTimeoutOk : validateHeaderTimeout http = .ok ()

lemma compiled_of_fromHttp {http : Http} (ok : fromHttp platform http = .ok router) :
    Nonempty (Compiled platform http router) := by
  obtain ⟨_, optionsOk, base, baseOk, ⟨final, lastId⟩, serversOk, ok⟩ := bind₃_eq_ok.mp ok
  obtain ⟨_, bodyOk, _, headerOk, same⟩ := bind₂_eq_ok.mp ok
  cases same
  obtain ⟨routes, routesOk, listensOk⟩ := addServers_stages serversOk
  exact ⟨{
    base, routes, optionsOk, baseOk, routesOk, listensOk,
    bodyTimeoutOk := forM_eq_ok.mp bodyOk, headerTimeoutOk := headerOk }⟩

namespace Compiled

variable {platform : Platform} {http : Http} {router : CompiledRouter}
variable (compiled : Compiled platform http router)

def contributions : List Contribution :=
  Router.contributions compiled.base.leConfig http.servers compiled.routes

def contributionsAt (key : ListenKey) : List Contribution :=
  Router.contributionsAt key compiled.contributions

lemma frame : SameFrame compiled.base router := addListens_frame compiled.listensOk

lemma base_stages : compileUpstreams platform http.upstreams = .ok compiled.base.upstreams ∧
    http.scpProfiles.foldlM (addProfile platform compiled.base.upstreams) ∅ =
      .ok compiled.base.scpProfiles ∧ compiled.base =
      { geoip := http.geoip
        scpProfiles := compiled.base.scpProfiles
        upstreams := compiled.base.upstreams
        httpOptions := runtimeOptions http
        leConfig := http.sslProvider } := by
  obtain ⟨upstreams, upstreamsOk, rest⟩ := bind_eq_ok.mp compiled.baseOk
  obtain ⟨profiles, profilesOk, same⟩ := bind_eq_ok.mp rest
  have baseEq := Except.ok.inj same
  rw [← baseEq]
  exact ⟨upstreamsOk, profilesOk, rfl⟩

lemma base_tables : compiled.base.listeners = ∅ ∧ compiled.base.listenerProtocols = ∅ ∧
    compiled.base.listenerTls = ∅ := by
  rw [compiled.base_stages.2.2]
  exact ⟨rfl, rfl, rfl⟩

lemma base_leConfig : compiled.base.leConfig = http.sslProvider := by
  rw [compiled.base_stages.2.2]

def routesAt (block : Nat) : ServerRoutes := compiled.routes[block]?.getD {}

lemma contributionsAt_blocks (key : ListenKey) : compiled.contributionsAt key =
    (listenBlocks key 0 http.servers).map fun block =>
      contribution http.sslProvider block.server (compiled.routesAt block.index) block.listen := by
  have zipped : http.servers.zip compiled.routes =
      http.servers.zipIdx.map fun entry => (entry.1, compiled.routesAt entry.2) := by
    have lengths := compileServers_length compiled.routesOk
    refine List.ext_getElem (by simp [lengths]) fun index inZip _ => ?_
    have inRoutes : index < compiled.routes.length := by
      simp only [length_zip] at inZip
      omega
    simp [routesAt, getElem?_eq_getElem inRoutes]
  have mapped : (http.servers.zipIdx.flatMap fun entry => entry.1.listens.map
      (contribution http.sslProvider entry.1 (compiled.routesAt entry.2))) =
        (http.servers.zipIdx.flatMap fun entry =>
          entry.1.listens.map (ListenBlock.mk entry.2 entry.1)).map fun block =>
            contribution http.sslProvider block.server (compiled.routesAt block.index)
              block.listen := by
    simp only [map_flatMap, List.map_map]
    rfl
  rw [contributionsAt, Router.contributionsAt, contributions, Router.contributions, zipped,
    flatMap_map, compiled.base_leConfig, mapped, List.filter_map]
  rfl

include compiled

lemma upstreamsOk : compileUpstreams platform http.upstreams = .ok router.upstreams :=
  compiled.frame.upstreams ▸ compiled.base_stages.1

lemma profilesOk :
    http.scpProfiles.foldlM (addProfile platform router.upstreams) ∅ = .ok router.scpProfiles := by
  have stages := compiled.base_stages
  rw [← compiled.frame.upstreams, ← compiled.frame.scpProfiles]
  exact stages.2.1

lemma geoip_eq : router.geoip = http.geoip := by
  rw [← compiled.frame.geoip, compiled.base_stages.2.2]

lemma optionsValid : OptionsValid http := optionsValid_of_validate compiled.optionsOk

lemma httpOptions_eq : router.httpOptions = runtimeOptions http := by
  rw [← compiled.frame.httpOptions, compiled.base_stages.2.2]

lemma cellAt_eq (key : ListenKey) :
    cellAt router key = (compiled.contributionsAt key).foldl add {} := by
  obtain ⟨listeners, protocols, tls⟩ := compiled.base_tables
  rw [cellAt_addListens compiled.listensOk]
  simp only [cellAt, listeners, protocols, tls, AList.lookup_empty]
  rfl

lemma listeners_lookup (key : ListenKey) : router.listeners.lookup key =
    if compiled.contributionsAt key = [] then none
    else some (hostsOf (compiled.contributionsAt key)) := by
  have routes := congrArg ListenerCell.routes (compiled.cellAt_eq key)
  rwa [cell_routes] at routes

variable {key : ListenKey} {entry : Contribution} {hosts : VirtualHostRoutes} {name : String}
  {tls : ListenerTlsConfig}

lemma key_of_mem (mem : entry ∈ compiled.contributionsAt key) : entry.key = key := by
  simpa using (mem_filter.mp mem).2

lemma ssl_of_mem (mem : entry ∈ compiled.contributionsAt key) : entry.listen.ssl = key.ssl := by
  rw [← compiled.key_of_mem mem]
  rfl

lemma listenerTls_lookup (ssl : key.ssl = true) {first : Contribution} {rest : List Contribution}
    (shape : compiled.contributionsAt key = first :: rest) : router.listenerTls.lookup key =
      some (tlsOf (ListenerTlsSettings.ofOptions first.tlsOptions)
        (compiled.contributionsAt key)) := by
  have allSsl : ∀ entry ∈ first :: rest, entry.listen.ssl = true := by
    intro entry mem
    rw [compiled.ssl_of_mem (shape ▸ mem), ssl]
  have entry := congrArg tls (compiled.cellAt_eq key)
  rw [shape, cell_tls allSsl] at entry
  rwa [shape]

lemma listenerTls_plain (plain : key.ssl = false) : router.listenerTls.lookup key = none := by
  have entry := congrArg tls (compiled.cellAt_eq key)
  rwa [cell_tls_plain fun part mem => (compiled.ssl_of_mem mem).trans plain] at entry

lemma tlsOf_of_lookup (found : router.listenerTls.lookup key = some tls) :
    ∃ settings, tls = tlsOf settings (compiled.contributionsAt key) := by
  cases shape : compiled.contributionsAt key with
  | nil =>
    have entry := congrArg ListenerCell.tls (compiled.cellAt_eq key)
    rw [shape] at entry
    have absent : router.listenerTls.lookup key = none := entry
    rw [absent] at found
    cases found
  | cons first rest =>
    cases ssl : key.ssl with
    | false =>
      rw [compiled.listenerTls_plain ssl] at found
      cases found
    | true =>
      rw [compiled.listenerTls_lookup ssl shape] at found
      exact ⟨_, shape ▸ (Option.some.inj found).symm⟩

variable (ssl : key.ssl = true) (found : router.listeners.lookup key = some hosts)

include found

lemma contributionsAt_ne_nil :
    compiled.contributionsAt key ≠ [] ∧ hosts = hostsOf (compiled.contributionsAt key) := by
  rw [compiled.listeners_lookup] at found
  by_cases empty : compiled.contributionsAt key = []
  · simp [empty] at found
  · rw [if_neg empty] at found
    exact ⟨empty, (Option.some.inj found).symm⟩

lemma named_of_covers (mem : entry ∈ compiled.contributionsAt key)
    (covered : covers name entry = true) : name ∈ hosts.named := by
  have here : ((compiled.contributionsAt key).reverse.find? (covers name)).isSome = true :=
    find?_isSome.mpr ⟨entry, mem_reverse.mpr mem, covered⟩
  obtain ⟨last, lastFound⟩ := isSome_iff_exists.mp here
  rw [(compiled.contributionsAt_ne_nil found).2, mem_iff_lookup]
  exact ⟨last.routes, by rw [hostsOf_named, lastFound, map_some]⟩

lemma answers : (∃ name, name ∈ hosts.named) ∨ hosts.default.isSome = true := by
  obtain ⟨notEmpty, hostsEq⟩ := compiled.contributionsAt_ne_nil found
  obtain ⟨entry, mem⟩ := exists_mem_of_ne_nil _ notEmpty
  cases names : entry.serverNames with
  | nil =>
    right
    rw [hostsEq, hostsOf_default, isSome_map]
    exact Slots.holder_isSome mem (by simp [isUnnamed, names])
  | cons name rest =>
    left
    exact ⟨normalizeHostname name, compiled.named_of_covers found mem (by simp [covers, names])⟩

lemma normalized (here : name ∈ hosts.named) : normalizeHostname name = name := by
  obtain ⟨_, hostsEq⟩ := compiled.contributionsAt_ne_nil found
  obtain ⟨routes, named⟩ := mem_iff_lookup.mp here
  rw [hostsEq, hostsOf_named, map_eq_some_iff] at named
  obtain ⟨entry, entryFound, _⟩ := named
  have covered := find?_some entryFound
  obtain ⟨src, _, rfl⟩ := mem_map.mp (of_decide_eq_true covered)
  exact normalizeHostname_idem src

include ssl

lemma exists_listenerTls :
    ∃ first ∈ compiled.contributionsAt key, router.listenerTls.lookup key =
      some (tlsOf (ListenerTlsSettings.ofOptions first.tlsOptions)
        (compiled.contributionsAt key)) := by
  cases shape : compiled.contributionsAt key with
  | nil => exact absurd shape (compiled.contributionsAt_ne_nil found).1
  | cons first rest => exact ⟨first, mem_cons_self, shape ▸ compiled.listenerTls_lookup ssl shape⟩

lemma exists_identified (tlsFound : router.listenerTls.lookup key = some tls)
    (here : name ∈ tls.named) : tls.default.isSome = true ∧
      ∃ last ∈ identified (compiled.contributionsAt key), covers name last.1 = true := by
  obtain ⟨_, _, entry⟩ := compiled.exists_listenerTls ssl found
  rw [tlsFound, Option.some.injEq] at entry
  obtain ⟨identity, named⟩ := mem_iff_lookup.mp here
  rw [entry, tlsOf_named, map_eq_some_iff] at named
  obtain ⟨last, lastFound, _⟩ := named
  have mem := mem_reverse.mp (mem_of_find?_eq_some lastFound)
  rw [entry, tlsOf_default, isSome_map]
  exact ⟨Slots.holder_isSome mem rfl, last, mem, by simpa using find?_some lastFound⟩

lemma tls_named_included (tlsFound : router.listenerTls.lookup key = some tls)
    (here : name ∈ tls.named) : name ∈ hosts.named := by
  obtain ⟨last, mem, covered⟩ := (compiled.exists_identified ssl found tlsFound here).2
  exact compiled.named_of_covers found (mem_identified.mp mem).1 covered

end Compiled
end Ngxora.Router
