/- The compiler looks up what targets name, so a router has all that its locations refer to. -/

import Ngxora.Router.Locations

namespace Ngxora.Router

open List Results

def ActionResolves (upstreams : UpstreamTable) (profiles : Table String ScpProfile) :
    ActionTarget → Prop
  | .scp profile => (profiles.lookup profile).isSome = true
  | .upstreamGroup name _ => (upstreams.lookup (normalizeUpstreamName name)).isSome = true
  | .returnRedirect _ location => (expandReturn location "example.com" "/" "http").isOk = true
  | .directResponse _ | .httpRedirect _ | .proxyPass _ _ _ _ => True

def isBackend : ActionTarget → Bool
  | .directResponse _ | .proxyPass _ _ _ _ | .upstreamGroup _ _ => true
  | _ => false

/-- What the target names is in the router. -/
def TargetResolves (upstreams : UpstreamTable) (profiles : Table String ScpProfile) :
    RouteTarget → Prop
  | .action target => ActionResolves upstreams profiles target
  | .weightedBackends backends => ∀ backend ∈ backends, isBackend backend.target = true ∧
      ActionResolves upstreams profiles backend.target

/-- A group stands under its normalized name. -/
def Keyed (upstreams : UpstreamTable) : Prop :=
  ∀ key group, upstreams.lookup key = some group → normalizeUpstreamName group.name = key

variable {platform : Platform} {nextRouteId endId : UInt64} {router : CompiledRouter}
  {routes : ServerRoutes} {location : CompiledLocation}

lemma keyed_of_compileUpstreams {blocks : List UpstreamBlock} {upstreams : UpstreamTable}
    (built : compileUpstreams platform blocks = .ok upstreams) : Keyed upstreams := by
  intro key group found
  obtain ⟨groups, _, nodup, rfl⟩ := compileUpstreams_eq_ok.mp built
  exact ((Table.lookup_indexBy groupKey nodup).mp found).2

section Directives

variable {upstreams : UpstreamTable} (keyed : Keyed upstreams)
  (profiles : Table String ScpProfile)

include keyed

lemma group_resolves {key : String} {group : CompiledUpstreamGroup}
    (found : upstreams.lookup key = some group) (tls : Bool) :
    ActionResolves upstreams profiles (.upstreamGroup group.name tls) := by
  rw [ActionResolves, keyed key group found, found]
  rfl

variable {target : ActionTarget}

lemma proxyPassTarget_resolves {src : ProxyPassTarget}
    (built : proxyPassTarget upstreams src = .ok (some target)) :
    isBackend target = true ∧ ActionResolves upstreams profiles target := by
  cases src with
  | upstreamGroup name tls =>
    obtain ⟨group, found, _, _, same⟩ := bind₂_eq_ok.mp built
    cases same
    exact ⟨rfl, group_resolves keyed profiles (orFail_eq_ok.mp found) tls⟩
  | url url =>
    rcases proxyPassTarget_url_eq_some.mp built with ⟨group, tls, named, _, _, rfl⟩ | ⟨_, found⟩
    · refine ⟨rfl, ?_⟩
      unfold upstreamGroupFromUrl at named
      split at named
      · cases named
      · split at named
        · cases named
        · split at named
          · cases named
          · exact group_resolves keyed profiles named tls
    · obtain ⟨_, _, _, _, _, _, rfl⟩ := found
      exact ⟨rfl, trivial⟩

lemma backendTarget_resolves {source : BackendTarget}
    (built : backendTarget upstreams source = .ok (some target)) :
    isBackend target = true ∧ ActionResolves upstreams profiles target := by
  cases source with
  | upstream source => exact proxyPassTarget_resolves keyed profiles built
  | response status =>
    obtain ⟨_, _, same⟩ := bind_eq_ok.mp built
    cases same
    exact ⟨rfl, trivial⟩

lemma weightedBackends_resolve {sources : List WeightedBackend}
    {backends : List CompiledWeightedBackend}
    (built : sources.mapM (compileWeightedBackend upstreams) = .ok backends) :
    TargetResolves upstreams profiles (.weightedBackends backends) := by
  intro backend mem
  obtain ⟨src, _, built⟩ := mapM_mem built mem
  obtain ⟨_, _, target, targetOk, found, here, same⟩ := bind₃_eq_ok.mp built
  cases same
  rw [orFail_eq_ok.mp here] at targetOk
  exact backendTarget_resolves keyed profiles targetOk

lemma routeTargetFromDirective_resolves {directive : LocationDirective} {target : RouteTarget}
    (built : routeTargetFromDirective upstreams directive = .ok (some target)) :
    TargetResolves upstreams profiles target ∨ (∃ profile, target = .action (.scp profile)) ∨
      ∃ status location, target = .action (.returnRedirect status location) := by
  cases directive with
  | proxyPass src =>
    obtain ⟨found, foundOk, same⟩ := map_eq_ok.mp built
    obtain ⟨action, rfl, rfl⟩ := Option.map_eq_some_iff.mp same
    exact .inl (proxyPassTarget_resolves keyed profiles foundOk).2
  | directResponse status =>
    obtain ⟨found, foundOk, same⟩ := map_eq_ok.mp built
    obtain ⟨_, _, foundOk⟩ := bind_eq_ok.mp foundOk
    cases foundOk
    cases same
    exact .inl trivial
  | httpRedirect redirect =>
    cases built
    exact .inl trivial
  | weightedBackends sources =>
    obtain ⟨_, _, backends, backendsOk, same⟩ := bind₂_eq_ok.mp built
    cases same
    exact .inl (weightedBackends_resolve keyed profiles backendsOk)
  | scpPass profile =>
    cases built
    exact .inr (.inl ⟨profile, rfl⟩)
  | returnRedirect status location =>
    cases built
    exact .inr (.inr ⟨status, location, rfl⟩)
  | _ => cases built

end Directives

lemma exists_directive_of_routeTarget {upstreams : UpstreamTable}
    {directives : List LocationDirective} {target : RouteTarget}
    (built : routeTarget upstreams directives = .ok (some target)) : ∃ directive ∈ directives,
      routeTargetFromDirective upstreams directive = .ok (some target) := by
  induction directives with
  | nil => cases built
  | cons directive rest ih =>
    obtain ⟨found, foundOk, built⟩ := bind_eq_ok.mp built
    cases found with
    | none =>
      obtain ⟨other, mem, otherOk⟩ := ih built
      exact ⟨other, mem_cons_of_mem _ mem, otherOk⟩
    | some first =>
      cases built
      exact ⟨directive, mem_cons_self, foundOk⟩

lemma exists_source_of_compileLocationList {upstreams : UpstreamTable} {locations : List Location}
    {built : List CompiledLocation}
    (ok : compileLocationList platform upstreams nextRouteId locations = .ok (built, endId))
    {res : CompiledLocation} (mem : res ∈ built) : ∃ location ∈ locations, ∃ routeId,
      compileLocation platform upstreams location routeId = .ok (some res) := by
  induction locations generalizing nextRouteId built with
  | nil =>
    cases ok
    cases mem
  | cons location rest ih =>
    rcases compileLocationList_cons ok with
      ⟨_, restOk⟩ | ⟨first, others, firstOk, restOk, rfl⟩
    · obtain ⟨src, sourceMember, routeId, sourceOk⟩ := ih restOk mem
      exact ⟨src, mem_cons_of_mem _ sourceMember, routeId, sourceOk⟩
    · rcases mem_cons.mp mem with same | later
      · exact ⟨location, mem_cons_self, nextRouteId, same ▸ firstOk⟩
      · obtain ⟨src, sourceMember, routeId, sourceOk⟩ := ih restOk later
        exact ⟨src, mem_cons_of_mem _ sourceMember, routeId, sourceOk⟩

lemma target_resolves_of_compileServer (keyed : Keyed router.upstreams) {server : Server}
    (ok : compileServer platform router nextRouteId server = .ok (routes, endId))
    (mem : location ∈ routes.locations) :
    TargetResolves router.upstreams router.scpProfiles location.target := by
  obtain ⟨src, _, routeId, sourceOk⟩ :=
    exists_source_of_compileLocationList (compileLocationList_of_compileServer ok) mem
  obtain ⟨targetOk, validOk, _⟩ := compileLocation_eq_some sourceOk
  obtain ⟨directive, _, directiveOk⟩ := exists_directive_of_routeTarget targetOk
  rcases routeTargetFromDirective_resolves keyed router.scpProfiles directiveOk with
    resolves | ⟨profile, scp⟩ | ⟨status, tmpl, isReturn⟩
  · exact resolves
  · obtain ⟨_, _, _, _, ⟨locations, lastId⟩, _, ok⟩ := bind₃_eq_ok.mp ok
    obtain ⟨_, scpOk, same⟩ := bind_eq_ok.mp ok
    cases same
    have routeOk := forM_eq_ok.mp scpOk location mem
    rw [validateScpRoute, scp] at routeOk
    obtain ⟨_, known, _⟩ := bind_eq_ok.mp routeOk
    rw [rejectIf_eq_ok, Option.isNone_eq_false_iff] at known
    rwa [scp]
  · rw [isReturn] at validOk ⊢
    obtain ⟨_, _, _, expanded, _⟩ := bind₂_eq_ok.mp validOk
    change (expandReturn tmpl "example.com" "/" "http").isOk = true
    rw [expanded]
    rfl

lemma Compiled.target_resolves {http : Http} (built : Compiled platform http router)
    (routesMember : routes ∈ built.routes) (mem : location ∈ routes.locations) :
    TargetResolves router.upstreams router.scpProfiles location.target := by
  obtain ⟨server, _, startId, endId, serverOk⟩ :=
    exists_of_mem_right (compileServers_forall₂ built.routesOk) routesMember
  have keyed := keyed_of_compileUpstreams built.upstreamsOk
  rw [← built.frame.upstreams] at keyed ⊢
  rw [← built.frame.scpProfiles]
  exact target_resolves_of_compileServer keyed serverOk mem

end Ngxora.Router
