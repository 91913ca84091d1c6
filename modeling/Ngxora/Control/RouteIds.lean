/-
Route ids, and what a snapshot keeps under them. One id can stand at many listeners and names, but
always with the same location.
-/

import Ngxora.Control.Snapshot
import Ngxora.Router.Locations

namespace Ngxora.Control

open List Option Results Router

variable {Handle Material : Type}

variable {router : CompiledRouter} {location : CompiledLocation} {platform : Platform}

lemma mem_routes_of_mem_routerLocations {http : Http} (built : Compiled platform http router)
    (mem : location ∈ routerLocations router) :
    location ∈ built.routes.flatMap ServerRoutes.locations := by
  obtain ⟨block, _, mem⟩ := (mem_routerLocations_iff built).mp mem
  unfold Compiled.routesAt at mem
  cases found : built.routes[block]? with
  | none =>
    rw [found] at mem
    cases mem
  | some routes =>
    rw [found] at mem
    exact mem_flatMap.mpr ⟨routes, mem_of_getElem? found, mem⟩

lemma routeId_injective {http : Http} (built : Compiled platform http router)
    (fits : locationCount http.servers ≤ 2 ^ 64) {left right : CompiledLocation}
    (leftMember : left ∈ routerLocations router) (rightMember : right ∈ routerLocations router)
    (same : left.routeId = right.routeId) : left = right := by
  obtain ⟨numbered, length⟩ := numbered_compileServers built.routesOk
  exact numbered.injective (length.trans fits)
    (mem_routes_of_mem_routerLocations built leftMember)
    (mem_routes_of_mem_routerLocations built rightMember) same

def isWeighted : RouteTarget → Bool
  | .weightedBackends _ => true
  | .action _ => false

lemma lookup_backendCounters {routeId counter : UInt64} :
    (backendCounters router).lookup routeId = some counter ↔
      counter = 0 ∧ ∃ location ∈ routerLocations router,
        location.routeId = routeId ∧ isWeighted location.target = true := by
  unfold backendCounters
  generalize routerLocations router = locations
  induction locations using List.reverseRecOn with
  | nil => simp
  | append_singleton done location ih =>
    rw [foldl_append, foldl_cons, foldl_nil]
    simp only [mem_append, mem_singleton, or_and_right, exists_or, exists_eq_left]
    cases target : location.target with
    | action other =>
      have plain : isWeighted (.action other) = false := rfl
      simpa [plain] using ih
    | weightedBackends backends =>
      have weighted : isWeighted (.weightedBackends backends) = true := rfl
      rw [weighted, Table.lookup_insert_eq]
      by_cases same : routeId = location.routeId
      · rw [if_pos same, Option.some.injEq]
        exact ⟨fun zero => ⟨zero.symm, .inr ⟨same.symm, rfl⟩⟩, fun zero => zero.1.symm⟩
      · rw [if_neg same, ih]
        simp [Ne.symm same]

lemma lookup_pluginChains {builders : Builders Handle Material} {chains : Table UInt64 Material}
    (built : buildPluginChains builders router = .ok chains) :
    (∀ location ∈ routerLocations router, (chains.lookup location.routeId).isSome = true) ∧
      ∀ routeId chain, chains.lookup routeId = some chain →
        ∃ location ∈ routerLocations router, location.routeId = routeId ∧
          builders.buildChain location.plugins = .ok chain := by
  obtain ⟨here, loads⟩ := lookup_loadOnce built
  refine ⟨here, fun routeId chain found => ?_⟩
  obtain ⟨location, mem, idEq, loadOk⟩ := loads routeId chain found
  refine ⟨location, mem, idEq, ?_⟩
  cases out : builders.buildChain location.plugins with
  | error err => simp [out] at loadOk
  | ok res => simpa [out] using loadOk

/-- Two compiled locations with the same route id are equal, so plugin chains and
backend counters belong to one route.  A configuration in memory has fewer than
`2 ^ 64` locations. -/
theorem route_ids_identify_routes {platform : Platform} {http : Http} {router : CompiledRouter}
    (accepted : fromHttp platform http = .ok router) (fits : locationCount http.servers ≤ 2 ^ 64) :
    (∀ left ∈ routerLocations router, ∀ right ∈ routerLocations router,
      left.routeId = right.routeId → left = right) ∧
    ∀ {Handle Material : Type} (builders : Builders Handle Material) (version : String)
      (generation : UInt64) (previous : Option (RuntimeSnapshot Handle Material))
      (snapshot : RuntimeSnapshot Handle Material) (emptyPluginChain : Material),
      buildRuntimeSnapshot platform builders version router generation previous = .ok snapshot →
      (∀ routeId, (∃ location ∈ routerLocations router, location.routeId = routeId) ∨
        snapshot.pluginChain emptyPluginChain routeId = emptyPluginChain) ∧
      (∀ location ∈ routerLocations router, builders.buildChain location.plugins =
          .ok (snapshot.pluginChain emptyPluginChain location.routeId)) ∧
      (∀ location ∈ routerLocations router, isWeighted location.target = true →
        snapshot.backendCounters.lookup location.routeId = some 0 ∧
        ∀ other ∈ routerLocations router, other ≠ location → other.routeId ≠ location.routeId) := by
  obtain ⟨compiled⟩ := compiled_of_fromHttp accepted
  have unique : ∀ left ∈ routerLocations router, ∀ right ∈ routerLocations router,
      left.routeId = right.routeId → left = right :=
    fun _ leftMember _ rightMember => routeId_injective compiled fits leftMember rightMember
  refine ⟨unique, ?_⟩
  intro Handle Material builders version generation previous snapshot emptyPluginChain built
  have stages := built_of_build built
  obtain ⟨present, loads⟩ := lookup_pluginChains stages.pluginChainsOk
  refine ⟨?_, ?_, ?_⟩
  · intro routeId
    cases found : snapshot.pluginChains.lookup routeId with
    | none => exact Or.inr (by rw [RuntimeSnapshot.pluginChain, found, getD_none])
    | some chain =>
      obtain ⟨location, member, idEq, _⟩ := loads routeId chain found
      exact Or.inl ⟨location, member, idEq⟩
  · intro location member
    obtain ⟨chain, found⟩ := isSome_iff_exists.mp (present location member)
    obtain ⟨source, sourceMember, idEq, chainOk⟩ := loads _ chain found
    rw [← unique source sourceMember location member idEq, chainOk,
      RuntimeSnapshot.pluginChain, idEq, found, getD_some]
  · intro location member weighted
    constructor
    · rw [stages.countersEq, lookup_backendCounters]
      exact ⟨rfl, location, member, rfl, weighted⟩
    · intro other otherMember differ same
      exact differ (unique other otherMember location member same)

namespace AliasExample

def http : Http where
  servers :=
    [{ serverNames := ["a.example", "b.example"]
       locations := ["/one", "/two"].map fun path =>
         { matcher := .pathPrefix path
           directives := [.weightedBackends [{ weight := 1, target := .response 204 }]] }
       listens := [{ port := 8080 }, { port := 8081 }] }]

end AliasExample

open AliasExample in
theorem aliases_share_routes :
    ∃ router, fromHttp Reference.platform http = .ok router ∧
      (routerLocations router).map CompiledLocation.routeId = [1, 2, 1, 2, 1, 2, 1, 2] ∧
      ∀ left ∈ routerLocations router, ∀ right ∈ routerLocations router,
        left.routeId = right.routeId → left = right := by
  have run : ∃ router, fromHttp Reference.platform http = .ok router ∧
      (routerLocations router).map CompiledLocation.routeId = [1, 2, 1, 2, 1, 2, 1, 2] := by
    decide +kernel
  obtain ⟨router, accepted, ids⟩ := run
  exact ⟨router, accepted, ids, (route_ids_identify_routes accepted (by decide)).1⟩

end Ngxora.Control
