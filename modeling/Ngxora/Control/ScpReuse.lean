/-
Profiles of the service communication proxy across reloads.
-/

import Ngxora.Router.Uris
import Ngxora.Router.Blocks
import Ngxora.Control.Snapshot

namespace Ngxora.Control

open RuntimeScp Results Router

variable {Handle Material : Type}

variable {config : ScpProfile} {upstreams : UpstreamTable}

lemma RuntimeScp.new_eq_ok {platform : Platform} {builders : Builders Handle Material}
    {scp : RuntimeScp Handle} : new platform builders config upstreams = .ok scp ↔
      validateProfile platform upstreams config = .ok () ∧
        ApiRoot.parse platform config.apiRoot = .ok scp.root ∧
        List.Forall₂ (fun name group => upstreams.lookup name = some group)
          config.discoveryUpstreams scp.templates ∧
        List.Forall₂ (fun value root => ApiRoot.parse platform value = .ok root)
          config.allowedTargetApiRoots scp.allowed ∧
        scp.config = config ∧ scp.cache = builders.newScpCache config := by
  constructor
  · intro ok
    obtain ⟨_, valid, root, rootOk, templates, templatesOk, ok⟩ := bind₃_eq_ok.mp ok
    obtain ⟨allowed, allowedOk, same⟩ := bind_eq_ok.mp ok
    cases same
    refine ⟨valid, rootOk, ?_, mapM_eq_ok.mp allowedOk, rfl, rfl⟩
    exact (mapM_eq_ok.mp templatesOk).imp fun _ _ => orFail_eq_ok.mp
  · obtain ⟨root, ownConfig, templates, allowed, cache⟩ := scp
    rintro ⟨valid, rootOk, found, allowedOk, configEq, cacheEq⟩
    simp only at configEq cacheEq rootOk found allowedOk
    subst configEq cacheEq
    have templatesOk : (ownConfig.discoveryUpstreams.mapM fun name =>
        orFail (upstreams.lookup name) s!"scp references unknown discovery upstream `{name}`") =
          .ok templates := mapM_eq_ok.mpr (found.imp fun _ _ => orFail_eq_ok.mpr)
    simp [new, valid, rootOk, templatesOk, mapM_eq_ok.mpr allowedOk]

lemma RuntimeScp.exists_new {platform : Platform} (builders : Builders Handle Material)
    (valid : validateProfile platform upstreams config = .ok ()) :
    ∃ scp, new platform builders config upstreams = .ok scp := by
  obtain ⟨root, checked⟩ := otherChecks_of_valid valid
  obtain ⟨_, discovered⟩ := checked.discovery
  have templates : ∃ templates, (config.discoveryUpstreams.mapM fun name =>
      orFail (upstreams.lookup name) s!"scp references unknown discovery upstream `{name}`") =
        .ok templates := by
    apply exists_mapM_eq_ok
    intro name mem
    obtain ⟨_, _, stepOk⟩ := exists_step_of_foldlM discovered name mem
    obtain ⟨group, found, _⟩ := bind_eq_ok.mp stepOk
    exact ⟨group, orFail_eq_ok.mpr (orFail_eq_ok.mp found)⟩
  have allowed : ∃ allowed,
      config.allowedTargetApiRoots.mapM (ApiRoot.parse platform) = .ok allowed := by
    apply exists_mapM_eq_ok
    intro value mem
    obtain ⟨target, targetOk, _⟩ := checked.targets value mem
    exact ⟨target, targetOk⟩
  obtain ⟨templates, templatesOk⟩ := templates
  obtain ⟨allowed, allowedOk⟩ := allowed
  simp [new, valid, checked.apiRoot, templatesOk, allowedOk]

/-- A reload that changes neither the profile nor its groups. -/
structure Unchanged (before after : CompiledRouter) (name : String) (profile : ScpProfile) :
    Prop where
  declared : after.scpProfiles.lookup name = some profile
  groups : ∀ upstream ∈ profile.discoveryUpstreams,
    after.upstreams.lookup upstream = before.upstreams.lookup upstream

/-- The profile passes the check and every such reload keeps it. -/
structure Reused (platform : Platform) (router : CompiledRouter) (name : String)
    (profile : ScpProfile) (scp : RuntimeScp Handle) : Prop where
  fits : scp.matches profile router.upstreams = true
  kept : ∀ {Material : Type} (builders : Builders Handle Material)
    (previous : RuntimeSnapshot Handle Material) (after : CompiledRouter)
    (profiles : Table String (RuntimeScp Handle)),
    Unchanged router after name profile → previous.scpProfiles.lookup name = some scp →
      buildScpProfiles platform builders after (some previous) = .ok profiles →
      profiles.lookup name = some scp

/-- `matches` looks a group up by its declared name; the table of groups is keyed by the
normalized name. -/
def NamedAsDeclared (http : Http) (profile : ScpProfile) : Prop :=
  ∀ upstream ∈ http.upstreams, normalizeUpstreamName upstream.name ∈ profile.discoveryUpstreams →
    upstream.name = normalizeUpstreamName upstream.name

lemma matches_of_templates {scp : RuntimeScp Handle} {profile : ScpProfile}
    (config : scp.config = profile) : scp.matches profile upstreams = true ↔
      ∀ group ∈ scp.templates, upstreams.lookup group.name = some group := by
  simp [RuntimeScp.matches, config]

section Names

variable {platform : Platform} {http : Http} {router : CompiledRouter}

variable {name : String}

lemma upstream_of_lookup
    (built : compileUpstreams platform http.upstreams = .ok router.upstreams)
    {group : CompiledUpstreamGroup} (found : router.upstreams.lookup name = some group) :
    normalizeUpstreamName group.name = name ∧
      ∃ upstream ∈ http.upstreams, upstream.name = group.name := by
  obtain ⟨groups, rel, nodup, table⟩ := compileUpstreams_eq_ok.mp built
  rw [table, Table.lookup_indexBy groupKey nodup] at found
  obtain ⟨mem, key⟩ := found
  obtain ⟨upstream, declared, compiles⟩ := exists_of_mem_right rel mem
  exact ⟨key, upstream, declared, compiles.name_eq.symm⟩

lemma lookup_of_upstream (built : compileUpstreams platform http.upstreams = .ok router.upstreams)
    {upstream : UpstreamBlock} (declared : upstream ∈ http.upstreams) :
    ∃ group, router.upstreams.lookup (normalizeUpstreamName upstream.name) = some group ∧
      group.name = upstream.name := by
  obtain ⟨groups, rel, nodup, table⟩ := compileUpstreams_eq_ok.mp built
  obtain ⟨group, mem, compiles⟩ := exists_of_mem_left rel declared
  refine ⟨group, ?_, compiles.name_eq⟩
  rw [table, Table.lookup_indexBy groupKey nodup]
  exact ⟨mem, by rw [groupKey, compiles.name_eq]⟩

variable {scp : RuntimeScp Handle} {profile : ScpProfile}

lemma templates_found_iff
    (built : compileUpstreams platform http.upstreams = .ok router.upstreams)
    (templates : List.Forall₂ (fun name group => router.upstreams.lookup name = some group)
      profile.discoveryUpstreams scp.templates) :
    (∀ group ∈ scp.templates, router.upstreams.lookup group.name = some group) ↔
      NamedAsDeclared http profile := by
  constructor
  · intro found upstream declared referenced
    obtain ⟨group, lookup, sameName⟩ := lookup_of_upstream built declared
    obtain ⟨tmpl, mem, templateLookup⟩ := exists_of_mem_left templates referenced
    have same : tmpl = group := Option.some.inj (templateLookup.symm.trans lookup)
    subst same
    have key := (upstream_of_lookup built (found tmpl mem)).1
    rw [← sameName]
    exact key.symm
  · intro asDeclared group mem
    obtain ⟨name, referenced, lookup⟩ := exists_of_mem_right templates mem
    obtain ⟨key, upstream, declared, sameName⟩ := upstream_of_lookup built lookup
    rw [← sameName] at key
    have spelled := asDeclared upstream declared (key ▸ referenced)
    rwa [← sameName, spelled, key]

lemma kept_of_fits {after : CompiledRouter}
    (built : compileUpstreams platform http.upstreams = .ok router.upstreams)
    (templates : List.Forall₂ (fun name group => router.upstreams.lookup name = some group)
      profile.discoveryUpstreams scp.templates)
    (found : ∀ group ∈ scp.templates, router.upstreams.lookup group.name = some group)
    (unchanged : Unchanged router after name profile) :
    ∀ group ∈ scp.templates, after.upstreams.lookup group.name = some group := by
  intro group mem
  obtain ⟨referencedName, referenced, lookup⟩ := exists_of_mem_right templates mem
  have here := found group mem
  have sameName : referencedName = group.name :=
    (upstream_of_lookup built lookup).1.symm.trans (upstream_of_lookup built here).1
  rw [← sameName] at here ⊢
  rwa [unchanged.groups referencedName referenced]

end Names

/-- Every accepted profile can be built.  It fits its own configuration and is kept by
reloads that leave it unchanged exactly when the groups it names are declared under
their normalized names. -/
theorem scp_profile_reused_iff {platform : Platform} {http : Http} {router : CompiledRouter}
    (accepted : fromHttp platform http = .ok router) {name : String} {profile : ScpProfile}
    (declared : router.scpProfiles.lookup name = some profile)
    (builders : Builders Handle Material) :
    ∃ scp, new platform builders profile router.upstreams = .ok scp ∧
      (Reused platform router name profile scp ↔ NamedAsDeclared http profile) := by
  obtain ⟨compiled⟩ := compiled_of_fromHttp accepted
  have valid := validate_of_lookup compiled.profilesOk declared
  obtain ⟨scp, newOk⟩ := exists_new builders valid
  obtain ⟨_, _, templates, _, config, _⟩ := new_eq_ok.mp newOk
  refine ⟨scp, newOk, ?_⟩
  rw [← templates_found_iff compiled.upstreamsOk templates, ← matches_of_templates config]
  constructor
  · exact Reused.fits
  · intro fits
    refine ⟨fits, ?_⟩
    intro Material builders previous after profiles unchanged running built
    have found := (matches_of_templates config).mp fits
    have fitsAfter : scp.matches profile after.upstreams = true :=
      (matches_of_templates config).mpr
        (kept_of_fits compiled.upstreamsOk templates found unchanged)
    have related := Table.lookup_traverse built name
    rw [unchanged.declared] at related
    generalize profiles.lookup name = result at related ⊢
    cases related with
    | some stepOk =>
      simp only [Option.bind_some, running, Option.filter_some, fitsAfter, if_true] at stepOk
      rw [Except.ok.inj stepOk]

namespace ProfileExample

def profile : ScpProfile where
  name := "core"
  apiRoot := "http://scp.example:8080"
  discoveryUpstreams := ["smf"]

def http (name : String) : Http where
  upstreams :=
    [{ allowEmpty := false
       name
       policy := .roundRobin
       hashKey := none
       servers := []
       nrfDiscovery := some
         { apiRoot := "http://nrf.example/nnrf-disc/v1"
           targetNfType := "SMF"
           requesterNfType := "SCP"
           serviceName := "nsmf-pdusession"
           endpointScheme := .http
           timeout := Duration.fromMillis 3000
           staleIfError := Duration.fromMillis 60000
           tlsOptions := {} }
       healthCheck := some
         { checkType := .tcp
           timeout := Duration.fromMillis 1000
           interval := Duration.fromMillis 5000
           consecutiveSuccess := 1
           consecutiveFailure := 1 } }]
  scpProfiles := [profile]

def builders (number : Nat) : Builders Nat Unit := .constant number ()

end ProfileExample

open ProfileExample in
/-- A group declared as `SMF` and named `smf` by the profile: building the same
configuration again replaces the cache. -/
theorem uppercase_group_discards_cache :
    ∃ router scp active profiles,
      fromHttp uriPlatform (http "SMF") = .ok router ∧
      new uriPlatform (builders 1) profile router.upstreams = .ok scp ∧
      scp.matches profile router.upstreams = false ∧
      buildRuntimeSnapshot uriPlatform (builders 1) "v1" router 1 none = .ok active ∧
      buildScpProfiles uriPlatform (builders 2) router (some active) = .ok profiles ∧
      (active.scpProfiles.lookup "core").map cache = some 1 ∧
      (profiles.lookup "core").map cache = some 2 := by
  simp only [exists_and_left]
  decide +kernel

open ProfileExample in
theorem lowercase_group_keeps_cache :
    ∃ router scp, fromHttp uriPlatform (http "smf") = .ok router ∧
      new uriPlatform (builders 1) profile router.upstreams = .ok scp ∧
      Reused uriPlatform router "core" profile scp := by
  have run : ∃ router, fromHttp uriPlatform (http "smf") = .ok router ∧
      router.scpProfiles.lookup "core" = some profile := by decide +kernel
  obtain ⟨router, accepted, declared⟩ := run
  obtain ⟨scp, newOk, reused⟩ := scp_profile_reused_iff accepted declared (builders 1)
  have normalized : NamedAsDeclared (http "smf") profile := by
    intro upstream member _
    rw [List.mem_singleton.mp member]
    decide +kernel
  exact ⟨router, scp, accepted, newOk, reused.mpr normalized⟩

end Ngxora.Control
