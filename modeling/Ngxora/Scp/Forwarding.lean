/-
Where an SCP profile forwards requests to.
-/

import Ngxora.Control.ScpReuse
import Ngxora.Router.ApiRoots
import Ngxora.Scp.Threads

namespace Ngxora.Scp

open Program Bool List Option Results Router Http
open Control (RuntimeScp)
open Nrf (NrfQuery ScpError SearchResult)

variable {Selector Handle : Type}

/-- The scheme of the template that the profile has under the name of the group's own. It is the
group's own when no two templates have the same name. -/
def EndpointScheme (profile : RuntimeScp Handle) (own : Template) (scheme : String) : Prop :=
  (∃ template, (templatesOf profile).find? (fun template =>
      template.group.name = own.group.name) = some template ∧
        scheme = templateScheme template.nrf) ∧
    (((templatesOf profile).map fun template => template.group.name).Nodup →
      scheme = templateScheme own.nrf)

/-- The exchange goes to an endpoint of a discovered group. -/
structure FromGroup (host : Host Selector) (profile : RuntimeScp Handle)
    (request : ScpRequest) (exchange : ScpExchange) (shared : Shared Selector) (handle : Nat)
    (group : Group Selector) : Prop where
  reference : exchange.group = some handle
  found : shared.groups[handle]? = some group
  template : group.template ∈ templatesOf profile
  query : request.discovery = true → group.query = request.query
  backend : group.Discovered host exchange.backend
  root : ∃ scheme, backendRoot host.platform exchange.backend scheme = some exchange.root ∧
    (request.discovery = false → SplitsUris host.platform →
      EndpointScheme profile group.template scheme)

/-- The exchange goes to an allowed target. -/
structure FromAllowed (profile : RuntimeScp Handle) (request : ScpRequest)
    (exchange : ScpExchange) : Prop where
  reference : exchange.group = none
  direct : request.discovery = false
  allowed : exchange.root ∈ profile.allowed
  backend : exchange.backend = rootBackend exchange.root

/-- Where an exchange may go. -/
structure Sent (host : Host Selector) (profile : RuntimeScp Handle) (request : ScpRequest)
    (exchange : ScpExchange) (shared : Shared Selector) : Prop where
  sameRequest : exchange.request = request
  notOwn : ownAuthority profile.root exchange.root = false
  direct : request.discovery = false → request.target = some exchange.root
  origin : FromAllowed profile request exchange ∨
    ∃ handle group, FromGroup host profile request exchange shared handle group

variable {request : ScpRequest} {exchange : ScpExchange} {before after : Shared Selector}
  {retried : List (Bool × ScpExchange)} {place : Nat} {headers : HeaderMap}
  {shared : Shared Selector} {group : Group Selector} {backend : CompiledUpstreamServer}

section Programs

variable {host : Host Selector} {profile : RuntimeScp Handle} {thread handle : Nat}

lemma FromGroup.later (known : FromGroup host profile request exchange before handle group)
    (growth : Grows before after) :
    ∃ later, FromGroup host profile request exchange after handle later := by
  obtain ⟨later, found, cont⟩ := growth handle group known.found
  exact ⟨later,
    { reference := known.reference
      found
      template := cont.template ▸ known.template
      query := fun discovery => cont.query.trans (known.query discovery)
      backend := cont.discovered known.backend
      root := by
        rw [cont.template]
        exact known.root }⟩

lemma Sent.later (growth : Grows before after)
    (sent : Sent host profile request exchange before) :
    Sent host profile request exchange after where
  sameRequest := sent.sameRequest
  notOwn := sent.notOwn
  direct := sent.direct
  origin := by
    rcases sent.origin with allowed | ⟨handle, group, known⟩
    · exact .inl allowed
    · obtain ⟨later, knownLater⟩ := known.later growth
      exact .inr ⟨handle, later, knownLater⟩

/-- `post` holds at the end, whatever other requests, maintenance and refreshes do. -/
abbrev Ensures {α : Type} (host : Host Selector) (profile : RuntimeScp Handle) (thread : Nat)
    (post : α → Shared Selector → Prop) (program : Run α) (shared : Shared Selector) : Prop :=
  Safe (perform host profile thread) (Shared.Valid host profile) Grows post program shared

variable {α : Type} {accept : CompiledUpstreamServer → Bool}
  {result : Option CompiledUpstreamServer} {root : ApiRoot} {entries : List (CacheKey × Nat)}

private lemma ensures_fact {fact : Shared Selector → Prop}
    (stable : ∀ {before after : Shared Selector}, Grows before after → fact before → fact after)
    (program : Run α) (holds : fact shared) :
    Ensures host profile thread (fun _ later => fact later) program shared :=
  Safe.keep (fun _ _ growth => stable growth)
    (fun _ _ _ _ _ done => perform_grows done) program holds

private lemma ensures_bind {β : Type} {middle : α → Shared Selector → Prop}
    {last : β → Shared Selector → Prop} {program : Run α} {next : α → Run β}
    (first : Ensures host profile thread middle program shared)
    (second : ∀ value later, later.Valid host profile → middle value later →
      Ensures host profile thread last (next value) later) :
    Ensures host profile thread last (program >>= next) shared :=
  Safe.bind Grows.refl first second

def Selected (host : Host Selector) (handle : Nat) (accept : CompiledUpstreamServer → Bool)
    (result : Option CompiledUpstreamServer) (shared : Shared Selector) : Prop :=
  ∀ backend ∈ result, accept backend = true ∧
    ∃ group, shared.groups[handle]? = some group ∧ group.Discovered host backend

lemma Selected.later (growth : Grows before after)
    (selected : Selected host handle accept result before) :
    Selected host handle accept result after := by
  intro backend chosen
  obtain ⟨ok, group, found, discovered⟩ := selected backend chosen
  obtain ⟨later, foundLater, cont⟩ := growth handle group found
  exact ⟨ok, later, foundLater, cont.discovered discovered⟩

private lemma ensures_scpSelect (handle : Nat) (key : List UInt8)
    (accept : CompiledUpstreamServer → Bool) (shared : Shared Selector) :
    Ensures host profile thread (Selected host handle accept) (scpSelect handle key accept)
      shared := by
  intro now _ _ _ after answer _
  cases answer with
  | error _ => exact fun _ _ _ _ bad => nomatch bad
  | ok _ =>
    intro now _ ok outside after result done
    obtain ⟨group, found, same⟩ := map_eq_some_iff.mp done
    cases same
    rintro later growth _ backend chosen
    obtain ⟨snap, here, chosen⟩ := bind_eq_some_iff.mp chosen
    have sound := ok.groups handle group found
    obtain ⟨accepted, discovered⟩ :=
      Nrf.accepted_of_choose (sound.endpoints.group.selection snap here) chosen
    have selected : Selected host handle accept (some backend) now := by
      rintro _ ⟨⟩
      exact ⟨accepted, group, found, discovered⟩
    exact selected.later growth backend rfl

def Queries (handle : Nat) (query : NrfQuery) (shared : Shared Selector) : Prop :=
  ∃ group, shared.groups[handle]? = some group ∧ group.query = query

lemma Queries.later {query : NrfQuery} (growth : Grows before after)
    (known : Queries handle query before) : Queries handle query after := by
  obtain ⟨group, found, same⟩ := known
  obtain ⟨later, foundLater, cont⟩ := growth handle group found
  exact ⟨later, foundLater, cont.query.trans same⟩

private lemma ensures_enter (key : CacheKey) (tmpl : Template) (shared : Shared Selector) :
    Ensures host profile thread
      (fun result later => ∀ handle, result = .ok handle → Queries handle key.query later)
      (enter key tmpl) shared := by
  apply Safe.ask
  intro now _ ok outside after answer done later growth _ handle same
  cases same
  refine Queries.later growth ?_
  cases entered_of_perform done with
  | hit entry found =>
    obtain ⟨group, here, serves⟩ := ok.cached key entry found
    exact ⟨group, here, serves.2⟩
  | built cache absent room => exact ⟨_, getElem?_concat_length, rfl⟩

private lemma ensures_discovered (request : ScpRequest) (shared : Shared Selector) :
    Ensures host profile thread
      (fun result later => ∀ handle, result = .ok handle → Queries handle request.query later)
      (discovered profile request) shared := by
  unfold discovered
  split
  · exact fun _ _ _ _ bad => nomatch bad
  next tmpl selected =>
    refine ensures_bind (ensures_enter _ tmpl shared) ?_
    intro entered later _ known
    cases entered with
    | error error => exact fun _ _ _ _ bad => nomatch bad
    | ok handle =>
      refine ensures_bind (ensures_fact Queries.later (awaitDiscovery handle) (known handle rfl)) ?_
      intro ready later _ known
      cases ready with
      | false =>
        refine ensures_bind (ensures_fact Queries.later (drop handle) known) ?_
        exact fun _ _ _ _ _ _ _ _ bad => nomatch bad
      | true =>
        refine ensures_bind (ensures_fact Queries.later (status handle) known) ?_
        intro checked later _ known
        cases checked with
        | error error =>
          refine ensures_bind (ensures_fact Queries.later (drop handle) known) ?_
          exact fun _ _ _ _ _ _ _ _ bad => nomatch bad
        | ok _ =>
          rintro final growth _ _ ⟨⟩
          exact Queries.later growth known

private lemma ensures_nothing (program : Run α) (shared : Shared Selector) :
    Ensures host profile thread (fun _ _ => True) program shared :=
  ensures_fact (fun _ holds => holds) program trivial

def RoutedOk (host : Host Selector) (profile : RuntimeScp Handle) (request : ScpRequest)
    (routed : Routed) (shared : Shared Selector) : Prop :=
  match routed with
  | .exchange exchange => Sent host profile request exchange shared ∧ exchange.attempted = []
  | .refused _ => True
  | .panicked => False

private lemma sent_of_selected (ok : shared.Valid host profile)
    (selected : Selected host handle accept (some exchange.backend) shared)
    (sameRequest : exchange.request = request) (reference : exchange.group = some handle)
    (notOwn : ownAuthority profile.root exchange.root = false)
    (direct : request.discovery = false → request.target = some exchange.root)
    (query : request.discovery = true → Queries handle request.query shared)
    {scheme : String}
    (root : backendRoot host.platform exchange.backend scheme = some exchange.root)
    (endpoint : request.discovery = false → SplitsUris host.platform → ∀ group,
      shared.groups[handle]? = some group → EndpointScheme profile group.template scheme) :
    Sent host profile request exchange shared := by
  obtain ⟨_, group, found, discovered⟩ := selected exchange.backend rfl
  refine ⟨sameRequest, notOwn, direct, .inr ⟨handle, group, reference, found,
    (ok.groups handle group found).template, fun discovery => ?_, discovered, scheme, root,
    fun direct splits => endpoint direct splits group found⟩⟩
  obtain ⟨other, foundOther, same⟩ := query discovery
  rw [found] at foundOther
  cases foundOther
  exact same

/-- The groups of the entries have templates of the profile, under the names in the keys. -/
def AllNamed (profile : RuntimeScp Handle) (entries : List (CacheKey × Nat))
    (shared : Shared Selector) : Prop :=
  ∀ entry ∈ entries, ∃ group, shared.groups[entry.2]? = some group ∧
    group.template ∈ templatesOf profile ∧ group.template.group.name = entry.1.upstream

lemma AllNamed.later (growth : Grows before after)
    (named : AllNamed profile entries before) : AllNamed profile entries after := by
  intro entry mem
  obtain ⟨group, found, known, name⟩ := named entry mem
  obtain ⟨later, foundLater, cont⟩ := growth entry.2 group found
  exact ⟨later, foundLater, cont.template ▸ known, cont.template ▸ name⟩

private lemma endpointScheme_of_find {own template : Template} (known : own ∈ templatesOf profile)
    (found : (templatesOf profile).find? (fun template =>
      template.group.name = own.group.name) = some template) :
    EndpointScheme profile own (templateScheme template.nrf) := by
  refine ⟨⟨template, found, rfl⟩, fun distinct => ?_⟩
  have name : template.group.name = own.group.name := by
    simpa using find?_some found
  have same : template = own := inj_on_of_nodup_map distinct (mem_of_find?_eq_some found) known name
  rw [same]

private lemma ensures_scanCache (ip : List UInt8) (isDirect : request.discovery = false)
    (target : request.target = some root) (notOwn : ownAuthority profile.root root = false)
    (unavailable : Option ScpError) (named : AllNamed profile entries shared) :
    Ensures host profile thread (RoutedOk host profile request)
      (scanCache host.platform profile request root ip entries unavailable) shared := by
  induction entries generalizing unavailable shared with
  | nil =>
    refine ensures_bind (ensures_nothing unlock shared) ?_
    exact fun _ _ _ _ _ _ _ => trivial
  | cons entry rest ih =>
    obtain ⟨key, handle⟩ := entry
    have next (shared : Shared Selector) (unavailable : Option ScpError)
        (named : AllNamed profile ((key, handle) :: rest) shared) :=
      ih unavailable fun entry mem => named entry (mem_cons_of_mem _ mem)
    unfold scanCache
    split
    next missing =>
      obtain ⟨group, _, here, name⟩ := named (key, handle) mem_cons_self
      exact absurd (decide_eq_true name) (find?_eq_none.mp missing group.template here)
    next tmpl isTemplate =>
      refine ensures_bind (ensures_fact AllNamed.later (candidates handle) named) ?_
      intro backends shared _ named
      split
      · exact next shared unavailable named
      · refine ensures_bind (ensures_fact AllNamed.later (touch key) named) ?_
        intro _ shared _ named
        refine ensures_bind (ensures_fact AllNamed.later (unavailability handle) named) ?_
        intro unavailable shared _ named
        refine ensures_bind ((ensures_scpSelect handle ip _ shared).and
          (ensures_fact AllNamed.later _ named)) ?_
        rintro selected shared ok ⟨chosen, named⟩
        cases selected with
        | none => exact next shared (some unavailable) named
        | some backend =>
          have accepted := of_decide_eq_true (chosen backend rfl).1
          obtain ⟨group, found, known, name⟩ := named (key, handle) mem_cons_self
          have sent : Sent host profile request
              { request, root, backend, group := some handle, key := ip } shared := by
            refine sent_of_selected ok chosen rfl rfl notOwn (fun _ => target)
              (fun discovery => absurd (isDirect.symm.trans discovery) false_ne_true)
              accepted fun _ _ other foundOther => ?_
            cases Option.some.inj (found.symm.trans foundOther)
            exact endpointScheme_of_find known (name ▸ isTemplate)
          refine ensures_bind (ensures_fact Sent.later (clone handle) sent) ?_
          intro _ shared _ sent
          refine ensures_bind (ensures_fact Sent.later unlock sent) ?_
          exact fun _ _ _ sent later growth _ => ⟨sent.later growth, rfl⟩

lemma Selected.weaken (selected : Selected host handle accept result shared) :
    Selected host handle (fun _ => true) result shared :=
  fun backend chosen => ⟨rfl, (selected backend chosen).2⟩

private lemma ensures_selectDiscovered (request : ScpRequest) (handle : Nat) (key : List UInt8)
    (scheme : String) (shared : Shared Selector) : Ensures host profile thread
      (fun result => Selected host handle (fun _ => true) result.toOption)
      (selectDiscovered host.platform request handle key scheme) shared := by
  have selecting (shared : Shared Selector)
      {answer : Option CompiledUpstreamServer → Run (Except ScpError CompiledUpstreamServer)}
      (refused : answer none = pure (.error targetUnreachable))
      (ok : ∀ backend, answer (some backend) = pure (.ok backend)) :
      Ensures host profile thread
        (fun result => Selected host handle (fun _ => true) result.toOption)
        (scpSelect handle key (fun _ => true) >>= answer) shared := by
    refine ensures_bind (ensures_scpSelect handle key _ shared) ?_
    intro selected shared _ chosen
    cases selected with
    | none =>
      rw [refused]
      exact fun _ _ _ _ bad => nomatch bad
    | some backend =>
      rw [ok]
      exact fun later growth _ => chosen.later growth
  unfold selectDiscovered
  cases request.target with
  | none => exact selecting shared rfl fun _ => rfl
  | some target =>
    refine ensures_bind (ensures_scpSelect handle key _ shared) ?_
    intro preferred shared _ chosen
    cases preferred with
    | some backend => exact fun later growth _ => chosen.weaken.later growth
    | none =>
      refine ensures_bind (ensures_nothing _ shared) ?_
      intro known shared _ _
      cases known with
      | true => exact selecting shared rfl fun _ => rfl
      | false => exact fun _ _ _ _ bad => nomatch bad

private lemma ensures_routeDiscovered (headers : HeaderMap) (ip : List UInt8)
    (discovery : request.discovery = true) (query : Queries handle request.query shared) :
    Ensures host profile thread (fun result later => ∀ exchange, result = .ok exchange →
        Sent host profile request exchange later ∧ exchange.attempted = [])
      (routeDiscovered host.platform profile request headers ip handle) shared := by
  refine ensures_bind (ensures_fact Queries.later (hashKey handle) query) ?_
  intro name shared _ query
  split
  · exact fun _ _ _ _ bad => nomatch bad
  · exact fun _ _ _ _ bad => nomatch bad
  next key tmpl _ _ =>
    refine ensures_bind ((ensures_selectDiscovered request handle key _ shared).and
      (ensures_fact Queries.later _ query)) ?_
    rintro selected shared ok ⟨chosen, query⟩
    cases selected with
    | error error => exact fun _ _ _ _ bad => nomatch bad
    | ok backend =>
      intro later growth _ exchange same
      obtain ⟨root, checked, built⟩ := map_eq_ok.mp same
      obtain ⟨found, foundOk, _, notOwn, sameRoot⟩ := bind₂_eq_ok.mp checked
      cases sameRoot
      subst built
      refine ⟨Sent.later growth (sent_of_selected ok chosen rfl rfl (rejectIf_eq_ok.mp notOwn) ?_
        (fun _ => query) (orFail_eq_ok.mp foundOk) ?_), rfl⟩
      · exact fun direct => absurd (direct.symm.trans discovery) false_ne_true
      · exact fun direct => absurd (direct.symm.trans discovery) false_ne_true

private lemma ensures_route (ip : List UInt8) (accepted : request.Accepted headers profile.root)
    (shared : Shared Selector) : Ensures host profile thread (RoutedOk host profile request)
      (route host.platform profile request headers ip) shared := by
  unfold route
  split
  next root direct =>
    obtain ⟨target, isDirect⟩ := filter_eq_some_iff.mp direct
    have isDirect : request.discovery = false := by simpa using isDirect
    have notOwn := accepted.notOwn root target
    split
    next allowed =>
      intro later _ _
      exact ⟨⟨rfl, notOwn, fun _ => target, .inl ⟨rfl, isDirect, allowed, rfl⟩⟩, rfl⟩
    next =>
      have locked : Ensures host profile thread (AllNamed profile) lock shared := by
        apply Safe.ask
        intro now _ ok outside after entries done later growth _
        refine AllNamed.later growth fun entry mem => ?_
        simp only [perform] at done
        split at done
        · cases done
        · cases done
          obtain ⟨⟨key, cached⟩, present, rfl⟩ := mem_map.mp mem
          obtain ⟨group, here, serves⟩ := ok.cached key cached (mem_entries.mp present)
          exact ⟨group, here, (ok.groups _ group here).template, serves.1⟩
      refine ensures_bind locked ?_
      intro entries shared _ named
      exact ensures_scanCache ip isDirect target notOwn none named
  next noTarget =>
    have discovery : request.discovery = true := by
      cases mode : request.discovery with
      | true => rfl
      | false =>
        obtain ⟨target, found⟩ := isSome_iff_exists.mp (accepted.direct mode)
        simp [found, mode] at noTarget
    refine ensures_bind (ensures_discovered request shared) ?_
    intro found shared _ known
    cases found with
    | error error => exact fun _ _ _ => trivial
    | ok handle =>
      refine ensures_bind (ensures_routeDiscovered headers ip discovery (known handle rfl)) ?_
      intro result shared _ sent
      cases result with
      | ok exchange =>
        exact fun later growth _ => ⟨(sent exchange rfl).1.later growth, (sent exchange rfl).2⟩
      | error error =>
        refine ensures_bind (ensures_nothing (drop handle) shared) ?_
        exact fun _ _ _ _ _ _ _ => trivial

def Spent (exchange : ScpExchange) : Prop := exchange.attempted ≠ [] ∨ exchange.group = none

/-- A second attempt goes elsewhere and is the last. -/
structure Retried (before : ScpExchange) (tried : Bool × ScpExchange) : Prop where
  unchanged : tried.1 = false → tried.2.root = before.root ∧ tried.2.backend = before.backend
  fresh : tried.1 = true → ¬ Spent before
  different : tried.1 = true → tried.2.backend ≠ before.backend
  spent : Spent tried.2

private lemma retried_unchanged {before after : ScpExchange} (root : after.root = before.root)
    (backend : after.backend = before.backend) (spent : Spent after) :
    Retried before (false, after) where
  unchanged := fun _ => ⟨root, backend⟩
  fresh := fun bad => nomatch bad
  different := fun bad => nomatch bad
  spent

lemma Sent.attempt (sent : Sent host profile request exchange shared)
    (attempted : List CompiledUpstreamServer) :
    Sent host profile request { exchange with attempted } shared where
  sameRequest := sent.sameRequest
  notOwn := sent.notOwn
  direct := sent.direct
  origin := by
    rcases sent.origin with allowed | ⟨handle, group, known⟩
    · exact .inl ⟨allowed.reference, allowed.direct, allowed.allowed, allowed.backend⟩
    · exact .inr ⟨handle, group, known.reference, known.found, known.template, known.query,
        known.backend, known.root⟩

lemma Sent.queries (sent : Sent host profile request exchange shared)
    (reference : exchange.group = some handle) (discovery : request.discovery = true) :
    Queries handle request.query shared := by
  rcases sent.origin with allowed | ⟨other, group, known⟩
  · exact absurd (allowed.direct.symm.trans discovery) false_ne_true
  · have same := known.reference.symm.trans reference
    cases same
    exact ⟨group, known.found, known.query discovery⟩

private lemma plain_templateScheme (nrf : CompiledNrfDiscovery) :
    ':' ∉ (templateScheme nrf).toList ∧
    (templateScheme nrf).toList.map Char.toLower = (templateScheme nrf).toList := by
  unfold templateScheme
  cases nrf.endpointScheme with
  | http | https => decide

/-- The scheme stands before the first colon of the text that is parsed. -/
private lemma scheme_of_backendRoot {scheme : String}
    (splits : SplitsUris host.platform) (plain : ':' ∉ scheme.toList ∧
      scheme.toList.map Char.toLower = scheme.toList)
    (found : backendRoot host.platform backend scheme = some root) : root.scheme = scheme := by
  obtain ⟨_, parts, parsed⟩ := ApiRoot.exists_parts splits (toOption_eq_some.mp found)
  have text := congrArg String.toList parsed.written
  simp only [String.toList_append, String.toList_ofList, append_assoc, UriParts.Parts.written]
    at text
  have first := congrArg (takeWhile fun char => decide (char ≠ ':')) text
  have mark : "://".toList = ':' :: '/' :: ['/'] := rfl
  rw [mark, cons_append, (Text.span_until _ plain.1 (by simp)).1,
    (Text.span_until _ parsed.fine.scheme (by simp)).1] at first
  rw [← String.toList_inj, parsed.spells.scheme, ← first, plain.2]

lemma Sent.endpointScheme (sent : Sent host profile request exchange shared)
    (reference : exchange.group = some handle)
    (found : shared.groups[handle]? = some group) (direct : request.discovery = false)
    (splits : SplitsUris host.platform) :
    EndpointScheme profile group.template exchange.root.scheme := by
  rcases sent.origin with allowed | ⟨other, known, origin⟩
  · exact absurd (allowed.reference.symm.trans reference) nofun
  · cases origin.reference.symm.trans reference
    cases Option.some.inj (origin.found.symm.trans found)
    obtain ⟨scheme, root, endpoint⟩ := origin.root
    have endpoint := endpoint direct splits
    obtain ⟨template, _, same⟩ := endpoint.1
    rwa [scheme_of_backendRoot splits (same ▸ plain_templateScheme template.nrf) root]

private lemma direct_of_acceptsRetry (sameRequest : exchange.request = request)
    (ok : acceptsRetry host.platform exchange backend = true)
    (found : backendRoot host.platform backend exchange.root.scheme = some root)
    (isDirect : request.discovery = false) : request.target = some root := by
  simp only [acceptsRetry, sameRequest, isDirect, Bool.false_or, Bool.and_eq_true,
    decide_eq_true_eq] at ok
  exact ok.2.symm.trans found

private lemma ensures_retryConnect (sent : Sent host profile request exchange shared) :
    Ensures host profile thread
      (fun tried later => Retried exchange tried ∧ Sent host profile request tried.2 later)
      (retryConnect host.platform profile exchange) shared := by
  unfold retryConnect
  split
  next attempted =>
    exact fun later growth _ => ⟨retried_unchanged rfl rfl (.inl attempted), sent.later growth⟩
  next fresh =>
    split
    next noGroup =>
      exact fun later growth _ => ⟨retried_unchanged rfl rfl (.inr noGroup), sent.later growth⟩
    next handle reference =>
      refine ensures_bind ((ensures_scpSelect handle _ _ shared).and (ensures_fact Sent.later _
          (sent.attempt (exchange.attempted ++ [exchange.backend])))) ?_
      rintro selected shared ok ⟨chosen, noted⟩
      have kept : Retried exchange
          (false, { exchange with attempted := exchange.attempted ++ [exchange.backend] }) :=
        retried_unchanged rfl rfl (.inl (append_ne_nil_of_right_ne_nil _ (cons_ne_nil _ _)))
      split
      · exact fun later growth _ => ⟨kept, noted.later growth⟩
      next backend =>
        split
        · exact fun later growth _ => ⟨kept, noted.later growth⟩
        next root found =>
          split
          · exact fun later growth _ => ⟨kept, noted.later growth⟩
          next notOwn =>
            have accepted := (chosen backend rfl).1
            intro later growth _
            refine ⟨⟨(fun bad => nomatch bad), fun _ => ?_, fun _ => ?_, ?_⟩,
              Sent.later growth (sent_of_selected ok chosen noted.sameRequest reference
                (eq_false_iff.mpr notOwn) (direct_of_acceptsRetry noted.sameRequest accepted found)
                (noted.queries reference) found fun direct splits group present =>
                  noted.endpointScheme reference present direct splits)⟩
            · rintro (attempted | noGroup)
              · exact fresh attempted
              · exact absurd (reference.symm.trans noGroup) (some_ne_none handle)
            · rintro rfl
              simp [acceptsRetry] at accepted
            · exact .inl (append_ne_nil_of_right_ne_nil _ (cons_ne_nil _ _))

def AllRetried : ScpExchange → List (Bool × ScpExchange) → Prop
  | _, [] => True
  | before, tried :: rest => Retried before tried ∧ AllRetried tried.2 rest

private lemma ensures_retries (count : Nat) (sent : Sent host profile request exchange shared) :
    Ensures host profile thread (fun retried later => AllRetried exchange retried ∧
        ∀ tried ∈ retried, Sent host profile request tried.2 later)
      (retries host.platform profile count exchange) shared := by
  induction count generalizing exchange shared with
  | zero => exact fun _ _ _ => ⟨trivial, fun _ bad => nomatch bad⟩
  | succ count ih =>
    refine ensures_bind (ensures_retryConnect sent) ?_
    rintro tried shared _ ⟨retried, sent⟩
    refine ensures_bind ((ih sent).and (ensures_fact Sent.later _ sent)) ?_
    rintro rest shared _ ⟨⟨retriedRest, sentRest⟩, sent⟩ later growth _
    refine ⟨⟨retried, retriedRest⟩, fun other mem => ?_⟩
    rcases mem_cons.mp mem with rfl | older
    · exact sent.later growth
    · exact (sentRest other older).later growth

def OutcomeOk (host : Host Selector) (profile : RuntimeScp Handle) (request : ScpRequest)
    (outcome : Outcome) (shared : Shared Selector) : Prop :=
  match outcome with
  | .served first retried => AllRetried first retried ∧
      ∀ exchange ∈ first :: retried.map Prod.snd, Sent host profile request exchange shared
  | .refused _ => True
  | .panicked => False

private lemma ensures_serve (ip : List UInt8) (count : Nat)
    (ok : request.Accepted headers profile.root) (shared : Shared Selector) :
    Ensures host profile thread (OutcomeOk host profile request)
      (serve host.platform profile request headers ip count) shared := by
  refine ensures_bind (ensures_route ip ok shared) ?_
  intro routed shared _ known
  cases routed with
  | refused error => exact fun _ _ _ => trivial
  | panicked => exact known.elim
  | exchange first =>
    obtain ⟨sent, _⟩ := known
    refine ensures_bind ((ensures_retries count sent).and (ensures_fact Sent.later _ sent)) ?_
    rintro retried shared _ ⟨⟨allRetried, allSent⟩, sent⟩
    have served {later : Shared Selector} (growth : Grows shared later) :
        OutcomeOk host profile request (.served first retried) later := by
      refine ⟨allRetried, fun exchange mem => ?_⟩
      rcases mem_cons.mp mem with rfl | tried
      · exact sent.later growth
      · obtain ⟨result, here, rfl⟩ := mem_map.mp tried
        exact (allSent result here).later growth
    split
    · exact fun later growth _ => served growth
    next handle _ =>
      refine ensures_bind
        (ensures_fact (fun growth before => Grows.trans before growth) (drop handle)
          (Grows.refl shared)) ?_
      exact fun _ _ _ before later growth _ => served (before.trans growth)

private lemma AllRetried.none_of_spent (all : AllRetried exchange retried)
    (spent : Spent exchange) :
    ∀ tried ∈ retried, tried.1 = false := by
  induction retried generalizing exchange with
  | nil => exact fun _ bad => nomatch bad
  | cons first rest ih =>
    intro tried mem
    rcases mem_cons.mp mem with rfl | later
    · exact eq_false_iff.mpr fun succeeded => all.1.fresh succeeded spent
    · exact ih all.2 all.1.spent tried later

private lemma AllRetried.at_most_once (all : AllRetried exchange retried) :
    retried.countP (fun tried => tried.1) ≤ 1 := by
  cases retried with
  | nil => exact Nat.zero_le 1
  | cons first rest =>
    have noMore : rest.countP (fun tried => tried.1) = 0 := by
      rw [countP_eq_zero]
      intro tried mem
      exact eq_false_iff.mp (all.2.none_of_spent all.1.spent tried mem)
    rw [countP_cons, noMore]
    split <;> decide

lemma AllRetried.different (all : AllRetried exchange retried) :
    ∀ tried ∈ retried, tried.1 = true → tried.2.backend ≠ exchange.backend := by
  cases retried with
  | nil => exact fun _ bad => nomatch bad
  | cons first rest =>
    intro tried mem succeeded
    rcases mem_cons.mp mem with rfl | later
    · exact all.1.different succeeded
    · have failed := all.2.none_of_spent all.1.spent tried later
      exact absurd (failed.symm.trans succeeded) false_ne_true

lemma AllRetried.unchanged (all : AllRetried exchange retried) (start : Bool) :
    List.IsChain (fun before after : Bool × ScpExchange => after.1 = false →
      after.2.root = before.2.root ∧ after.2.backend = before.2.backend)
      ((start, exchange) :: retried) := by
  induction retried generalizing exchange start with
  | nil => exact List.IsChain.singleton _
  | cons first rest ih => exact List.IsChain.cons_cons all.1.unchanged (ih all.2 first.1)

/-- Every client will end with an authorised exchange. -/
structure System.Serves (host : Host Selector) (profile : RuntimeScp Handle)
    (system : System Selector) : Prop where
  sound : system.Sound host profile
  clients : ∀ (place : Nat) (headers : HeaderMap) (request : ScpRequest) (program : Run Outcome),
    system.threads[place]? = some (.client headers request program) →
      request.Accepted headers profile.root ∧
        Ensures host profile place (OutcomeOk host profile request) program system.shared

private lemma System.Serves.clients_later {before : System Selector}
    (ok : before.Serves host profile)
    (growth : Grows before.shared shared) {program : Run Outcome}
    (found : before.threads[place]? = some (.client headers request program)) :
    request.Accepted headers profile.root ∧
      Ensures host profile place (OutcomeOk host profile request) program shared := by
  obtain ⟨accepted, ensures⟩ := ok.clients place headers request program found
  refine ⟨accepted, Safe.later ?_ ensures growth⟩
  exact fun _ _ _ => Grows.trans

private lemma ensures_advanceProgram {α : Type} {post : α → Shared Selector → Prop}
    {outside : Outside}
    {program next : Run α}
    (ok : before.Valid host profile) (ensures : Ensures host profile place post program before)
    (step : advanceProgram host profile place before outside program = some (after, next)) :
    Ensures host profile place post next after := by
  cases program with
  | done value => cases step
  | call op rest =>
    obtain ⟨⟨shared, answer⟩, performed, same⟩ := map_eq_some_iff.mp step
    cases same
    exact Safe.step Grows.refl ensures ok performed

lemma System.Serves.step {before after : System Selector} {action : Action}
    (ok : before.Serves host profile) (stepped : step host profile before action = some after) :
    after.Serves host profile := by
  refine ⟨ok.sound.step stepped, ?_⟩
  intro place headers request program found
  cases moved_of_step stepped with
  | accepted incoming parsedRequest parsed =>
    rcases getElem?_spawn found with old | ⟨_, new⟩
    · exact ok.clients place headers request program old
    · cases new
      have accepted := ScpRequest.accepted_of_parse parsed
      exact ⟨accepted, ensures_serve incoming.clientIp incoming.retries accepted before.shared⟩
  | maintained =>
    rcases getElem?_spawn found with old | ⟨_, new⟩
    · exact ok.clients place headers request program old
    · cases new
  | performed moved outside thread next shared running advanced =>
    by_cases here : moved = place
    · subst here
      rw [List.getElem?_set_self (List.getElem?_eq_some_iff.mp running).1] at found
      cases found
      cases thread with
      | client headers request program =>
        obtain ⟨⟨after, rest⟩, advancedProgram, same⟩ := map_eq_some_iff.mp advanced
        cases same
        obtain ⟨accepted, ensures⟩ := ok.clients moved headers request program running
        exact ⟨accepted, ensures_advanceProgram ok.sound.valid ensures advancedProgram⟩
      | maintenance program =>
        obtain ⟨result, _, same⟩ := map_eq_some_iff.mp advanced
        cases same
      | gone => cases advanced
    · rw [getElem?_set_ne here] at found
      have moved := advanced_of_thread ok.sound.valid (ok.sound.owns moved thread running) advanced
      exact ok.clients_later moved.grows found
  | aborted gone thread running =>
    by_cases here : gone = place
    · subst here
      rw [List.getElem?_set_self (List.getElem?_eq_some_iff.mp running).1] at found
      cases found
    · rw [getElem?_set_ne here] at found
      have growth : Grows before.shared (before.shared.release gone) := Grows.of_eq rfl
      exact ok.clients_later growth found
  | changed shared quiet => exact ok.clients_later quiet.grows found

variable {start : Nat} {system : System Selector}

private lemma serves_of_reaches
    (reached : Runs.Reaches (step host profile) (System.initial start) system) :
    system.Serves host profile := by
  refine reached.invariant ⟨sound_initial host profile start, ?_⟩ fun _ _ _ ok stepped =>
    ok.step stepped
  exact fun _ _ _ _ bad => nomatch bad

lemma outcomeOk_of_reaches {out : Outcome}
    (reached : Runs.Reaches (step host profile) (System.initial start) system)
    (ended : system.threads[place]? = some (.client headers request (.done out))) :
    request.Accepted headers profile.root ∧ OutcomeOk host profile request out system.shared := by
  have serves := serves_of_reaches reached
  obtain ⟨ok, ensures⟩ := serves.clients place headers request _ ended
  exact ⟨ok, ensures system.shared (Grows.refl system.shared) serves.sound.valid⟩

end Programs

namespace Example

def boundRequest : Incoming where
  headers :=
    { entries := [("3gpp-sbi-discovery-target-nf-instance-id", HeaderValue.ofText "smf-1")] }
  method := "GET"
  path := "/nsmf-pdusession/v1/sessions"
  query := none
  clientIp := []
  retries := 2

def answer : SearchResult where
  nfInstances :=
    [{ nfType := some "SMF"
       nfInstanceId := some "smf-1"
       nfStatus := "REGISTERED"
       nfServices :=
         [{ versions := ["v1"]
            serviceInstanceId := some "pdu-1"
            serviceName := "nsmf-pdusession"
            scheme := "http"
            nfServiceStatus := "REGISTERED"
            ipEndPoints :=
              [{ ipv4Address := some "10.0.0.1", port := some 8001 },
                { ipv4Address := some "10.0.0.2", port := some 8002 }] }] }]

def refreshed : List Action :=
  [.refresh 0 (.begin 0), .refresh 0 (.permit true), .refresh 0 .proceed, .refresh 0 .proceed,
    .answer 0 (.ok answer), .refresh 0 (.checker (.ok ())), .refresh 0 (.preflight fun _ => true),
    .refresh 0 (.update (.ok ())), .refresh 0 .proceed, .settle 0, .finish 0]

def actions : List Action :=
  .request boundRequest :: List.replicate 3 (.perform 0 (outside true)) ++ refreshed ++
    List.replicate 8 (.perform 0 (outside true))

def servedHosts : Thread → Option (String × List (Bool × String))
  | .client _ request (.done (.served first retried)) =>
    if request.discovery then
      some (first.backend.host, retried.map fun tried => (tried.1, tried.2.backend.host))
    else none
  | _ => none

private lemma exists_served :
    ∃ (system : System (List Nrf.Representative)) (headers : HeaderMap) (request : ScpRequest)
      (first : ScpExchange) (retried : List (Bool × ScpExchange)),
      Runs.Reaches (step host profile) (System.initial 0) system ∧
        system.threads[0]? = some (.client headers request (.done (.served first retried))) ∧
        request.discovery = true ∧ first.backend.host = "10.0.0.1" ∧
        retried.map (fun tried => (tried.1, tried.2.backend.host)) =
          [(true, "10.0.0.2"), (false, "10.0.0.2")] := by
  obtain ⟨system, reached, thread, found, hosts⟩ :
      ∃ system, actions.foldlM (step host profile) (System.initial 0) = some system ∧
        ∃ thread, system.threads[0]? = some thread ∧ servedHosts thread =
          some ("10.0.0.1", [(true, "10.0.0.2"), (false, "10.0.0.2")]) := by decide +kernel
  unfold servedHosts at hosts
  split at hosts
  next _ headers request first retried =>
    split at hosts
    next discovery =>
      obtain ⟨firstHost, others⟩ := Prod.mk.inj (Option.some.inj hosts)
      exact ⟨system, headers, request, first, retried, Runs.reaches_of_foldlM reached, found,
        discovery, firstHost, others⟩
    next => cases hosts
  next => cases hosts

end Example

def AllowedTarget (profile : RuntimeScp Handle) (request : ScpRequest)
    (backend : CompiledUpstreamServer) : Prop :=
  ∃ root ∈ profile.allowed, request.target = some root ∧ backend = rootBackend root

/-- An endpoint extracted from an answer to one of the profile's own groups; in direct mode its
root, under the scheme of the group's template, is the target. -/
def DiscoveredProducer (host : Host Selector) (profile : RuntimeScp Handle)
    (request : ScpRequest) (shared : Shared Selector) (backend : CompiledUpstreamServer) : Prop :=
  ∃ group ∈ shared.groups, group.template ∈ templatesOf profile ∧ group.Discovered host backend ∧
    (request.discovery = false → ∃ target scheme, request.target = some target ∧
      backendRoot host.platform backend scheme = some target ∧
      (SplitsUris host.platform → EndpointScheme profile group.template scheme))

/-- The backend is of the instances that the headers ask for, and of a service with the
version of the request. -/
def HonoursBinding (headers : HeaderMap) (request : ScpRequest) (shared : Shared Selector)
    (backend : CompiledUpstreamServer) : Prop :=
  ∃ metadata, backend.nrfService = some metadata ∧
    (∀ id, AsksForNf headers id → metadata.nfInstanceId = id) ∧
    (∀ id, AsksForService headers id → metadata.serviceInstanceId = id) ∧
    ∃ group ∈ shared.groups, ∃ answer ∈ group.answers, ∃ producer ∈ answer.nfInstances,
      ∃ service ∈ Nrf.Search.services producer,
        Nrf.nonEmptyId producer.nfInstanceId = some metadata.nfInstanceId ∧
          Nrf.nonEmptyId service.serviceInstanceId = some metadata.serviceInstanceId ∧
          request.query.apiVersion ∈ service.versions

private lemma honoursBinding_of_discovered {host : Host Selector} {root : ApiRoot}
    (ok : request.Accepted headers root) (mem : group ∈ shared.groups)
    (query : group.query = request.query) (discovered : group.Discovered host backend) :
    HonoursBinding headers request shared backend := by
  obtain ⟨answer, received, extracted⟩ := discovered
  obtain ⟨metadata, identified, producer, here, service, offered, accepts⟩ :=
    Nrf.extracted_of_mem extracted
  have searched : request.query ∈ (group.search host).query := congrArg some query
  refine ⟨metadata, identified, fun id asked => ?_, fun id asked => ?_, group, mem, answer,
    received, producer, here, service, offered, accepts.nfInstance, accepts.serviceInstance,
    accepts.version request.query searched⟩
  · exact accepts.wantedNf request.query searched id (ok.nf id asked)
  · exact accepts.wantedService request.query searched id (ok.service id asked)

/-- Whatever other requests, maintenance and the NRF do, the first backend and those of
all retries are authorised, and a discovery honours its binding. -/
theorem forwards_to_authorised_producers {host : Host Selector}
    {profile : RuntimeScp Handle} {start : Nat} {system : System Selector}
    (reached : Runs.Reaches (step host profile) (System.initial start) system)
    {place : Nat} {headers : HeaderMap} {request : ScpRequest} {first : ScpExchange}
    {retried : List (Bool × ScpExchange)}
    (served : system.threads[place]? =
      some (.client headers request (.done (.served first retried)))) :
    ∀ exchange ∈ first :: retried.map Prod.snd,
      (AllowedTarget profile request exchange.backend ∨
          DiscoveredProducer host profile request system.shared exchange.backend) ∧
        (request.discovery = true →
          HonoursBinding headers request system.shared exchange.backend) := by
  obtain ⟨accepted, _, allSent⟩ := outcomeOk_of_reaches reached served
  intro exchange member
  have sent := allSent exchange member
  rcases sent.origin with allowed | ⟨handle, group, known⟩
  · refine ⟨Or.inl ⟨exchange.root, allowed.allowed, sent.direct allowed.direct, allowed.backend⟩,
      fun discovery => ?_⟩
    exact absurd (allowed.direct.symm.trans discovery) false_ne_true
  · have present := mem_of_getElem? known.found
    refine ⟨Or.inr ⟨group, present, known.template, known.backend, fun direct => ?_⟩,
      fun discovery => honoursBinding_of_discovered accepted present (known.query discovery)
        known.backend⟩
    obtain ⟨scheme, root, endpoint⟩ := known.root
    exact ⟨exchange.root, scheme, sent.direct direct, root, endpoint direct⟩

open Example in
theorem bound_request_authorised :
    ∃ (system : System (List Nrf.Representative)) (headers : HeaderMap) (request : ScpRequest)
      (first : ScpExchange) (retried : List (Bool × ScpExchange)),
      retried.length = 2 ∧ ∀ exchange ∈ first :: retried.map Prod.snd,
        HonoursBinding headers request system.shared exchange.backend := by
  obtain ⟨system, headers, request, first, retried, reached, served, discovery, _, hosts⟩ :=
    exists_served
  refine ⟨system, headers, request, first, retried, ?_, fun exchange member => ?_⟩
  · simpa using congrArg List.length hosts
  · exact (forwards_to_authorised_producers reached served exchange member).2 discovery

private lemma getAll_hops_requestHeaders (exchange : ScpExchange) (headers : HeaderMap) :
    (requestHeaders exchange headers).getAll "3gpp-sbi-max-forward-hops" =
      [HeaderValue.ofText (toString exchange.request.hops.toNat)] := by
  rw [requestHeaders, HeaderMap.getAll_insert, if_pos rfl]

/-- Neither the first root nor that of a retry is the proxy's own, one retry at most
succeeds, and one hop is taken off. -/
theorem retries_once_and_never_to_itself {host : Host Selector}
    {profile : RuntimeScp Handle} {start : Nat} {system : System Selector}
    (reached : Runs.Reaches (step host profile) (System.initial start) system)
    {place : Nat} {headers : HeaderMap} {request : ScpRequest} {first : ScpExchange}
    {retried : List (Bool × ScpExchange)}
    (served : system.threads[place]? =
      some (.client headers request (.done (.served first retried)))) :
    (∀ exchange ∈ first :: retried.map Prod.snd,
        ¬ (exchange.root.host = profile.root.host ∧ exchange.root.port = profile.root.port) ∧
          (request.discovery = false → request.target = some exchange.root) ∧
          (requestHeaders exchange headers).getAll "3gpp-sbi-max-forward-hops" =
            [HeaderValue.ofText (toString request.hops.toNat)]) ∧
      retried.countP (fun tried => tried.1) ≤ 1 ∧
      (∀ tried ∈ retried, tried.1 = true → tried.2.backend ≠ first.backend) ∧
      List.IsChain (fun before after : Bool × ScpExchange => after.1 = false →
        after.2.root = before.2.root ∧ after.2.backend = before.2.backend)
        ((true, first) :: retried) ∧
      ReceivedHops headers (request.hops.toNat + 1) := by
  obtain ⟨accepted, allRetried, allSent⟩ := outcomeOk_of_reaches reached served
  refine ⟨fun exchange member => ?_, allRetried.at_most_once, allRetried.different,
    allRetried.unchanged true, accepted.hops⟩
  have sent := allSent exchange member
  refine ⟨?_, sent.direct, ?_⟩
  · simpa [ownAuthority] using sent.notOwn
  · rw [getAll_hops_requestHeaders, sent.sameRequest]

open Example in
theorem second_retry_fails :
    ∃ (first : ScpExchange) (retried : List (Bool × ScpExchange)),
      first.backend.host = "10.0.0.1" ∧
        retried.map (fun tried => (tried.1, tried.2.backend.host)) =
          [(true, "10.0.0.2"), (false, "10.0.0.2")] ∧
        ∀ exchange ∈ first :: retried.map Prod.snd,
          ¬ (exchange.root.host = "scp.example" ∧ exchange.root.port = 8080) := by
  obtain ⟨system, headers, request, first, retried, reached, served, _, host, hosts⟩ :=
    exists_served
  refine ⟨first, retried, host, hosts, fun exchange member => ?_⟩
  exact ((retries_once_and_never_to_itself reached served).1 exchange member).1

end Ngxora.Scp
