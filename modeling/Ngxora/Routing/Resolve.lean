/-
Resolving the location of a request.
-/

import Ngxora.Base.Ranking
import Ngxora.Routing.Hosts

namespace Ngxora.Routing

open Text Ranking Table List Option Http Net Results Router

def prefixMatches (start path : String) : Bool :=
  let start := trimEndMatches '/' start
  path == start || (afterStart start path).any (startsWith "/")

abbrev MatchScore : Type := Bool ×ₗ Nat ×ₗ Bool ×ₗ Nat ×ₗ Nat

/-- Exact path, length of the path, method, header and query conditions. -/
def matchScore (matcher : HttpMatch) : MatchScore :=
  let (isExact, length) :=
    match matcher.path with
    | .exact path => (true, byteLength path)
    | .pathPrefix path => (false, byteLength path)
  toLex (isExact, toLex (length, toLex (matcher.method.isSome,
    toLex (matcher.headers.length, matcher.queryParams.length))))

def pathMatches (path : String) : HttpPathMatch → Bool
  | .exact wanted => wanted == path
  | .pathPrefix start => prefixMatches start path

variable (crates : Crates)

def queryValue (query : Option String) (name : String) : Option String :=
  ((crates.formUrlencodedParse (query.getD "")).find? fun pair => pair.1 == name).map Prod.snd

def ruleMatches (matcher : HttpMatch) (session : Session) : Bool :=
  pathMatches session.uri.path matcher.path &&
    matcher.method.all (fun method => method == session.method) &&
    matcher.headers.all (fun condition =>
      (session.headers.get (toAsciiLowercase condition.1)).any fun header =>
        header == condition.2.toByteArray.data.toList) &&
    matcher.queryParams.all (fun condition =>
      queryValue crates session.uri.query condition.1 == some condition.2)

def ruleScore (session : Session) (location : CompiledLocation) : Option MatchScore :=
  match location.matcher with
  | .http matcher => if ruleMatches crates matcher session then some (matchScore matcher) else none
  | _ => none

structure PrefixScan where
  bestPrefix : Option (CompiledLocation × Nat) := none
  bestPreferPrefix : Option (CompiledLocation × Nat) := none

def keepLonger (path start : String) (location : CompiledLocation)
    (best : Option (CompiledLocation × Nat)) : Option (CompiledLocation × Nat) :=
  if startsWith start path && best.all (fun kept => decide (kept.2 < byteLength start))
  then some (location, byteLength start)
  else best

/-- The first loop: an exact match ends it with its location. -/
def scanLocations (path : String) (scan : PrefixScan) :
    List CompiledLocation → CompiledLocation ⊕ PrefixScan
  | [] => .inr scan
  | location :: rest =>
    match location.matcher with
    | .exact wanted =>
      if path == wanted then .inl location else scanLocations path scan rest
    | .pathPrefix start =>
      scanLocations path
        { scan with bestPrefix := keepLonger path start location scan.bestPrefix } rest
    | .preferPrefix start =>
      scanLocations path
        { scan with bestPreferPrefix := keepLonger path start location scan.bestPreferPrefix }
        rest
    | _ => scanLocations path scan rest

def regexMatches (path : String) (location : CompiledLocation) : Bool :=
  match location.matcher with
  | .regex caseInsensitive pattern => crates.regexIsMatch caseInsensitive pattern path
  | _ => false

/-- Exact match, longest `^~` prefix, first regular expression, longest prefix. -/
def selectRouteTarget (routes : ServerRoutes) (path : String) : Option CompiledLocation :=
  match scanLocations path {} routes.locations with
  | .inl location => some location
  | .inr scan =>
    ((scan.bestPreferPrefix.map Prod.fst).or
      (routes.locations.find? (regexMatches crates path))).or (scan.bestPrefix.map Prod.fst)

def requestIsTls (session : Session) : Bool := session.sslDigest.isSome

def sessionListenKey (session : Session) : Except PingoraError ListenKey := do
  let serverAddr ← orFail session.serverAddr
    (explain .internalError "missing downstream server addr")
  let (ip, port) ← orFail serverAddr.asInet
    (explain .internalError "downstream server addr is not inet (likely UDS)")
  pure { addr := ip, port, ssl := requestIsTls session }

def unspecified : IpAddr → IpAddr
  | .v4 _ => .v4 { a := 0, b := 0, c := 0, d := 0 }
  | .v6 _ => .v6 { segments := List.replicate 8 0, eight := rfl }

def wildcardListenKey (key : ListenKey) : ListenKey := { key with addr := unspecified key.addr }

def listenerRoutes (router : CompiledRouter) (key : ListenKey) : Option VirtualHostRoutes :=
  (router.listeners.lookup key).or
    (if wildcardListenKey key ≠ key then router.listeners.lookup (wildcardListenKey key) else none)

abbrev HostScore : Type := Bool ×ₗ Nat

/-- All virtual hosts that cover the host, for structured rules. -/
def candidates (vhosts : VirtualHostRoutes) (routingHost : Option String) :
    List (HostScore × ServerRoutes) :=
  (match routingHost with
    | some host => Table.ranked (hostnameRank host) vhosts.named
    | none => []) ++
  (vhosts.default.map fun routes => (toLex (false, 0), routes)).toList

def isHttpLocation (location : CompiledLocation) : Bool :=
  match location.matcher with
  | .http _ => true
  | _ => false

def bestRule (session : Session) (routes : ServerRoutes) : Option CompiledLocation :=
  (firstBest (ruleScore crates session) routes.locations).map Prod.snd

/-- The loop over the candidates: a virtual host without HTTP rules ends it. -/
def resolveHttpRules (crates : Crates) (session : Session) :
    List (HostScore × ServerRoutes) → Option CompiledLocation
  | [] => none
  | (_, routes) :: rest =>
    if routes.locations.any isHttpLocation then
      (bestRule crates session routes).or (resolveHttpRules crates session rest)
    else none

structure ResolvedLocation where
  location : CompiledLocation
  host : Option String

/-- The nginx locations belong to one virtual host alone. -/
def resolveLocation (session : Session) (vhosts : VirtualHostRoutes) (routingHost : Option String) :
    Option CompiledLocation :=
  (resolveHttpRules crates session (descending (candidates vhosts routingHost))).or
    ((selectServerRoutes vhosts routingHost).bind fun routes =>
      selectRouteTarget crates routes session.uri.path)

def listenerSni (key : ListenKey) (session : Session) : Option String :=
  if key.ssl then downstreamSni session else none

def resolveRoute (router : CompiledRouter) (session : Session) :
    Except PingoraError (Option ResolvedLocation) := do
  let key ← sessionListenKey session
  match listenerRoutes router key with
  | none => pure none
  | some vhosts => do
    let host ← requestHost crates session
    validateSniHostConsistency host (listenerSni key session)
    pure ((resolveLocation crates session vhosts (host.or (listenerSni key session))).map
      fun location => { location, host })

/-- The virtual host covers the host with this score. -/
def Candidate (vhosts : VirtualHostRoutes) (routingHost : Option String) (score : HostScore)
    (routes : ServerRoutes) : Prop :=
  (∃ host ∈ routingHost, ∃ name, vhosts.named.lookup name = some routes ∧
    hostnameRank host name = some score) ∨
  (vhosts.default = some routes ∧ score = toLex (false, 0))

variable {vhosts : VirtualHostRoutes} {name : Option String} {score : HostScore}
  {routes : ServerRoutes} {crates : Crates} {location : CompiledLocation}

section Candidates

variable {session : Session}

private lemma mem_candidates : (score, routes) ∈ candidates vhosts name ↔
    Candidate vhosts name score routes := by
  unfold candidates Candidate
  rw [mem_append]
  apply or_congr
  · cases name with
    | none => simp
    | some host => simp [mem_ranked]
  · cases vhosts.default with
    | none => simp
    | some own => simp [and_comm, eq_comm]

private lemma default_lt {host name : String} (ranked : hostnameRank host name = some score) :
    toLex (false, 0) < score := by
  by_cases same : name = host
  · rw [same, hostnameRank_self] at ranked
    rw [← Option.some.inj ranked]
    exact Prod.Lex.toLex_lt_toLex.mpr (.inl Bool.false_lt_true)
  · obtain ⟨suffix, _, covers, rfl⟩ := (hostnameRank_of_ne same).mp ranked
    have ne : suffix.toList ≠ [] := by
      intro empty
      have dotted := covers.dotted
      rw [String.toList_eq_nil_iff.mp empty] at dotted
      exact absurd dotted (by decide)
    exact Prod.Lex.toLex_lt_toLex.mpr (.inr ⟨rfl, width_pos ne⟩)

private lemma candidates_distinct (vhosts : VirtualHostRoutes) (routingHost : Option String) :
    ((candidates vhosts routingHost).map Prod.fst).Nodup := by
  unfold candidates
  rw [map_append]
  apply List.Nodup.append
  · cases routingHost with
    | none => exact nodup_nil
    | some host => exact ranked_distinct (hostnameRank_injective host) vhosts.named
  · cases vhosts.default with
    | none => exact nodup_nil
    | some routes => exact nodup_singleton _
  · intro score named default
    cases routingHost with
    | none => cases named
    | some host =>
      obtain ⟨⟨found, routes⟩, mem, sameNamed⟩ := mem_map.mp named
      subst sameNamed
      obtain ⟨name, _, ranked⟩ := mem_ranked.mp mem
      obtain ⟨⟨_, own⟩, isDefault, same⟩ := mem_map.mp default
      have zero : toLex (false, 0) = found := by
        cases default : vhosts.default with
        | none => simp [default] at isDefault
        | some routes =>
          simp only [default, map_some, toList_some, mem_singleton, Prod.mk.injEq] at isDefault
          exact isDefault.1.symm.trans same
      exact absurd (zero ▸ default_lt ranked) (lt_irrefl _)

/-- A structured rule of the virtual host matches. -/
def HasMatch (crates : Crates) (session : Session) (routes : ServerRoutes) : Prop :=
  ∃ location ∈ routes.locations, (ruleScore crates session location).isSome = true

private lemma bestRule_eq_none :
    bestRule crates session routes = none ↔ ¬ HasMatch crates session routes := by
  rw [bestRule, map_eq_none_iff, firstBest_eq_none]
  simp [HasMatch]

lemma isFirstBest_of_bestRule (found : bestRule crates session routes = some location) :
    ∃ score, IsFirstBest (ruleScore crates session) routes.locations score location := by
  obtain ⟨⟨score, _⟩, scanned, rfl⟩ := map_eq_some_iff.mp found
  exact ⟨score, isFirstBest_of_firstBest scanned⟩

private lemma any_http_of_bestRule (found : bestRule crates session routes = some location) :
    routes.locations.any isHttpLocation = true := by
  obtain ⟨score, best⟩ := isFirstBest_of_bestRule found
  refine any_eq_true.mpr ⟨location, best.mem, ?_⟩
  have scored := best.scored
  unfold ruleScore at scored
  unfold isHttpLocation
  cases matcher : location.matcher <;> simp [matcher] at scored ⊢

private lemma resolveHttpRules_eq_some {hosts : List (HostScore × ServerRoutes)} :
    resolveHttpRules crates session hosts = some location ↔
      ∃ before item after, hosts = before ++ item :: after ∧
        (∀ other ∈ before, other.2.locations.any isHttpLocation = true ∧
          bestRule crates session other.2 = none) ∧
        bestRule crates session item.2 = some location := by
  induction hosts with
  | nil => simp [resolveHttpRules]
  | cons head rest ih =>
    obtain ⟨score, routes⟩ := head
    rw [resolveHttpRules]
    constructor
    · intro resolved
      split at resolved
      case isFalse => cases resolved
      case isTrue http =>
        cases rule : bestRule crates session routes with
        | some found =>
          rw [rule, some_or] at resolved
          exact ⟨[], (score, routes), rest, rfl, by simp, rule.trans resolved⟩
        | none =>
          rw [rule, none_or] at resolved
          obtain ⟨before, item, after, rfl, passed, found⟩ := ih.mp resolved
          exact ⟨(score, routes) :: before, item, after, rfl,
            forall_mem_cons.mpr ⟨⟨http, rule⟩, passed⟩, found⟩
    · rintro ⟨before, item, after, split, passed, found⟩
      cases before with
      | nil =>
        cases split
        rw [if_pos (any_http_of_bestRule found), found, some_or]
      | cons first others =>
        cases split
        obtain ⟨⟨http, rule⟩, laterPassed⟩ := forall_mem_cons.mp passed
        rw [if_pos http, rule, none_or]
        exact ih.mpr ⟨others, item, after, rfl, laterPassed, found⟩

lemma resolveHttpRules_candidates :
    resolveHttpRules crates session (descending (candidates vhosts name)) =
        some location ↔ ∃ score routes, Candidate vhosts name score routes ∧
        bestRule crates session routes = some location ∧
        ∀ otherScore others, Candidate vhosts name otherScore others →
          score < otherScore → others.locations.any isHttpLocation = true ∧
            ¬ HasMatch crates session others := by
  rw [resolveHttpRules_eq_some, exists_split_iff
    (pairwise_descending (candidates_distinct vhosts name))]
  simp only [mem_descending, Prod.exists, Prod.forall, mem_candidates, bestRule_eq_none]

structure HttpOnly (vhosts : VirtualHostRoutes) : Prop where
  named : ∀ name routes, vhosts.named.lookup name = some routes →
    ∀ location ∈ routes.locations, isHttpLocation location = true
  default : ∀ routes, vhosts.default = some routes →
    ∀ location ∈ routes.locations, isHttpLocation location = true

lemma HttpOnly.candidate (httpOnly : HttpOnly vhosts)
    (candidate : Candidate vhosts routingHost score routes) :
    ∀ location ∈ routes.locations, isHttpLocation location = true := by
  rcases candidate with ⟨_, _, name, found, _⟩ | ⟨found, _⟩
  · exact httpOnly.named name routes found
  · exact httpOnly.default routes found

variable {path : String}

private lemma scanLocations_http {scan : PrefixScan} {locations : List CompiledLocation}
    (http : ∀ location ∈ locations, isHttpLocation location = true) :
    scanLocations path scan locations = .inr scan := by
  induction locations with
  | nil => rfl
  | cons location rest ih =>
    obtain ⟨here, later⟩ := forall_mem_cons.mp http
    unfold isHttpLocation at here
    cases matcher : location.matcher <;> simp [matcher] at here
    simp only [scanLocations, matcher]
    exact ih later

private lemma selectRouteTarget_http
    (http : ∀ location ∈ routes.locations, isHttpLocation location = true) :
    selectRouteTarget crates routes path = none := by
  have noRegex : routes.locations.find? (regexMatches crates path) = none := by
    apply find?_eq_none.mpr
    intro location mem
    have here := http location mem
    unfold isHttpLocation at here
    unfold regexMatches
    cases matcher : location.matcher <;> simp [matcher] at here ⊢
  rw [selectRouteTarget, scanLocations_http http, noRegex]
  rfl

private lemma resolveLocation_httpOnly (httpOnly : HttpOnly vhosts) (routingHost : Option String) :
    resolveLocation crates session vhosts routingHost =
      resolveHttpRules crates session (descending (candidates vhosts routingHost)) := by
  have noNginx : ((selectServerRoutes vhosts routingHost).bind fun routes =>
      selectRouteTarget crates routes session.uri.path) = none := by
    cases selected : selectServerRoutes vhosts routingHost with
    | none => rfl
    | some routes =>
      apply selectRouteTarget_http
      rcases or_eq_some_iff.mp selected with named | ⟨_, default⟩
      · obtain ⟨host, _, best⟩ := bind_eq_some_iff.mp named
        obtain ⟨name, isBest⟩ := exists_isBest_of_bestMatch best
        exact httpOnly.named name routes isBest.present
      · exact httpOnly.default routes default
  rw [resolveLocation, noNginx, or_none]

/-- A location is found exactly when some candidate has a matching rule, and it is
the best rule of the highest candidate that has one: the greatest score, and the
first of several. -/
structure FollowsPrecedence (crates : Crates) (session : Session) (vhosts : VirtualHostRoutes)
    (routingHost : Option String) (outcome : Option CompiledLocation) : Prop where
  found : outcome.isSome = true ↔ ∃ score routes, Candidate vhosts routingHost score routes ∧
    HasMatch crates session routes
  best : ∀ location, outcome = some location →
    ∃ score routes, Candidate vhosts routingHost score routes ∧
      (∀ otherScore others, Candidate vhosts routingHost otherScore others →
        HasMatch crates session others → otherScore ≤ score) ∧
      ∃ ruleScoreFound, IsFirstBest (ruleScore crates session) routes.locations
        ruleScoreFound location

/-- No empty virtual host comes before one with a match. -/
def Unhidden (crates : Crates) (session : Session) (vhosts : VirtualHostRoutes)
    (routingHost : Option String) : Prop :=
  (∃ score routes, Candidate vhosts routingHost score routes ∧ HasMatch crates session routes) →
    ∀ score routes, Candidate vhosts routingHost score routes → routes.locations = [] →
      ∃ otherScore others, Candidate vhosts routingHost otherScore others ∧
        HasMatch crates session others ∧ score < otherScore

lemma Candidate.unique {left right : ServerRoutes}
    (leftCandidate : Candidate vhosts name score left)
    (rightCandidate : Candidate vhosts name score right) : left = right := by
  have pairs := inj_on_of_nodup_map (candidates_distinct vhosts name)
    (mem_candidates.mpr leftCandidate) (mem_candidates.mpr rightCandidate) rfl
  exact congrArg Prod.snd pairs

private lemma exists_highest_match
    (here : ∃ score routes, Candidate vhosts name score routes ∧ HasMatch crates session routes) :
    ∃ score routes, Candidate vhosts name score routes ∧ HasMatch crates session routes ∧
      ∀ otherScore others, Candidate vhosts name otherScore others →
        HasMatch crates session others → otherScore ≤ score := by
  obtain ⟨score, routes, candidate, hasMatch⟩ := here
  have listed : ∃ item ∈ candidates vhosts name, HasMatch crates session item.2 :=
    ⟨(score, routes), mem_candidates.mpr candidate, hasMatch⟩
  obtain ⟨⟨best, bestRoutes⟩, mem, bestMatch, greatest⟩ := exists_greatest listed
  refine ⟨best, bestRoutes, mem_candidates.mp mem, bestMatch, ?_⟩
  intro otherScore others otherCandidate otherMatch
  exact greatest (otherScore, others) (mem_candidates.mpr otherCandidate) otherMatch

private lemma resolves_of_unhidden (httpOnly : HttpOnly vhosts)
    (unhidden : Unhidden crates session vhosts name)
    (here : ∃ score routes, Candidate vhosts name score routes ∧ HasMatch crates session routes) :
    ∃ location, resolveHttpRules crates session
      (descending (candidates vhosts name)) = some location := by
  obtain ⟨score, routes, candidate, hasMatch, highest⟩ := exists_highest_match here
  cases rule : bestRule crates session routes with
  | none => exact absurd hasMatch (bestRule_eq_none.mp rule)
  | some location =>
    refine ⟨location, resolveHttpRules_candidates.mpr ⟨score, routes, candidate, rule, ?_⟩⟩
    intro otherScore others otherCandidate above
    constructor
    · cases shape : others.locations with
      | nil =>
        obtain ⟨highScore, _, highCandidate, highMatch, higher⟩ :=
          unhidden here otherScore others otherCandidate shape
        exact absurd (highest highScore _ highCandidate highMatch) (above.trans higher).not_ge
      | cons first rest =>
        have http := httpOnly.candidate otherCandidate first (shape ▸ mem_cons_self)
        rw [any_cons, http, Bool.true_or]
    · exact fun otherMatch => absurd (highest _ _ otherCandidate otherMatch) above.not_ge

private lemma followsPrecedence_iff (httpOnly : HttpOnly vhosts) (name : Option String) :
    FollowsPrecedence crates session vhosts name
        (resolveLocation crates session vhosts name) ↔
      Unhidden crates session vhosts name := by
  rw [resolveLocation_httpOnly httpOnly]
  constructor
  · intro follows here score routes candidate empty
    obtain ⟨location, resolved⟩ := isSome_iff_exists.mp (follows.found.mpr here)
    obtain ⟨best, bestRoutes, bestCandidate, rule, passed⟩ :=
      resolveHttpRules_candidates.mp resolved
    have hasMatch : HasMatch crates session bestRoutes := by
      by_contra none
      rw [bestRule_eq_none.mpr none] at rule
      cases rule
    refine ⟨best, bestRoutes, bestCandidate, hasMatch, ?_⟩
    rcases lt_trichotomy score best with below | same | above
    · exact below
    · subst same
      rw [candidate.unique bestCandidate] at empty
      obtain ⟨found, mem, _⟩ := hasMatch
      rw [empty] at mem
      cases mem
    · have http := (passed score routes candidate above).1
      rw [empty] at http
      cases http
  · intro unhidden
    constructor
    · rw [isSome_iff_exists]
      constructor
      · rintro ⟨location, resolved⟩
        obtain ⟨score, routes, candidate, rule, _⟩ := resolveHttpRules_candidates.mp resolved
        refine ⟨score, routes, candidate, ?_⟩
        by_contra none
        rw [bestRule_eq_none.mpr none] at rule
        cases rule
      · exact resolves_of_unhidden httpOnly unhidden
    · intro location resolved
      obtain ⟨score, routes, candidate, rule, passed⟩ := resolveHttpRules_candidates.mp resolved
      refine ⟨score, routes, candidate, ?_, isFirstBest_of_bestRule rule⟩
      intro otherScore others otherCandidate otherMatch
      by_contra above
      exact (passed otherScore others otherCandidate (not_le.mp above)).2 otherMatch

/-- On a listener with HTTP rules only, a request that passes the check of its
names is routed by the documented precedence exactly when no virtual host without
locations hides the virtual hosts below it. -/
theorem http_route_precedence_iff {crates : Crates} {router : CompiledRouter} {session : Session}
    {key : ListenKey} (listened : sessionListenKey session = .ok key) {vhosts : VirtualHostRoutes}
    (found : listenerRoutes router key = some vhosts) (httpOnly : HttpOnly vhosts)
    {host : Option String} (hostOk : requestHost crates session = .ok host)
    (consistent : validateSniHostConsistency host (listenerSni key session) = .ok ()) :
    ∃ outcome, resolveRoute crates router session = .ok outcome ∧
      (FollowsPrecedence crates session vhosts (host.or (listenerSni key session))
          (outcome.map ResolvedLocation.location) ↔
        Unhidden crates session vhosts (host.or (listenerSni key session))) := by
  refine ⟨(resolveLocation crates session vhosts (host.or (listenerSni key session))).map
    fun location => { location, host }, ?_, ?_⟩
  · rw [resolveRoute, listened, ok_bind, found]
    simp only [hostOk, consistent, ok_bind, pure_eq_ok]
  · rw [Option.map_map, Function.comp_def, Option.map_id']
    exact followsPrecedence_iff httpOnly _

end Candidates

namespace HiddenExample

def rule (path : HttpPathMatch) (status : UInt16) : Location where
  matcher := .http { path, method := none, headers := [], queryParams := [] }
  directives := [.directResponse status]

def http (rules : List Location) : Http where
  servers :=
    [{ serverNames := ["a.example.com"], locations := rules, listens := [{ port := 8080 }] },
     { serverNames := ["*.example.com"]
       locations := [rule (.pathPrefix "/") 204]
       listens := [{ port := 8080 }] }]

def session : Session where
  serverAddr := some (.inet (.v4 { a := 127, b := 0, c := 0, d := 1 }) 8080)
  uri := { path := "/" }
  headers := { entries := [("host", HeaderValue.ofText "a.example.com")] }

def key : ListenKey := ListenKey.ofListen { port := 8080 }

end HiddenExample

open HiddenExample in
/-- The name without locations hides the wildcard: its rule matches the request,
but no location is found. -/
theorem empty_host_hides_wildcard :
    ∃ router vhosts, fromHttp Reference.platform (http []) = .ok router ∧
      sessionListenKey session = .ok key ∧ listenerRoutes router key = some vhosts ∧
      (vhosts.named.lookup "*.example.com").any (fun routes => routes.locations.any
        fun location => (ruleScore DotExample.crates session location).isSome) = true ∧
      ∃ outcome, resolveRoute DotExample.crates router session = .ok outcome ∧
        outcome.isNone = true := by
  simp only [exists_and_left]
  decide +kernel

open HiddenExample in
theorem other_rule_hides_nothing :
    ∃ router vhosts, fromHttp Reference.platform (http [rule (.exact "/other") 200]) = .ok router ∧
      listenerRoutes router key = some vhosts ∧
      ∃ outcome, resolveRoute DotExample.crates router session = .ok outcome ∧
        FollowsPrecedence DotExample.crates session vhosts (some "a.example.com")
          (outcome.map ResolvedLocation.location) := by
  have run : ∃ router,
      fromHttp Reference.platform (http [rule (.exact "/other") 200]) = .ok router ∧
      ∃ vhosts, listenerRoutes router key = some vhosts ∧ vhosts.default.isNone = true ∧
        (vhosts.named.values.all fun routes =>
          !routes.locations.isEmpty && routes.locations.all isHttpLocation) = true := by
    decide +kernel
  obtain ⟨router, accepted, vhosts, found, noDefault, named⟩ := run
  rw [isNone_iff_eq_none] at noDefault
  have rules : ∀ name routes, vhosts.named.lookup name = some routes →
      routes.locations ≠ [] ∧ ∀ location ∈ routes.locations, isHttpLocation location = true := by
    intro name routes present
    simpa using all_eq_true.mp named routes (mem_values_iff.mpr ⟨name, present⟩)
  have httpOnly : HttpOnly vhosts :=
    ⟨fun name routes present => (rules name routes present).2, by simp [noDefault]⟩
  have hostOk : requestHost DotExample.crates session = .ok (some "a.example.com") := by decide
  obtain ⟨outcome, resolved, follows⟩ := http_route_precedence_iff
    (show sessionListenKey session = .ok key by decide) found httpOnly hostOk rfl
  refine ⟨router, vhosts, accepted, found, outcome, resolved, follows.mpr ?_⟩
  intro _ score routes candidate empty
  rcases candidate with ⟨_, _, name, present, _⟩ | ⟨default, _⟩
  · exact absurd empty (rules name routes present).1
  · rw [noDefault] at default
    cases default

end Ngxora.Routing
