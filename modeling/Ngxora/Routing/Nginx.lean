/-
Locations by the rule of nginx.
-/

import Ngxora.Routing.Resolve

namespace Ngxora.Routing

open Text Ranking List Option Results Router

def exactOf (location : CompiledLocation) : Option String :=
  match location.matcher with
  | .exact path => some path
  | _ => none

def plainPrefixOf (location : CompiledLocation) : Option String :=
  match location.matcher with
  | .pathPrefix start => some start
  | _ => none

def preferPrefixOf (location : CompiledLocation) : Option String :=
  match location.matcher with
  | .preferPrefix start => some start
  | _ => none

def prefixOf (location : CompiledLocation) : Option String :=
  (plainPrefixOf location).or (preferPrefixOf location)

/-- Locations that nginx accepts side by side. -/
structure NginxLocations (routes : ServerRoutes) : Prop where
  noHttp : ∀ location ∈ routes.locations, isHttpLocation location = false
  exacts : (routes.locations.filterMap exactOf).Nodup
  prefixes : (routes.locations.filterMap prefixOf).Nodup

structure StartsPath (start : CompiledLocation → Option String) (routes : ServerRoutes)
    (path : String) (location : CompiledLocation) (found : String) : Prop where
  member : location ∈ routes.locations
  isStart : start location = some found
  starts : startsWith found path = true

/-- The longest matching prefix among plain and `^~` locations together. -/
structure IsLongest (routes : ServerRoutes) (path : String) (location : CompiledLocation)
    (found : String) : Prop extends StartsPath prefixOf routes path location found where
  longest : ∀ other otherFound, StartsPath prefixOf routes path other otherFound →
    byteLength otherFound ≤ byteLength found

inductive NginxFallsTo (crates : Crates) (routes : ServerRoutes) (path : String) :
    Option CompiledLocation → Prop
  | preferred (location : CompiledLocation) (found : String)
      (longest : IsLongest routes path location found)
      (prefer : preferPrefixOf location = some found) :
      NginxFallsTo crates routes path (some location)
  | regex (location : CompiledLocation)
      (plain : ∀ other found, IsLongest routes path other found → plainPrefixOf other = some found)
      (first : routes.locations.find? (regexMatches crates path) = some location) :
      NginxFallsTo crates routes path (some location)
  | plain (location : CompiledLocation) (found : String)
      (longest : IsLongest routes path location found)
      (plain : plainPrefixOf location = some found)
      (noRegex : routes.locations.find? (regexMatches crates path) = none) :
      NginxFallsTo crates routes path (some location)
  | nothing (noPrefix : ∀ location found, ¬ StartsPath prefixOf routes path location found)
      (noRegex : routes.locations.find? (regexMatches crates path) = none) :
      NginxFallsTo crates routes path none

/-- An exact location first, then the prefixes and regular expressions. -/
inductive NginxSelects (crates : Crates) (routes : ServerRoutes) (path : String) :
    Option CompiledLocation → Prop
  | exact (location : CompiledLocation) (member : location ∈ routes.locations)
      (equals : exactOf location = some path) :
      NginxSelects crates routes path (some location)
  | other (selected : Option CompiledLocation)
      (noExact : ∀ location ∈ routes.locations, exactOf location ≠ some path)
      (falls : NginxFallsTo crates routes path selected) :
      NginxSelects crates routes path selected

def lengthOf (start : CompiledLocation → Option String) (path : String)
    (location : CompiledLocation) : Option Nat :=
  ((start location).filter fun found => startsWith found path).map byteLength

variable {start : CompiledLocation → Option String} {path found : String}

section Scans

variable {location : CompiledLocation} {routes : ServerRoutes}

private lemma lengthOf_eq_some {length : Nat} : lengthOf start path location = some length ↔
    ∃ found, start location = some found ∧ startsWith found path = true ∧
      byteLength found = length := by
  simp only [lengthOf, map_eq_some_iff, filter_eq_some_iff, and_assoc]

private lemma keepLonger_eq (isStart : start location = some found)
    (best : Option (CompiledLocation × Nat)) : (keepLonger path found location best).map Prod.swap =
      keepBetter (lengthOf start path) (best.map Prod.swap) location := by
  unfold keepLonger keepBetter
  by_cases starts : startsWith found path = true
  · have length : lengthOf start path location = some (byteLength found) :=
      lengthOf_eq_some.mpr ⟨found, isStart, starts, rfl⟩
    rw [length]
    cases best with
    | none => simp [starts]
    | some kept =>
      by_cases longer : kept.2 < byteLength found
      · simp [starts, longer]
      · simp [starts, longer]
  · have noLength : lengthOf start path location = none := by simp [lengthOf, isStart, starts]
    rw [noLength]
    simp [starts]

private lemma keepBetter_other (other : start location = none)
    (best : Option (Nat × CompiledLocation)) :
    keepBetter (lengthOf start path) best location = best := by
  simp [keepBetter, lengthOf, other]

/-- What one pass over the locations has found. -/
def ScanFinds (path : String) (scan : PrefixScan) (locations : List CompiledLocation) :
    CompiledLocation ⊕ PrefixScan → Prop
  | .inl location => location ∈ locations ∧ exactOf location = some path
  | .inr result =>
    (∀ location ∈ locations, exactOf location ≠ some path) ∧
    result.bestPrefix.map Prod.swap =
      locations.foldl (keepBetter (lengthOf plainPrefixOf path))
        (scan.bestPrefix.map Prod.swap) ∧
    result.bestPreferPrefix.map Prod.swap =
      locations.foldl (keepBetter (lengthOf preferPrefixOf path))
        (scan.bestPreferPrefix.map Prod.swap)

variable {scan : PrefixScan} {rest : List CompiledLocation}
  {outcome : CompiledLocation ⊕ PrefixScan}

private lemma scanFinds_cons {next : PrefixScan} (later : ScanFinds path next rest outcome)
    (notExact : exactOf location ≠ some path)
    (plain : next.bestPrefix.map Prod.swap =
      keepBetter (lengthOf plainPrefixOf path) (scan.bestPrefix.map Prod.swap) location)
    (prefer : next.bestPreferPrefix.map Prod.swap =
      keepBetter (lengthOf preferPrefixOf path) (scan.bestPreferPrefix.map Prod.swap) location) :
    ScanFinds path scan (location :: rest) outcome := by
  cases outcome with
  | inl found => exact ⟨mem_cons_of_mem _ later.1, later.2⟩
  | inr res =>
    obtain ⟨noExact, bestPlain, bestPrefer⟩ := later
    refine ⟨forall_mem_cons.mpr ⟨notExact, noExact⟩, ?_, ?_⟩
    · rwa [foldl_cons, ← plain]
    · rwa [foldl_cons, ← prefer]

private lemma scanFinds_skip (later : ScanFinds path scan rest outcome)
    (notExact : exactOf location ≠ some path) (notPlain : plainPrefixOf location = none)
    (notPrefer : preferPrefixOf location = none) : ScanFinds path scan (location :: rest) outcome :=
  scanFinds_cons later notExact (keepBetter_other notPlain _).symm
    (keepBetter_other notPrefer _).symm

private lemma scanFinds_scanLocations (path : String) (scan : PrefixScan)
    (locations : List CompiledLocation) :
    ScanFinds path scan locations (scanLocations path scan locations) := by
  induction locations generalizing scan with
  | nil => exact ⟨by simp, rfl, rfl⟩
  | cons location rest ih =>
    cases matcher : location.matcher with
    | exact wanted =>
      have isExact : exactOf location = some wanted := by simp [exactOf, matcher]
      simp only [scanLocations, matcher]
      by_cases equal : path = wanted
      · rw [if_pos (beq_iff_eq.mpr equal)]
        exact ⟨mem_cons_self, equal ▸ isExact⟩
      · rw [if_neg fun same => equal (beq_iff_eq.mp same)]
        apply scanFinds_skip (ih scan)
        · rw [isExact]
          exact fun same => equal (Option.some.inj same).symm
        · simp [plainPrefixOf, matcher]
        · simp [preferPrefixOf, matcher]
    | pathPrefix start =>
      have isStart : plainPrefixOf location = some start := by simp [plainPrefixOf, matcher]
      simp only [scanLocations, matcher]
      apply scanFinds_cons (ih _)
      · simp [exactOf, matcher]
      · exact keepLonger_eq isStart _
      · exact (keepBetter_other (by simp [preferPrefixOf, matcher]) _).symm
    | preferPrefix start =>
      have isStart : preferPrefixOf location = some start := by simp [preferPrefixOf, matcher]
      simp only [scanLocations, matcher]
      apply scanFinds_cons (ih _)
      · simp [exactOf, matcher]
      · exact (keepBetter_other (by simp [plainPrefixOf, matcher]) _).symm
      · exact keepLonger_eq isStart _
    | http rule | regex caseInsensitive pattern | named name =>
      simp only [scanLocations, matcher]
      apply scanFinds_skip (ih scan) <;> simp [exactOf, plainPrefixOf, preferPrefixOf, matcher]

def longestOf (start : CompiledLocation → Option String) (path : String)
    (locations : List CompiledLocation) : Option CompiledLocation :=
  (firstBest (lengthOf start path) locations).map Prod.snd

private lemma not_starts_of_longestOf (none : longestOf start path routes.locations = none)
    (location : CompiledLocation) (found : String) :
    ¬ StartsPath start routes path location found := by
  intro starts
  rw [longestOf, map_eq_none_iff, firstBest_eq_none] at none
  have length := lengthOf_eq_some.mpr ⟨found, starts.isStart, starts.starts, rfl⟩
  rw [none location starts.member] at length
  cases length

private lemma longestOf_eq_some (best : longestOf start path routes.locations = some location) :
    ∃ found, StartsPath start routes path location found ∧
      ∀ other otherFound, StartsPath start routes path other otherFound →
        byteLength otherFound ≤ byteLength found := by
  obtain ⟨⟨length, kept⟩, firstBest, same⟩ := map_eq_some_iff.mp best
  cases same
  have isBest := isFirstBest_of_firstBest firstBest
  obtain ⟨found, isStart, starts, rfl⟩ := lengthOf_eq_some.mp isBest.scored
  refine ⟨found, ⟨isBest.mem, isStart, starts⟩, ?_⟩
  intro other otherFound otherStarts
  exact isBest.le otherStarts.member
    (lengthOf_eq_some.mpr ⟨otherFound, otherStarts.isStart, otherStarts.starts, rfl⟩)

private lemma selectRouteTarget_eq (crates : Crates) (routes : ServerRoutes) (path : String) :
    (∃ location ∈ routes.locations, exactOf location = some path ∧
        selectRouteTarget crates routes path = some location) ∨
      ((∀ location ∈ routes.locations, exactOf location ≠ some path) ∧
        selectRouteTarget crates routes path = ((longestOf preferPrefixOf path routes.locations).or
            (routes.locations.find? (regexMatches crates path))).or
              (longestOf plainPrefixOf path routes.locations)) := by
  have found := scanFinds_scanLocations path {} routes.locations
  unfold selectRouteTarget
  cases outcome : scanLocations path {} routes.locations with
  | inl location =>
    rw [outcome] at found
    exact .inl ⟨location, found.1, found.2, rfl⟩
  | inr scan =>
    rw [outcome] at found
    obtain ⟨noExact, plain, prefer⟩ := found
    have kept {start : CompiledLocation → Option String} {best : Option (CompiledLocation × Nat)}
        (same : best.map Prod.swap = routes.locations.foldl (keepBetter (lengthOf start path)) none) :
        best.map Prod.fst = longestOf start path routes.locations := by
      rw [longestOf, firstBest, ← same, Option.map_map]
      rfl
    refine .inr ⟨noExact, ?_⟩
    simp only [kept plain, kept prefer]

lemma mem_of_selectRouteTarget {crates : Crates}
    (selected : selectRouteTarget crates routes path = some location) :
    location ∈ routes.locations := by
  rcases selectRouteTarget_eq crates routes path with ⟨found, mem, _, same⟩ | ⟨_, same⟩
  · rw [same] at selected
    exact Option.some.inj selected ▸ mem
  · rw [same] at selected
    rcases or_eq_some_iff.mp selected with preferred | ⟨_, plain⟩
    · rcases or_eq_some_iff.mp preferred with start | ⟨_, regex⟩
      · obtain ⟨_, starts, _⟩ := longestOf_eq_some start
        exact starts.member
      · exact mem_of_find?_eq_some regex
    · obtain ⟨_, starts, _⟩ := longestOf_eq_some plain
      exact starts.member

/-- The router keeps one longest prefix for each kind and prefers that of the `^~` locations
whatever its length. -/
def PreferReachesFurthest (routes : ServerRoutes) (path : String) : Prop :=
  (∃ location found, StartsPath preferPrefixOf routes path location found) →
    ∃ location found, StartsPath preferPrefixOf routes path location found ∧
      ∀ plain start, StartsPath plainPrefixOf routes path plain start →
        byteLength start < byteLength found

private lemma StartsPath.ofPlain (starts : StartsPath plainPrefixOf routes path location found) :
    StartsPath prefixOf routes path location found where
  member := starts.member
  isStart := by rw [prefixOf, starts.isStart, some_or]
  starts := starts.starts

private lemma plainPrefixOf_of_prefer (prefer : preferPrefixOf location = some found) :
    plainPrefixOf location = none := by
  unfold preferPrefixOf at prefer
  unfold plainPrefixOf
  split at prefer
  next matcher => rw [matcher]
  next => cases prefer

private lemma StartsPath.ofPrefer (starts : StartsPath preferPrefixOf routes path location found) :
    StartsPath prefixOf routes path location found where
  member := starts.member
  isStart := by rw [prefixOf, plainPrefixOf_of_prefer starts.isStart, none_or, starts.isStart]
  starts := starts.starts

lemma StartsPath.cases (starts : StartsPath prefixOf routes path location found) :
    StartsPath plainPrefixOf routes path location found ∨
      StartsPath preferPrefixOf routes path location found := by
  rcases or_eq_some_iff.mp starts.isStart with plain | ⟨_, prefer⟩
  · exact .inl ⟨starts.member, plain, starts.starts⟩
  · exact .inr ⟨starts.member, prefer, starts.starts⟩

private lemma eq_of_sameLength (nodup : (routes.locations.filterMap prefixOf).Nodup)
    {left right : CompiledLocation} {leftFound rightFound : String}
    (leftStarts : StartsPath prefixOf routes path left leftFound)
    (rightStarts : StartsPath prefixOf routes path right rightFound)
    (same : byteLength leftFound = byteLength rightFound) : left = right := by
  have equal : leftFound = rightFound :=
    eq_of_starts (startsWith_iff.mp leftStarts.starts)
      (startsWith_iff.mp rightStarts.starts) same
  by_contra differ
  have pairwise := pairwise_filterMap.mp nodup
  have symmetric : Std.Symm fun first second : CompiledLocation =>
      ∀ found, prefixOf first = some found → ∀ other, prefixOf second = some other →
        found ≠ other :=
    ⟨fun _ _ apart found isFound other isOther same => apart other isOther found isFound same.symm⟩
  exact pairwise.forall leftStarts.member rightStarts.member differ leftFound
    leftStarts.isStart rightFound rightStarts.isStart equal

private lemma plain_lt_prefer (nodup : (routes.locations.filterMap prefixOf).Nodup)
    {prefer : CompiledLocation} (longest : IsLongest routes path prefer found)
    (isPrefer : preferPrefixOf prefer = some found) {plain : CompiledLocation} {start : String}
    (starts : StartsPath plainPrefixOf routes path plain start) :
    byteLength start < byteLength found := by
  apply lt_of_le_of_ne (longest.longest plain start starts.ofPlain)
  intro same
  have one := eq_of_sameLength nodup starts.ofPlain longest.toStartsPath same
  have none := plainPrefixOf_of_prefer isPrefer
  rw [← one, starts.isStart] at none
  cases none

private lemma regex_not_prefer {crates : Crates}
    (isRegex : regexMatches crates path location = true) : preferPrefixOf location = none := by
  unfold regexMatches at isRegex
  unfold preferPrefixOf
  split at isRegex
  next matcher => rw [matcher]
  next => cases isRegex

/-- The router picks what nginx prescribes exactly when an exact location equals
the path or no plain prefix reaches as far as the `^~` prefixes that match. -/
theorem select_route_target_nginx_iff (crates : Crates) {routes : ServerRoutes}
    (locations : NginxLocations routes) (path : String) :
    NginxSelects crates routes path (selectRouteTarget crates routes path) ↔
      (∃ location ∈ routes.locations, exactOf location = some path) ∨
        PreferReachesFurthest routes path := by
  rcases selectRouteTarget_eq crates routes path with
    ⟨location, member, equals, selected⟩ | ⟨noExact, selected⟩
  · rw [selected]
    exact ⟨fun _ => Or.inl ⟨location, member, equals⟩, fun _ => .exact location member equals⟩
  rw [selected]
  cases prefer : longestOf preferPrefixOf path routes.locations with
  | some location =>
    rcases longestOf_eq_some prefer with ⟨found, starts, longest⟩
    rw [some_or, some_or]
    constructor
    · intro selects
      right
      intro _
      cases selects with
      | exact _ member equals => exact absurd equals (noExact location member)
      | other _ _ falls =>
        cases falls with
        | preferred _ best isLongest isPrefer =>
          exact ⟨location, best, ⟨isLongest.member, isPrefer, isLongest.starts⟩,
            fun _ _ plain => plain_lt_prefer locations.prefixes isLongest isPrefer plain⟩
        | regex _ _ first =>
          have none := regex_not_prefer (find?_some first)
          rw [starts.isStart] at none
          cases none
        | plain _ best _ isPlain =>
          have none := plainPrefixOf_of_prefer starts.isStart
          rw [isPlain] at none
          cases none
    · rintro (⟨other, member, equals⟩ | reaches)
      · exact absurd equals (noExact other member)
      · rcases reaches ⟨location, found, starts⟩ with ⟨best, bestFound, bestStarts, further⟩
        refine .other _ noExact (.preferred location found ⟨starts.ofPrefer, ?_⟩ starts.isStart)
        intro other otherFound otherStarts
        rcases otherStarts.cases with plain | alsoPrefer
        · exact (further other otherFound plain).le.trans (longest best bestFound bestStarts)
        · exact longest other otherFound alsoPrefer
  | none =>
    have noPrefer := not_starts_of_longestOf prefer
    have reaches : PreferReachesFurthest routes path := by
      rintro ⟨location, found, starts⟩
      exact absurd starts (noPrefer location found)
    have onlyPlain : ∀ {location found}, StartsPath prefixOf routes path location found →
        StartsPath plainPrefixOf routes path location found := by
      intro location found starts
      rcases starts.cases with plain | isPrefer
      · exact plain
      · exact absurd isPrefer (noPrefer location found)
    refine ⟨fun _ => Or.inr reaches, fun _ => .other _ noExact ?_⟩
    rw [none_or]
    cases regex : routes.locations.find? (regexMatches crates path) with
    | some location =>
      rw [some_or]
      exact .regex location (fun other found longest => (onlyPlain longest.toStartsPath).isStart)
        regex
    | none =>
      rw [none_or]
      cases plain : longestOf plainPrefixOf path routes.locations with
      | some location =>
        rcases longestOf_eq_some plain with ⟨found, starts, longest⟩
        refine .plain location found ⟨starts.ofPlain, ?_⟩ starts.isStart regex
        intro other otherFound otherStarts
        exact longest other otherFound (onlyPlain otherStarts)
      | none =>
        refine .nothing ?_ regex
        intro location found starts
        exact not_starts_of_longestOf plain location found (onlyPlain starts)

end Scans

namespace NginxExample

def location (matcher : CompiledMatcher) : CompiledLocation :=
  { clientLimits := {}
    urlRewrite := none
    routeId := 1
    matcher
    accessRules := []
    target := .action (.proxyPass "backend" 80 false "")
    upstreamTimeouts := {}
    upstreamProtocol := none
    upstreamHttp2 := {}
    upstreamSslOptions := {}
    plugins := []
    cache := none }

def preferred : CompiledLocation := location (.preferPrefix "/images/")

def plain : CompiledLocation := location (.pathPrefix "/images/icons/")

def routes : ServerRoutes where
  locations := [preferred, plain]

lemma locations : NginxLocations routes where
  noHttp := by simp [routes, preferred, plain, location, isHttpLocation]
  exacts := by decide
  prefixes := by decide

end NginxExample

open NginxExample in
theorem prefer_prefix_alone_agrees :
    NginxLocations routes ∧
      NginxSelects DotExample.crates routes "/images/a.png"
        (selectRouteTarget DotExample.crates routes "/images/a.png") := by
  refine ⟨locations, (select_route_target_nginx_iff DotExample.crates locations _).mpr
    (Or.inr fun _ => ⟨preferred, "/images/", ⟨mem_cons_self, rfl, by decide⟩, ?_⟩)⟩
  rintro other start ⟨member, isStart, starts⟩
  rcases mem_pair.mp member with same | same
  · subst same
    cases isStart
  · subst same
    cases isStart
    exact absurd starts (by decide)

open NginxExample in
/-- nginx takes the longer plain prefix, the router the shorter `^~` one. -/
theorem shorter_prefer_prefix_wins :
    NginxLocations routes ∧ ∀ crates,
      selectRouteTarget crates routes "/images/icons/a.png" = some preferred ∧
      NginxSelects crates routes "/images/icons/a.png" (some plain) ∧
      ¬ NginxSelects crates routes "/images/icons/a.png" (some preferred) := by
  have plainStarts : StartsPath prefixOf routes "/images/icons/a.png" plain "/images/icons/" :=
    ⟨by simp [routes], rfl, by decide⟩
  have noExact : ∀ location ∈ routes.locations,
      exactOf location ≠ some "/images/icons/a.png" := by
    simp [routes, preferred, plain, location, exactOf]
  refine ⟨locations, fun crates => ⟨rfl, ?_, ?_⟩⟩
  · refine .other _ noExact (.plain plain "/images/icons/" ⟨plainStarts, ?_⟩ rfl rfl)
    rintro other found ⟨member, isStart, starts⟩
    rcases mem_pair.mp member with same | same
    · subst same
      cases isStart
      decide
    · subst same
      cases isStart
      exact le_refl _
  · intro selects
    cases selects with
    | exact _ member equals => exact noExact preferred member equals
    | other _ _ falls =>
      cases falls with
      | preferred _ found longest isPrefer =>
        cases isPrefer
        exact absurd (longest.longest plain "/images/icons/" plainStarts) (by decide)
      | regex _ _ first => cases first
      | plain _ _ _ isPlain => cases isPlain

end Ngxora.Routing
