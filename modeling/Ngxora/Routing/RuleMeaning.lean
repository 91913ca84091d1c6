/-
What a compiled HTTP rule matches.
-/

import Ngxora.Routing.Resolve

namespace Ngxora.Routing

open Reference Text List Option String Http Results Router

def segments (path : String) : List String := splitOn '/' path

/-- A prefix matches by its segments. -/
def PathMeans (path : String) : HttpPathMatch → Prop
  | .exact wanted => path = wanted
  | .pathPrefix start => segments (trimEndMatches '/' start) <+: segments path

def firstHeader (matcher : HttpMatch) (name : String) : Option String :=
  (matcher.headers.find? fun condition => eqIgnoreAsciiCase condition.1 name).map Prod.snd

def firstQueryParam (matcher : HttpMatch) (name : String) : Option String :=
  (matcher.queryParams.find? fun condition => condition.1 == name).map Prod.snd

def carriedHeader (session : Session) (name : String) : Option HeaderValue :=
  session.headers.get (toAsciiLowercase name)

/-- Of several conditions under one name the first counts. -/
structure RuleMeans (crates : Crates) (matcher : HttpMatch) (session : Session) : Prop where
  path : PathMeans session.uri.path matcher.path
  method : ∀ method ∈ matcher.method, method = session.method
  headers : ∀ condition ∈ matcher.headers, ∃ value,
    firstHeader matcher condition.1 = some value ∧
      carriedHeader session condition.1 = some value.toByteArray.data.toList
  queryParams : ∀ condition ∈ matcher.queryParams, ∃ value,
    firstQueryParam matcher condition.1 = some value ∧
      queryValue crates session.uri.query condition.1 = some value

variable {start path : String} {conditions : List (String × String)}

lemma segments_prefix_iff : segments start <+: segments path ↔
    path = start ∨ ∃ rest, path.toList = start.toList ++ '/' :: rest := by
  have parts : segments start <+: segments path ↔
      start.toList.splitOn '/' <+: path.toList.splitOn '/' := by
    constructor
    · intro isPrefix
      have texts := isPrefix.map String.toList
      simpa [segments, Text.splitOn, Function.comp_def] using texts
    · intro isPrefix
      exact isPrefix.map String.ofList
  rw [parts, splitOn_prefix_iff, toList_inj]

lemma prefixMatches_iff : prefixMatches start path = true ↔
    segments (trimEndMatches '/' start) <+: segments path := by
  rw [segments_prefix_iff]
  simp only [prefixMatches, Bool.or_eq_true, beq_iff_eq, Option.any_eq_true,
    afterStart_eq_some, startsWith_iff]
  apply or_congr_right
  constructor
  · rintro ⟨rest, split, ⟨tail, slash⟩⟩
    refine ⟨tail, ?_⟩
    rw [split, ← slash]
    rfl
  · rintro ⟨tail, split⟩
    refine ⟨String.ofList ('/' :: tail), ?_, ⟨tail, ?_⟩⟩
    · rw [split, String.toList_ofList]
    · exact toList_ofList.symm

lemma trimEndMatches_trimmedPrefix (path : String) :
    trimEndMatches '/' (trimmedPrefix path) = trimEndMatches '/' path := by
  unfold trimmedPrefix
  by_cases empty : trimEndMatches '/' path = ""
  · rw [if_pos empty, empty]
    decide
  · rw [if_neg empty, trimEndMatches_idem]

lemma pathMatches_compile (configured : HttpPathMatch) :
    pathMatches path (compilePathMatch configured) = true ↔ PathMeans path configured := by
  cases configured with
  | exact wanted =>
    rw [compilePathMatch, pathMatches, PathMeans, beq_iff_eq]
    exact eq_comm
  | pathPrefix start =>
    rw [compilePathMatch, pathMatches, PathMeans, prefixMatches_iff, trimEndMatches_trimmedPrefix]

lemma mem_retainFirst {seen : List String} {condition : String × String} :
    condition ∈ retainFirst seen conditions ↔ condition.1 ∉ seen ∧
        conditions.find? (fun other => other.1 == condition.1) = some condition := by
  induction conditions generalizing seen with
  | nil => simp [retainFirst]
  | cons first rest ih =>
    obtain ⟨name, value⟩ := first
    obtain ⟨wanted, wantedValue⟩ := condition
    by_cases same : name = wanted
    · subst same
      by_cases known : name ∈ seen
      · simp [retainFirst, known, ih]
      · simp [retainFirst, known, ih, eq_comm]
    · by_cases known : name ∈ seen
      · simp [retainFirst, known, ih, same]
      · have other : wanted ≠ name := Ne.symm same
        simp [retainFirst, known, ih, same, other]

lemma forall_retainFirst {holds : String × String → Prop} :
    (∀ cond ∈ retainFirst [] conditions, holds cond) ↔ ∀ cond ∈ conditions, ∃ value,
        (conditions.find? fun other => other.1 == cond.1).map Prod.snd = some value ∧
          holds (cond.1, value) := by
  constructor
  · intro kept cond mem
    cases found : conditions.find? fun other => other.1 == cond.1 with
    | none =>
      have absent := find?_eq_none.mp found cond mem
      simp at absent
    | some first =>
      have named : first.1 = cond.1 := by simpa using find?_some found
      have same : (cond.1, first.2) = first := by rw [← named]
      refine ⟨first.2, rfl, ?_⟩
      rw [same]
      apply kept first
      rw [mem_retainFirst, named]
      exact ⟨not_mem_nil, found⟩
  · intro firsts cond mem
    obtain ⟨_, found⟩ := mem_retainFirst.mp mem
    obtain ⟨value, isFirst, valueHolds⟩ := firsts cond (mem_of_find?_eq_some found)
    rw [found, map_some, Option.some.injEq] at isFirst
    rwa [← isFirst] at valueHolds

section Compiled

variable {platform : Platform}
  (lowercases : ∀ {name canonical : String},
    platform.headerNameFromBytes name = some canonical → canonical = toAsciiLowercase name)

def lowered (condition : String × String) : String × String :=
  (toAsciiLowercase condition.1, condition.2)

include lowercases in
lemma headers_compile {configured headers : List (String × String)}
    (built : configured.mapM (compileHeader platform) = .ok headers) :
    headers = configured.map lowered := by
  have pairs := mapM_eq_ok.mp built
  induction pairs with
  | nil => rfl
  | cons headerOk _ ih =>
    obtain ⟨name, nameOk, _, _, done⟩ := bind₂_eq_ok.mp headerOk
    cases done
    rw [map_cons, ih (mapM_eq_ok.mpr ‹_›), lowered, lowercases (orFail_eq_ok.mp nameOk)]

lemma find_lowered (configured : List (String × String)) (name : String) :
    ((configured.map lowered).find? fun other => other.1 == toAsciiLowercase name).map
        Prod.snd =
      (configured.find? fun cond => eqIgnoreAsciiCase cond.1 name).map Prod.snd := by
  rw [List.find?_map, Option.map_map]
  rfl

include lowercases in
lemma ruleMatches_compile {crates : Crates} {matcher built : HttpMatch}
    {session : Session} (ok : compileMatch platform matcher = .ok built) :
    ruleMatches crates built session = true ↔ RuleMeans crates matcher session := by
  obtain ⟨_, _, _, _, headers, headersOk, done⟩ := bind₃_eq_ok.mp ok
  cases done
  have method : matcher.method.all (fun method => method == session.method) = true ↔
      ∀ method ∈ matcher.method, method = session.method := by
    simp [Option.all_eq_true]
  have header : (retainFirst [] headers).all (fun cond =>
      (session.headers.get (toAsciiLowercase cond.1)).any fun header =>
        header == cond.2.toByteArray.data.toList) = true ↔
      ∀ cond ∈ matcher.headers, ∃ value, firstHeader matcher cond.1 = some value ∧
        carriedHeader session cond.1 = some value.toByteArray.data.toList := by
    rw [List.all_eq_true, headers_compile lowercases headersOk, forall_retainFirst,
      List.forall_mem_map]
    refine forall₂_congr fun cond _ => exists_congr fun value => and_congr ?_ ?_
    · change ((matcher.headers.map lowered).find? fun other =>
        other.1 == toAsciiLowercase cond.1).map Prod.snd = some value ↔ _
      rw [find_lowered]
      rfl
    · change (session.headers.get (toAsciiLowercase (toAsciiLowercase cond.1))).any
        _ = true ↔ _
      rw [toAsciiLowercase_idem, carriedHeader]
      simp only [Option.any_eq_true, beq_iff_eq, exists_eq_right]
  have query : (retainFirst [] matcher.queryParams).all (fun cond =>
      queryValue crates session.uri.query cond.1 == some cond.2) = true ↔
      ∀ cond ∈ matcher.queryParams, ∃ value,
        firstQueryParam matcher cond.1 = some value ∧
          queryValue crates session.uri.query cond.1 = some value := by
    rw [List.all_eq_true, forall_retainFirst]
    simp only [beq_iff_eq]
    rfl
  simp only [ruleMatches, Bool.and_eq_true]
  rw [pathMatches_compile, method, header, query]
  constructor
  · rintro ⟨⟨⟨path, method⟩, headers⟩, queryParams⟩
    exact ⟨path, method, headers, queryParams⟩
  · rintro ⟨path, method, headers, queryParams⟩
    exact ⟨⟨⟨path, method⟩, headers⟩, queryParams⟩

include lowercases in
/-- A compiled rule matches a request exactly when the configured one means it, and
is compiled to itself. -/
theorem compile_match_preserves_meaning (lawful : platform.Lawful)
    {matcher compiled : HttpMatch} (accepted : compileMatch platform matcher = .ok compiled) :
    (∀ crates session, ruleMatches crates compiled session = true ↔
        RuleMeans crates matcher session) ∧
      compileMatch platform compiled = .ok compiled :=
  ⟨fun _ _ => ruleMatches_compile lowercases accepted, compileMatch_idem lawful accepted⟩

end Compiled

namespace MeaningExample

def matcher : HttpMatch where
  path := .pathPrefix "/api/"
  method := some "GET"
  headers := [("X-Key", "first"), ("x-key", "second")]
  queryParams := [("q", "1"), ("q", "2")]

def compiled : HttpMatch where
  path := .pathPrefix "/api"
  method := some "GET"
  headers := [("x-key", "first")]
  queryParams := [("q", "1")]

lemma lowercases {name canonical : String}
    (ok : platform.headerNameFromBytes name = some canonical) :
    canonical = toAsciiLowercase name := by
  change headerNameFromBytes name = some canonical at ok
  unfold headerNameFromBytes at ok
  split at ok
  · exact (Option.some.inj ok).symm
  · cases ok

end MeaningExample

open MeaningExample in
theorem repeated_conditions_keep_meaning :
    compileMatch platform matcher = .ok compiled ∧
      (∀ crates session, ruleMatches crates compiled session = true ↔
        RuleMeans crates matcher session) ∧
      compileMatch platform compiled = .ok compiled := by
  have accepted : compileMatch platform matcher = .ok compiled := by decide +kernel
  exact ⟨accepted, compile_match_preserves_meaning lowercases lawful accepted⟩

end Ngxora.Routing
