/-
Paths and queries that are forwarded.
-/

import Ngxora.Base.Percent
import Ngxora.Scp.Forwarding

namespace Ngxora.Scp

open ScpRequest Text Bool List Option String Results Router Percent Digits
open String (ofList)

private lemma replaceDots_cons {first : Char} {rest : List Char}
    (other : ∀ more, first = '%' → rest = '2' :: 'e' :: more → False) :
    replaceDots (first :: rest) = first :: replaceDots rest := by
  rwa [replaceDots]

private lemma replaceDots_append {mark : Char} (notTwo : mark ≠ '2') (notLetter : mark ≠ 'e')
    (left right : List Char) :
    replaceDots (left ++ mark :: right) = replaceDots left ++ replaceDots (mark :: right) := by
  fun_induction replaceDots left with
  | case1 rest ih => rw [cons_append, cons_append, cons_append, replaceDots, ih, cons_append]
  | case2 first rest other ih =>
    rw [cons_append, replaceDots_cons, ih, cons_append]
    intro more isPercent same
    cases rest with
    | nil => exact notTwo (List.cons.inj same).1
    | cons second others =>
      cases others with
      | nil => exact notLetter (List.cons.inj (List.cons.inj same).2).1
      | cons third others =>
        simp only [cons_append, List.cons.injEq] at same
        exact other others isPercent (by rw [same.1, same.2.1])
  | case3 => rfl

variable {char : Char} {text : List Char} {path forwarded : String} {query : Option String}
  {exchange : ScpExchange}

private lemma mem_replaceDots (other : char ∉ ['%', '2', 'e']) (mem : char ∈ text) :
    char ∈ replaceDots text := by
  fun_induction replaceDots text with
  | case1 rest ih =>
    rcases mem_append.mp (show char ∈ ['%', '2', 'e'] ++ rest from mem) with
      replaced | later
    · exact absurd replaced other
    · exact mem_cons_of_mem _ (ih later)
  | case2 first rest _ ih =>
    rcases mem_cons.mp mem with here | later
    · exact here ▸ mem_cons_self
    · exact mem_cons_of_mem _ (ih later)
  | case3 => cases mem

private lemma mem_of_replaceDots (mem : char ∈ replaceDots text) : char = '.' ∨ char ∈ text := by
  fun_induction replaceDots text with
  | case1 rest ih =>
    rcases mem_cons.mp mem with here | later
    · exact .inl here
    · exact (ih later).imp_right fun old =>
        mem_cons_of_mem _ (mem_cons_of_mem _ (mem_cons_of_mem _ old))
  | case2 first rest _ ih =>
    rcases mem_cons.mp mem with here | later
    · exact .inr (here ▸ mem_cons_self)
    · exact (ih later).imp_right (mem_cons_of_mem _)
  | case3 => cases mem

private lemma infix_replaceDots {high low : Char} (notDot : high ≠ '2' ∨ low ≠ 'e')
    (plain : high ≠ '%') (lowPlain : low ≠ '%') (inside : ['%', high, low] <:+: text) :
    ['%', high, low] <:+: replaceDots text := by
  obtain ⟨before, after, rfl⟩ := inside
  have kept : replaceDots ('%' :: high :: low :: after) = '%' :: high :: low :: replaceDots after := by
    rw [replaceDots_cons, replaceDots_cons, replaceDots_cons]
    · exact fun _ same => (lowPlain same).elim
    · exact fun _ same => (plain same).elim
    · rintro more _ same
      cases same
      rcases notDot with ne | ne
      · exact ne rfl
      · exact ne rfl
  refine ⟨replaceDots before, replaceDots after, ?_⟩
  rw [List.append_assoc, List.append_assoc]
  change _ = replaceDots (before ++ '%' :: high :: low :: after)
  rw [replaceDots_append (by decide) (by decide), kept]
  rfl

/-- The check looks at a copy with the dots replaced. -/
def checkedPath (text : List Char) : List Char := replaceDots (text.map Char.toLower)

/-- Decoding the path once gives no way out of its prefix. -/
structure Confined (path : String) : Prop where
  segments : ∀ segment ∈ (percentDecode path.toList).splitOn '/',
    segment ≠ ['.'] ∧ segment ≠ ['.', '.']
  backslash : '\\' ∉ percentDecode path.toList
  slashes : (percentDecode path.toList).count '/' ≤ path.toList.count '/'

private lemma checkedPath_dots (dots : ∀ char ∈ percentDecode text, char = '.') :
    checkedPath text = percentDecode text := by
  unfold checkedPath
  fun_induction percentDecode text with
  | case1 => rfl
  | case2 high low rest upper lower isLow isHigh ih =>
    obtain ⟨stands, later⟩ := forall_mem_cons.mp dots
    obtain ⟨highLower, lowLower⟩ := escape_digits isHigh isLow stands
    have two : high.toLower = '2' := highLower
    have letter : low.toLower = 'e' := lowLower
    have percent : Char.toLower '%' = '%' := rfl
    rw [map_cons, map_cons, map_cons, percent, two, letter, replaceDots, ih later, stands]
  | case3 high low rest _ ih => exact absurd (forall_mem_cons.mp dots).1 (by decide)
  | case4 first rest _ ih =>
    obtain ⟨isDot, later⟩ := forall_mem_cons.mp dots
    rw [map_cons, isDot, replaceDots_cons, ih later]
    · rfl
    · exact fun _ bad => absurd bad (by decide)

private lemma splitOn_checkedPath (text : List Char) :
    (checkedPath text).splitOn '/' = (text.splitOn '/').map checkedPath := by
  apply splitOn_change
  · intro left right
    have slash : Char.toLower '/' = '/' := rfl
    rw [checkedPath, map_append, map_cons, slash,
      replaceDots_append (by decide) (by decide), replaceDots_cons]
    · rfl
    · exact fun _ bad => absurd bad (by decide)
  · intro part mem found
    rcases mem_of_replaceDots found with bad | lowered
    · exact absurd bad (by decide)
    · exact notMem_of_mem_splitOn mem ((mem_map_toLower (by decide)).mp lowered)

private lemma splitOn_percentDecode (plain : ¬ Escaped '/' text) :
    (percentDecode text).splitOn '/' = (text.splitOn '/').map percentDecode := by
  apply splitOn_change
  · intro left right
    rw [percentDecode_append (by decide), percentDecode_cons]
    exact fun _ _ _ bad => absurd bad (by decide)
  · intro part mem found
    rcases mem_percentDecode found with here | escaped
    · exact notMem_of_mem_splitOn mem here
    · exact plain (escaped.of_infix (infix_of_mem_splitOn mem))

private lemma confined_of_checked (noBackslash : '\\' ∉ checkedPath path.toList)
    (noSlash : ¬ "%2f".toList <:+: checkedPath path.toList)
    (noEscape : ¬ "%5c".toList <:+: checkedPath path.toList)
    (noDots : ∀ seg ∈ (checkedPath path.toList).splitOn '/',
      seg ≠ ['.'] ∧ seg ≠ ['.', '.']) : Confined path := by
  have plainSlash : ¬ Escaped '/' path.toList := fun escaped =>
    noSlash (infix_replaceDots (.inr (by decide)) (by decide) (by decide) escaped.lowered)
  have plainBackslash : ¬ Escaped '\\' path.toList := fun escaped =>
    noEscape (infix_replaceDots (.inl (by decide)) (by decide) (by decide) escaped.lowered)
  refine ⟨?_, ?_, count_percentDecode_le plainSlash⟩
  · rw [splitOn_percentDecode plainSlash]
    intro seg mem
    obtain ⟨part, here, rfl⟩ := mem_map.mp mem
    have found : checkedPath part ∈ (checkedPath path.toList).splitOn '/' := by
      rw [splitOn_checkedPath]
      exact mem_map_of_mem here
    constructor
    · intro dot
      have same : checkedPath part = percentDecode part := checkedPath_dots (by simp [dot])
      exact (noDots _ found).1 (same.trans dot)
    · intro dots
      have same : checkedPath part = percentDecode part := checkedPath_dots (by simp [dots])
      exact (noDots _ found).2 (same.trans dots)
  · intro mem
    rcases mem_percentDecode mem with here | escaped
    · apply noBackslash
      apply mem_replaceDots (by decide)
      exact mem_map.mpr ⟨'\\', here, rfl⟩
    · exact plainBackslash escaped

private lemma servicePath_eq_ok {root : ApiRoot} (ok : servicePath root path = .ok forwarded) :
    ∃ rest, path = root.pathPrefix ++ rest ∧ (rest = "" ∨ Text.startsWith "/" rest = true) ∧
      forwarded = (if rest = "" then "/" else rest) ∧ Confined forwarded := by
  obtain ⟨rest, found, _, checked, same⟩ := bind₂_eq_ok.mp ok
  cases same
  obtain ⟨starts, boundary⟩ := filter_eq_some_iff.mp (orFail_eq_ok.mp found)
  simp only [or_eq_true, String.isEmpty_iff] at boundary
  simp only [String.isEmpty_iff] at checked ⊢
  have whole : path = root.pathPrefix ++ rest := by
    apply toList_injective
    rw [toList_append]
    exact afterStart_eq_some.mp starts
  refine ⟨rest, whole, boundary, rfl, ?_⟩
  have checks := rejectIf_eq_ok.mp checked
  simp only [or_eq_false_iff] at checks
  obtain ⟨⟨⟨noBackslash, noSlash⟩, noEscape⟩, noDots⟩ := checks
  generalize (if rest = "" then "/" else rest) = forwarded at *
  have copied : (ofList (replaceDots (toAsciiLowercase forwarded).toList)).toList =
      checkedPath forwarded.toList := by
    rw [toList_ofList, toAsciiLowercase, toList_ofList]
    rfl
  apply confined_of_checked
  · rw [← copied]
    simpa [Text.contains] using noBackslash
  · rw [← copied, ← containsText_iff, noSlash]
    exact false_ne_true
  · rw [← copied, ← containsText_iff, noEscape]
    exact false_ne_true
  · rw [← copied]
    intro seg mem
    have notDots := any_eq_false.mp noDots (ofList seg) (mem_map_of_mem mem)
    constructor
    · rintro rfl
      exact notDots rfl
    · rintro rfl
      exact notDots rfl

def parameterName (part : String) : String := ofList (part.toList.takeWhile (· ≠ '='))

def keptParts (query : String) : List String :=
  (splitOn '&' query).filter fun part => parameterName part ≠ "ck"

/-- The forwarded query has exactly the kept parts; it is left out when nothing is left. -/
def ForwardsQuery (query : Option String) : Option String → Prop
  | some text => text ≠ "" ∧ ∃ original, query = some original ∧
      splitOn '&' text = keptParts original
  | none => ∀ original, query = some original →
      keptParts original = [] ∨ keptParts original = [""]

private lemma joined_of_query (original : String) : forwardedQuery (some original) =
    (some ("&".intercalate (keptParts original))).filter fun text => !text.isEmpty := by
  have names : ∀ part, (splitOn '=' part).head? = some (parameterName part) := by
    intro part
    rw [Text.splitOn, head?_map, head?_splitOn]
    rfl
  rw [forwardedQuery, map_some, keptParts]
  simp only [names, ne_eq, Option.some.injEq]

private lemma splitOn_joined {original : String} (some : keptParts original ≠ []) :
    Text.splitOn '&' ("&".intercalate (keptParts original)) = keptParts original := by
  have clean : ∀ part ∈ (keptParts original).map String.toList, '&' ∉ part := by
    intro part mem
    obtain ⟨kept, isKept, rfl⟩ := mem_map.mp mem
    obtain ⟨chars, here, rfl⟩ := mem_map.mp (mem_filter.mp isKept).1
    rw [toList_ofList]
    exact notMem_of_mem_splitOn here
  have joined : ("&".intercalate (keptParts original)).toList =
      ['&'].intercalate ((keptParts original).map String.toList) := toList_intercalate
  have ne : (keptParts original).map String.toList ≠ [] := by simpa using some
  rw [Text.splitOn, joined, List.splitOn_intercalate '&' clean ne, List.map_map]
  simp [Function.comp_def]

private lemma forwardsQuery (query : Option String) :
    ForwardsQuery query (forwardedQuery query) := by
  cases query with
  | none => exact fun _ bad => nomatch bad
  | some original =>
    rw [joined_of_query]
    by_cases empty : "&".intercalate (keptParts original) = ""
    · rw [filter_some, if_neg (by simp [empty])]
      rintro _ ⟨⟩
      by_cases nothing : keptParts original = []
      · exact .inl nothing
      · have parts := splitOn_joined nothing
        rw [empty] at parts
        exact .inr parts.symm
    · rw [filter_some, if_pos (by simpa using empty)]
      refine ⟨empty, original, rfl, splitOn_joined ?_⟩
      intro none
      rw [none] at empty
      exact empty rfl

/-- Path and query as a URI has them. -/
structure UriTarget (path : String) (query : Option String) : Prop where
  path : '?' ∉ path.toList ∧ '#' ∉ path.toList
  query : ∀ text, query = some text → '#' ∉ text.toList

private lemma plain_forwardedQuery (target : UriTarget path query) :
    '#' ∉ ((forwardedQuery query).map String.toList).getD [] := by
  have forwards := forwardsQuery query
  cases forwarded : forwardedQuery query with
  | none => exact not_mem_nil
  | some text =>
    rw [forwarded] at forwards
    obtain ⟨_, original, isQuery, parts⟩ := forwards
    intro mem
    have ne : '#' ≠ '&' := by decide
    obtain ⟨part, inText, inPart⟩ := exists_mem_splitOn ne mem
    have kept : ofList part ∈ keptParts original := by
      rw [← parts]
      exact mem_map_of_mem inText
    obtain ⟨other, inOriginal, same⟩ := mem_map.mp (mem_filter.mp kept).1
    rw [← ofList_injective same] at inPart
    exact target.query original isQuery ((infix_of_mem_splitOn inOriginal).subset inPart)

def ScpExchange.Chosen (platform : Platform) (exchange : ScpExchange) : Prop :=
  ∃ value, ApiRoot.parse platform value = .ok exchange.root

private lemma upstreamUri_eq_ok {platform : Platform} (splits : SplitsUris platform) {uri : Uri}
    (chosen : exchange.Chosen platform)
    (written : exchange.request.pathQuery = forwarded ++ query.elim "" ("?" ++ ·))
    (starts : Text.startsWith "/" forwarded = true)
    (plain : '?' ∉ forwarded.toList ∧ '#' ∉ forwarded.toList)
    (queryPlain : '#' ∉ (query.map String.toList).getD [])
    (parsed : upstreamUri platform exchange = .ok uri) :
    uri.path = exchange.root.pathPrefix ++ forwarded ∧ uri.query = query := by
  obtain ⟨value, rootOk⟩ := chosen
  obtain ⟨_, _, rootParsed⟩ := ApiRoot.exists_parts splits rootOk
  obtain ⟨rest, shape⟩ := startsWith_iff.mp starts
  have first : forwarded.toList.head?.all (· = '/') = true := by
    rw [← shape]
    rfl
  have extended := rootParsed.canonical_fine.extend first plain queryPlain
  have text : exchange.root.scheme ++ "://" ++ exchange.root.authority ++
      exchange.root.pathPrefix ++ exchange.request.pathQuery =
        ofList ((ApiRoot.canonical exchange.root).extend forwarded.toList
          (query.map String.toList)).written := by
    change exchange.root.value ++ exchange.request.pathQuery = _
    rw [ApiRoot.value_eq, written, UriParts.Parts.written_extend rfl, ofList_append,
      ofList_append, ofList_toList]
    cases query with
    | none => rfl
    | some text =>
      have question : ofList ('?' :: text.toList) = "?" ++ text := by
        rw [← toList_inj, toList_ofList, toList_append]
        rfl
      rw [map_some, UriParts.queryWritten, question, elim_some]
  rw [upstreamUri, text] at parsed
  have read := splits.reads extended (rootParsed.canonical_plain (by decide))
    rootParsed.canonical_http (mapError_eq_ok.mp parsed)
  constructor
  · have below : ((ApiRoot.canonical exchange.root).extend forwarded.toList
        (query.map String.toList)).path =
          exchange.root.pathPrefix.toList ++ forwarded.toList := rfl
    rw [read, path_uriOf, below, if_neg, ofList_append, ofList_toList, ofList_toList]
    rw [← shape]
    exact append_ne_nil_of_right_ne_nil _ (cons_ne_nil _ _)
  · rw [read]
    change (query.map String.toList).map ofList = query
    cases query with
    | none => rfl
    | some text => exact congrArg some ofList_toList

private lemma chosen_of_sent {Selector Handle : Type} {host : Host Selector}
    {profile : Control.RuntimeScp Handle} {headers : Http.HeaderMap} {method : String}
    {request : ScpRequest} {shared : Shared Selector}
    (parsed : parse host.platform headers method path query profile.root = .ok request)
    (sent : Sent host profile request exchange shared) : exchange.Chosen host.platform := by
  rcases sent.origin with allowed | ⟨_, _, known⟩
  · have target := sent.direct allowed.direct
    exact parsed_of_parseTarget (steps_of_parse parsed).1 exchange.root target
  · obtain ⟨scheme, found, _⟩ := known.root
    exact ⟨_, toOption_eq_some.mp found⟩

/-- In some run of some host and profile the request was served with this exchange. -/
def Forwarded (platform : Platform) (root : ApiRoot) (headers : Http.HeaderMap)
    (request : ScpRequest) (exchange : ScpExchange) : Prop :=
  ∃ (Selector Handle : Type) (host : Host Selector) (profile : Control.RuntimeScp Handle)
    (start : Nat) (system : System Selector) (place : Nat) (first : ScpExchange)
    (retried : List (Bool × ScpExchange)), host.platform = platform ∧ profile.root = root ∧
      Runs.Reaches (step host profile) (System.initial start) system ∧
      system.threads[place]? = some (.client headers request (.done (.served first retried))) ∧
      exchange ∈ first :: retried.map Prod.snd

/-- An accepted request stays below its root: the forwarded path is what follows the root's
prefix, has no traversal in it once decoded, and is appended to the prefix of whatever root is
chosen. -/
theorem request_paths_confined {platform : Platform}
    {headers : Http.HeaderMap} {method path : String} {query : Option String} {root : ApiRoot}
    {request : ScpRequest} (target : UriTarget path query)
    (parsed : parse platform headers method path query root = .ok request) :
    ∃ rest forwarded sentQuery,
      path = root.pathPrefix ++ rest ∧ (rest = "" ∨ Text.startsWith "/" rest = true) ∧
      forwarded = (if rest = "" then "/" else rest) ∧ Confined forwarded ∧
      ForwardsQuery query sentQuery ∧
      request.pathQuery = forwarded ++ sentQuery.elim "" ("?" ++ ·) ∧
      (SplitsUris platform → ∀ exchange uri, exchange.request = request →
        exchange.Chosen platform → upstreamUri platform exchange = .ok uri →
          uri.path = exchange.root.pathPrefix ++ forwarded ∧ uri.query = sentQuery) ∧
      ∀ exchange, Forwarded platform root headers request exchange →
        exchange.request = request ∧ exchange.Chosen platform := by
  rcases (steps_of_parse parsed).2.2.1 with ⟨forwarded, accepted, written⟩
  rcases servicePath_eq_ok accepted with ⟨rest, whole, boundary, shape, confined⟩
  refine ⟨rest, forwarded, forwardedQuery query, whole, boundary, shape, confined,
    forwardsQuery query, written, ?_, ?_⟩
  · intro splits exchange uri same chosen uriOk
    have starts : Text.startsWith "/" forwarded = true := by
      rw [shape]
      split
      · decide
      · exact boundary.resolve_left ‹_›
    have inside : ∀ mark, mark ≠ '/' → mark ∈ forwarded.toList → mark ∈ path.toList := by
      intro mark notSlash member
      rw [shape] at member
      split at member
      · exact absurd (mem_singleton.mp member) notSlash
      · rw [whole, toList_append]
        exact mem_append_right _ member
    refine upstreamUri_eq_ok splits chosen (same ▸ written) starts ⟨?_, ?_⟩
      (plain_forwardedQuery target) uriOk
    · exact fun member => target.path.1 (inside _ (by decide) member)
    · exact fun member => target.path.2 (inside _ (by decide) member)
  · rintro exchange ⟨Selector, Handle, host, profile, start, system, place, first, retried, rfl, rfl,
      reached, served, member⟩
    rcases outcomeOk_of_reaches reached served with ⟨_, _, allSent⟩
    exact ⟨(allSent exchange member).sameRequest, chosen_of_sent parsed (allSent exchange member)⟩

theorem direct_request_confined :
    ∃ request forwarded sentQuery,
      parse uriPlatform
        { entries := [(targetHeader, Http.HeaderValue.ofText "http://smf.example/smf")] } "GET"
        "/scp/nsmf/v1/a%20b" (some "ck=1&supi=2")
        { scheme := "http", host := "scp.example", port := 80, pathPrefix := "/scp" } =
          .ok request ∧
        Confined forwarded ∧ ForwardsQuery (some "ck=1&supi=2") sentQuery ∧
        request.pathQuery = forwarded ++ sentQuery.elim "" ("?" ++ ·) := by
  obtain ⟨request, parsed, _⟩ : ∃ request, parse uriPlatform
      { entries := [(targetHeader, Http.HeaderValue.ofText "http://smf.example/smf")] } "GET"
      "/scp/nsmf/v1/a%20b" (some "ck=1&supi=2")
      { scheme := "http", host := "scp.example", port := 80, pathPrefix := "/scp" } =
        .ok request ∧ True := by
    decide +kernel
  have target : UriTarget "/scp/nsmf/v1/a%20b" (some "ck=1&supi=2") := by
    refine ⟨by decide +kernel, ?_⟩
    rintro _ ⟨⟩
    decide +kernel
  rcases request_paths_confined target parsed with
    ⟨_, forwarded, sentQuery, _, _, _, confined, forwards, written, _⟩
  exact ⟨request, forwarded, sentQuery, parsed, confined, forwards, written⟩

end Ngxora.Scp
