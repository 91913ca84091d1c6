/-
The cache in the life of one request.
-/

import Ngxora.Cache.Backend
import Ngxora.Cache.Policy

namespace Ngxora.Cache

open List Http

inductive HeaderEdit where
  | add (name : String) (value : HeaderValue)
  | set (name : String) (value : HeaderValue)
  | remove (name : String)

def HeaderEdit.apply (headers : HeaderMap) : HeaderEdit → HeaderMap
  | .add name value => headers.append name value
  | .set name value => headers.insert name value
  | .remove name => headers.remove name

structure SelectedRoute where
  routeId : UInt64
  cache : Option CacheConfig
  scp : Bool

structure ProxyContext where
  snapshotGeneration : UInt64 := 0
  selected : Option SelectedRoute := none
  scpProfile : Bool := false
  responsePluginsApplied : Bool := false
  cacheKey : Option CacheKey := none
  cacheStoreAllowed : Bool := false
  cacheStatus : Option UInt16 := none
  cacheHeaders : Option HeaderMap := none
  cacheBodyLimit : Option Nat := none
  responseBodyBuf : List UInt8 := []
  cacheHit : Bool := false

inductive CacheCall where
  | get (key : CacheKey)
  | recordMiss (key : CacheKey)
  | getStale (key : CacheKey)
  | put (key : CacheKey) (response : CachedResponse) (config : CacheConfig)
  deriving DecidableEq

structure WrittenResponse where
  status : UInt16
  headers : HeaderMap
  body : Option (List UInt8)

/-- `calls` records what the hooks ask of the cache backend and `served` the cached
responses they write. -/
structure Exchange where
  context : ProxyContext := {}
  calls : List CacheCall := []
  served : List WrittenResponse := []

def cacheStoreAllowed (config : CacheConfig) (thresholdReached : Bool) : Bool :=
  decide (config.minUses.getD 1 ≤ 1) || thresholdReached

def writeCachedResponse (cached : CachedResponse) : WrittenResponse where
  status := cached.status
  headers := cached.headers.entries.foldl (fun headers entry => headers.insert entry.1 entry.2) {}
  body := if cached.body.isEmpty then none else some cached.body

inductive Arrival where
  | answered
  | unrouted
  | routed (route : SelectedRoute) (host : Option String)

inductive Preparation where
  | missingProfile
  | refused
  | done

/-- What the backend, plugins, access rules and discovery answer. -/
structure RequestInput where
  method : String
  uri : String
  headers : HeaderMap
  generation : UInt64
  arrival : Arrival
  bodyAllowed : Bool
  /-- What the plugins do to the headers, and whether the request goes on after the
  access rules, the methods and the plugins. -/
  edits : List HeaderEdit
  authorized : Bool
  preparation : Preparation
  found : Option CachedResponse
  threshold : Bool

def RequestInput.edited (input : RequestInput) : HeaderMap :=
  input.edits.foldl HeaderEdit.apply input.headers

def tryCache (input : RequestInput) (host : Option String) (exchange : Exchange) : Exchange :=
  match exchange.context.selected with
  | none => exchange
  | some selected =>
    if isCacheableRequest input.method input.edited then
      match selected.cache with
      | none => exchange
      | some config =>
        let key := buildCacheKey input.method input.uri exchange.context.snapshotGeneration
          selected.routeId (host.getD "") config
        match input.found with
        | some cached =>
          { context := { exchange.context with cacheHit := true }
            calls := exchange.calls ++ [.get key]
            served := exchange.served ++ [writeCachedResponse cached] }
        | none =>
          { exchange with
            context := { exchange.context with
              cacheStoreAllowed := input.threshold
              cacheKey := some key }
            calls := exchange.calls ++ [.get key, .recordMiss key] }
    else exchange

def requestFilter (input : RequestInput) (exchange : Exchange) : Exchange :=
  let context := { exchange.context with snapshotGeneration := input.generation }
  match input.arrival with
  | .answered => { exchange with context }
  | .unrouted => { exchange with context := { context with selected := none } }
  | .routed route host =>
    let exchange := { exchange with context := { context with selected := some route } }
    let wasCacheable := isCacheableRequest input.method input.headers
    if !input.bodyAllowed || !input.authorized then exchange
    else
      let prepared := { exchange with context := { exchange.context with scpProfile := route.scp } }
      match input.preparation with
      | .missingProfile => exchange
      | .refused => prepared
      | .done => if wasCacheable then tryCache input host prepared else prepared

def upstreamPeer (route : Option SelectedRoute) (exchange : Exchange) : Exchange :=
  match exchange.context.selected with
  | some _ => exchange
  | none => { exchange with context := { exchange.context with selected := route } }

structure ResponseInput where
  status : UInt16
  headers : HeaderMap
  plugins : Option (List HeaderEdit × UInt16)
  exchange : Option (List HeaderEdit)
  defaultMaxSize : UInt64

def finalResponse (context : ProxyContext) (input : ResponseInput) :
    Option (UInt16 × HeaderMap) := do
  let (status, headers) ←
    (if context.responsePluginsApplied then some (input.status, input.headers)
    else input.plugins.map fun (edits, status) =>
      (status, edits.foldl HeaderEdit.apply input.headers))
  let edits ← input.exchange
  some (status, edits.foldl HeaderEdit.apply headers)

def entryOverhead (key : CacheKey) (headers : HeaderMap) : Nat :=
  Counter.saturatingAdd (Counter.saturatingAdd (estimatedHeadersSize headers) 128)
    key.estimatedSize

def bodyLimit (maxSize : UInt64) (key : CacheKey) (headers : HeaderMap) : Nat :=
  maxSize.toNat - entryOverhead key headers

def contentLengthFits (headers : HeaderMap) (limit : Nat) : Bool :=
  match headers.get "content-length" with
  | none => true
  | some value =>
    ((value.toStr.bind Digits.parseU64).map fun length => decide (length.toNat ≤ limit)).getD
      false

/-- The part of `response_filter` after the plugins. -/
def captureResponse (defaultMaxSize : UInt64) (status : UInt16) (headers : HeaderMap)
    (context : ProxyContext) : ProxyContext :=
  match context.cacheKey, context.selected.bind SelectedRoute.cache with
  | some key, some config =>
    if cacheStoreAllowed config context.cacheStoreAllowed &&
        isCacheable status headers config then
      let limit := bodyLimit (maxSize defaultMaxSize config) key headers
      if contentLengthFits headers limit then
        { context with
          cacheStatus := some status
          cacheHeaders := some headers
          cacheBodyLimit := some limit }
      else context
    else context
  | _, _ => context

def responseFilter (input : ResponseInput) (context : ProxyContext) : ProxyContext :=
  if context.selected.isNone then context
  else
    let applied := { context with responsePluginsApplied := true }
    match finalResponse context input with
    | none => applied
    | some (status, headers) => captureResponse input.defaultMaxSize status headers applied

def ProxyContext.dropCapture (context : ProxyContext) : ProxyContext :=
  { context with
    cacheStatus := none
    cacheHeaders := none
    cacheBodyLimit := none
    responseBodyBuf := [] }

def responseBodyFilter (chunk : Option (List UInt8)) (context : ProxyContext) : ProxyContext :=
  match context.cacheBodyLimit, chunk with
  | some limit, some bytes =>
    if Counter.saturatingAdd context.responseBodyBuf.length bytes.length > limit then
      context.dropCapture
    else { context with responseBodyBuf := context.responseBodyBuf ++ bytes }
  | _, _ => context

def markStale (cached : CachedResponse) : CachedResponse :=
  { cached with headers := cached.headers.insert "x-cache" (HeaderValue.ofText "STALE") }

/-- `responded`: a response has been written before. -/
def failToProxy (responded fromUpstream : Bool) (found : Option CachedResponse)
    (exchange : Exchange) : Exchange :=
  if exchange.context.scpProfile || responded || !fromUpstream then exchange
  else
    let config := (exchange.context.selected.bind SelectedRoute.cache).filter
      fun config => config.staleIfError.isSome
    match config, exchange.context.cacheKey with
    | some _, some key =>
      let asked := { exchange with calls := exchange.calls ++ [.getStale key] }
      match found with
      | none => asked
      | some cached =>
        { asked with
          context := { exchange.context with cacheHit := true }
          served := exchange.served ++ [writeCachedResponse (markStale cached)] }
    | _, _ => exchange

def finishRequest (now : Nat) (failed : Bool) (exchange : Exchange) : Exchange :=
  let context := exchange.context
  if failed then { exchange with context := context.dropCapture }
  else
    match context.cacheKey, context.selected.bind SelectedRoute.cache with
    | some key, some config =>
      if !cacheStoreAllowed config context.cacheStoreAllowed then
        { exchange with context := context.dropCapture }
      else
        match context.cacheStatus, context.cacheHeaders with
        | some status, some headers =>
          { exchange with
            context := { context with cacheHeaders := none, responseBodyBuf := [] }
            calls := exchange.calls ++
              [.put key
                { status, headers, body := context.responseBodyBuf, createdAt := now } config] }
        | _, _ => { exchange with context := { context with cacheHeaders := none } }
    | _, _ => exchange

namespace ExchangeExample

def request : RequestInput where
  method := "GET"
  uri := "/"
  headers := {}
  generation := 1
  arrival := .routed ⟨7, some {}, false⟩ (some "a.test")
  bodyAllowed := true
  edits := []
  authorized := true
  preparation := .done
  found := none
  threshold := true

def context : ProxyContext := (requestFilter request {}).context

def respond (headers : HeaderMap) : ResponseInput where
  status := 200
  headers
  plugins := some ([], 200)
  exchange := some []
  defaultMaxSize := 1000

def key : CacheKey where
  generation := 1
  routeId := 7
  host := "a.test"
  method := "GET"
  uri := "/"

def twoLinks : HeaderMap where
  entries := [("link", HeaderValue.ofText "</a.css>"), ("link", HeaderValue.ofText "</b.js>")]

def oneLink : HeaderMap where
  entries := [("link", HeaderValue.ofText "</a.css>")]

def stored (headers : HeaderMap) (body : List UInt8) : CachedResponse where
  status := 200
  headers
  body
  createdAt := 5

def pieces : List (Option (List UInt8)) := [some [1, 2], none, some [], some [3]]

end ExchangeExample

/-- Nothing of a response is kept. -/
structure ProxyContext.Uncaptured (context : ProxyContext) : Prop where
  status : context.cacheStatus = none
  headers : context.cacheHeaders = none
  limit : context.cacheBodyLimit = none
  body : context.responseBodyBuf = []

def bytesOf (chunks : List (Option (List UInt8))) : List UInt8 := (chunks.filterMap id).flatten

def receiveBody (chunks : List (Option (List UInt8))) (context : ProxyContext) : ProxyContext :=
  chunks.foldl (fun context chunk => responseBodyFilter chunk context) context

private lemma bodyLimit_lt (maxSize : UInt64) (key : CacheKey) (headers : HeaderMap) :
    bodyLimit maxSize key headers < Counter.limit - 1 := by
  have small := maxSize.toNat_lt
  unfold bodyLimit entryOverhead Counter.saturatingAdd
  simp only [Counter.limit]
  omega

private lemma responseSize_le {maxSize : UInt64} {key : CacheKey} {resp : CachedResponse}
    (fits : resp.body.length ≤ bodyLimit maxSize key resp.headers)
    (overhead : entryOverhead key resp.headers ≤ maxSize.toNat) :
    responseSize key resp ≤ maxSize.toNat := by
  have small := maxSize.toNat_lt
  unfold bodyLimit at fits
  unfold entryOverhead at fits overhead
  unfold responseSize CachedResponse.estimatedSize
  simp only [Counter.saturatingAdd, Counter.limit] at fits overhead ⊢
  omega

private lemma receiveBody_uncaptured {context : ProxyContext} (none : context.cacheBodyLimit = none)
    (chunks : List (Option (List UInt8))) : receiveBody chunks context = context := by
  induction chunks with
  | nil => rfl
  | cons chunk rest ih =>
    have unchanged : responseBodyFilter chunk context = context := by
      simp [responseBodyFilter, none]
    rwa [receiveBody, foldl_cons, unchanged]

private lemma receiveBody_eq {context : ProxyContext} {limit : Nat}
    (captured : context.cacheBodyLimit = some limit) (small : limit < Counter.limit - 1)
    (fits : context.responseBodyBuf.length ≤ limit) (chunks : List (Option (List UInt8))) :
    (receiveBody chunks context =
        { context with responseBodyBuf := context.responseBodyBuf ++ bytesOf chunks } ∧
      (context.responseBodyBuf ++ bytesOf chunks).length ≤ limit) ∨
    (receiveBody chunks context = context.dropCapture ∧
      limit < (context.responseBodyBuf ++ bytesOf chunks).length) := by
  induction chunks generalizing context with
  | nil =>
    refine .inl ⟨?_, by simpa [bytesOf] using fits⟩
    simp [receiveBody, bytesOf]
  | cons chunk rest ih =>
    rw [receiveBody, foldl_cons, ← receiveBody]
    cases chunk with
    | none =>
      have unchanged : responseBodyFilter none context = context := by
        simp [responseBodyFilter, captured]
      rw [unchanged]
      exact ih captured fits
    | some bytes =>
      have total : bytesOf (some bytes :: rest) = bytes ++ bytesOf rest := by simp [bytesOf]
      rw [total, ← append_assoc]
      by_cases exceeds : limit < context.responseBodyBuf.length + bytes.length
      · have dropped : responseBodyFilter (some bytes) context = context.dropCapture := by
          have beyond : Counter.saturatingAdd context.responseBodyBuf.length bytes.length > limit := by
            unfold Counter.saturatingAdd
            omega
          simp [responseBodyFilter, captured, beyond]
        rw [dropped, receiveBody_uncaptured rfl]
        refine .inr ⟨rfl, ?_⟩
        simp only [length_append]
        omega
      · have collected : responseBodyFilter (some bytes) context =
            { context with responseBodyBuf := context.responseBodyBuf ++ bytes } := by
          have within : ¬ Counter.saturatingAdd context.responseBodyBuf.length bytes.length > limit := by
            have := Counter.saturatingAdd_le context.responseBodyBuf.length bytes.length
            omega
          simp [responseBodyFilter, captured, within]
        rw [collected]
        refine ih captured ?_
        simp only [length_append]
        omega

def ProxyContext.capture (defaultMaxSize : UInt64) (key : CacheKey) (config : CacheConfig)
    (status : UInt16) (headers : HeaderMap) (context : ProxyContext) : ProxyContext :=
  { context with
    cacheStatus := some status
    cacheHeaders := some headers
    cacheBodyLimit := some (bodyLimit (maxSize defaultMaxSize config) key headers) }

/-- The response may be captured under the key. -/
structure ProxyContext.Allows (context : ProxyContext) (key : CacheKey) (config : CacheConfig)
    (status : UInt16) (headers : HeaderMap) : Prop where
  keyed : context.cacheKey = some key
  configured : context.selected.bind SelectedRoute.cache = some config
  cacheable : isCacheable status headers config = true

private lemma captureResponse_cases (defaultMaxSize : UInt64) (status : UInt16)
    (headers : HeaderMap)
    (ctx : ProxyContext) : captureResponse defaultMaxSize status headers ctx = ctx ∨
      ∃ key config, ctx.Allows key config status headers ∧
        captureResponse defaultMaxSize status headers ctx =
          ctx.capture defaultMaxSize key config status headers := by
  unfold captureResponse
  split
  next key config keyed configured =>
    split
    next allowed =>
      simp only
      split
      · exact .inr ⟨key, config, ⟨keyed, configured, (Bool.and_eq_true_iff.mp allowed).2⟩, rfl⟩
      · exact .inl rfl
    next => exact .inl rfl
  next => exact .inl rfl

private lemma responseFilter_cases (input : ResponseInput) (ctx : ProxyContext) : ∃ applied : Bool,
    let marked := { ctx with responsePluginsApplied := applied }
    responseFilter input ctx = marked ∨
      ∃ key config status headers, finalResponse ctx input = some (status, headers) ∧
        marked.Allows key config status headers ∧
        responseFilter input ctx =
          marked.capture input.defaultMaxSize key config status headers := by
  unfold responseFilter
  split
  · exact ⟨ctx.responsePluginsApplied, .inl rfl⟩
  · refine ⟨true, ?_⟩
    cases final : finalResponse ctx input with
    | none => exact .inl rfl
    | some resp =>
      obtain ⟨status, headers⟩ := resp
      rcases captureResponse_cases input.defaultMaxSize status headers
          { ctx with responsePluginsApplied := true } with same | ⟨key, config, allows, same⟩
      · exact .inl same
      · exact .inr ⟨key, config, status, headers, rfl, allows, same⟩

/-- What is put into the cache at the end of a request. -/
structure ProxyContext.Stores (context : ProxyContext) (now : Nat) (key : CacheKey)
    (stored : CachedResponse) (config : CacheConfig) : Prop where
  keyed : context.cacheKey = some key
  configured : context.selected.bind SelectedRoute.cache = some config
  status : context.cacheStatus = some stored.status
  headers : context.cacheHeaders = some stored.headers
  body : stored.body = context.responseBodyBuf
  createdAt : stored.createdAt = now

variable {now : Nat} {failed : Bool} {exchange : Exchange} {input : RequestInput}

private lemma finishRequest_calls {call : CacheCall}
    (made : call ∈ (finishRequest now failed exchange).calls) :
    call ∈ exchange.calls ∨ failed = false ∧ ∃ key stored config,
      call = .put key stored config ∧ exchange.context.Stores now key stored config := by
  simp only [finishRequest] at made
  split at made
  · exact .inl made
  next succeeded =>
    split at made
    next key config keyed configured =>
      split at made
      · exact .inl made
      · split at made
        next status headers captured kept =>
          rcases mem_append.mp made with old | stored
          · exact .inl old
          · exact .inr ⟨Bool.eq_false_of_not_eq_true succeeded, key, _, config,
              mem_singleton.mp stored, ⟨keyed, configured, captured, kept, rfl, rfl⟩⟩
        next => exact .inl made
    next => exact .inl made

private lemma requestFilter_cases (input : RequestInput) :
    ∃ selected scpProfile, (requestFilter input {} =
      { context := { snapshotGeneration := input.generation, selected, scpProfile } }) ∨
    isCacheableRequest input.method input.headers = true ∧
    isCacheableRequest input.method input.edited = true ∧ ∃ key,
      (∃ cached, requestFilter input {} =
        { context :=
            { snapshotGeneration := input.generation, selected, scpProfile, cacheHit := true }
          calls := [.get key]
          served := [writeCachedResponse cached] }) ∨
        requestFilter input {} =
          { context :=
              { snapshotGeneration := input.generation, selected, scpProfile
                cacheStoreAllowed := input.threshold, cacheKey := some key }
            calls := [.get key, .recordMiss key] } := by
  unfold requestFilter
  split
  · exact ⟨none, false, Or.inl rfl⟩
  · exact ⟨none, false, Or.inl rfl⟩
  case h_3 route host _ =>
    simp only
    split
    · exact ⟨some route, false, Or.inl rfl⟩
    · split
      · exact ⟨some route, false, Or.inl rfl⟩
      · exact ⟨some route, route.scp, Or.inl rfl⟩
      · refine ⟨some route, route.scp, ?_⟩
        split
        case isFalse => exact Or.inl rfl
        case isTrue wasCacheable =>
          simp only [tryCache]
          split
          case isFalse => exact Or.inl rfl
          case isTrue isCacheable =>
            split
            · exact Or.inl rfl
            case h_2 config _ =>
              refine Or.inr ⟨wasCacheable, isCacheable, buildCacheKey input.method input.uri
                input.generation route.routeId (host.getD "") config, ?_⟩
              split
              case h_1 cached _ => exact Or.inl ⟨cached, rfl⟩
              case h_2 => exact Or.inr rfl

private lemma uncaptured_requestFilter (input : RequestInput) :
    (requestFilter input {}).context.Uncaptured := by
  obtain ⟨_, _, same | ⟨_, _, _, ⟨_, same⟩ | same⟩⟩ := requestFilter_cases input <;>
    rw [same] <;> exact ⟨rfl, rfl, rfl, rfl⟩

private lemma receiveBody_cases {ctx : ProxyContext} (fresh : ctx.Uncaptured)
    (input : ResponseInput) (chunks : List (Option (List UInt8))) :
    let accepted := responseFilter input ctx
    (accepted.Uncaptured ∧ receiveBody chunks accepted = accepted) ∨
    ∃ key config status headers, accepted.Allows key config status headers ∧
      finalResponse ctx input = some (status, headers) ∧
      let limit := bodyLimit (maxSize input.defaultMaxSize config) key headers
      accepted.cacheBodyLimit = some limit ∧
      accepted.cacheStatus = some status ∧ accepted.cacheHeaders = some headers ∧
      ((receiveBody chunks accepted = { accepted with responseBodyBuf := bytesOf chunks } ∧
          (bytesOf chunks).length ≤ limit) ∨
        (receiveBody chunks accepted = accepted.dropCapture ∧ limit < (bytesOf chunks).length)) := by
  intro accepted
  obtain ⟨applied, unchanged | ⟨key, config, status, headers, final, allows, taken⟩⟩ :=
    responseFilter_cases input ctx
  · have none : accepted.Uncaptured := by
      change (responseFilter input ctx).Uncaptured
      rw [unchanged]
      exact ⟨fresh.status, fresh.headers, fresh.limit, fresh.body⟩
    exact .inl ⟨none, receiveBody_uncaptured none.limit chunks⟩
  · have taken : accepted.Allows key config status headers ∧ accepted.responseBodyBuf = [] ∧
        accepted.cacheBodyLimit =
          some (bodyLimit (maxSize input.defaultMaxSize config) key headers) ∧
        accepted.cacheStatus = some status ∧ accepted.cacheHeaders = some headers := by
      simp only [accepted, taken]
      exact ⟨⟨allows.keyed, allows.configured, allows.cacheable⟩, fresh.body, rfl, rfl, rfl⟩
    obtain ⟨allows, empty, limited, hasStatus, hasHeaders⟩ := taken
    have collected := receiveBody_eq limited (bodyLimit_lt _ key headers)
      (by rw [empty]; exact Nat.zero_le _) chunks
    rw [empty, nil_append] at collected
    exact .inr ⟨key, config, status, headers, allows, final, limited, hasStatus, hasHeaders,
      collected⟩

private lemma stored_body {ctx : ProxyContext} (fresh : ctx.Uncaptured) {input : ResponseInput}
    {chunks : List (Option (List UInt8))} {key : CacheKey} {stored : CachedResponse}
    {config : CacheConfig} (made : .put key stored config ∈ (finishRequest now failed
      { context := receiveBody chunks (responseFilter input ctx) }).calls) :
    failed = false ∧ stored.body = bytesOf chunks ∧
      finalResponse ctx input = some (stored.status, stored.headers) ∧
      isCacheable stored.status stored.headers config = true ∧
      (responseFilter input ctx).cacheBodyLimit =
        some (bodyLimit (maxSize input.defaultMaxSize config) key stored.headers) ∧
      (bytesOf chunks).length ≤
        bodyLimit (maxSize input.defaultMaxSize config) key stored.headers := by
  rcases finishRequest_calls made with earlier | ⟨succeeded, _, _, _, same, stores⟩
  · cases earlier
  · cases same
    rcases receiveBody_cases fresh input chunks with ⟨none, unchanged⟩ |
      ⟨key', config', status, headers, allows, final, limited, hasStatus, hasHeaders,
        ⟨collected, fits⟩ | ⟨dropped, _⟩⟩
    · have captured := stores.status
      simp only [unchanged, none.status] at captured
      cases captured
    · obtain ⟨keyed, configured, statusKept, headersKept, body, _⟩ := stores
      simp only [collected] at keyed configured statusKept headersKept body
      cases allows.keyed.symm.trans keyed
      cases allows.configured.symm.trans configured
      cases hasStatus.symm.trans statusKept
      cases hasHeaders.symm.trans headersKept
      exact ⟨succeeded, body, final, allows.cacheable, limited, fits⟩
    · have captured := stores.status
      simp only [dropped] at captured
      cases captured

/-- A stored body is the whole body, of a size that was allowed when the response began.
No more than the limit is ever buffered, and a response that fails or is too large is
not stored. -/
theorem cached_body_complete_or_absent {context : ProxyContext} (fresh : context.Uncaptured)
    (input : ResponseInput) (chunks : List (Option (List UInt8))) (now : Nat) (failed : Bool) :
    let accepted := responseFilter input context
    let ended := finishRequest now failed { context := receiveBody chunks accepted }
    (∀ key stored config, .put key stored config ∈ ended.calls → stored.body = bytesOf chunks ∧
      (entryOverhead key stored.headers ≤ (maxSize input.defaultMaxSize config).toNat →
        responseSize key stored ≤ (maxSize input.defaultMaxSize config).toNat)) ∧
    (∀ received, received <+: chunks → ∀ limit ∈ (receiveBody received accepted).cacheBodyLimit,
      (receiveBody received accepted).responseBodyBuf.length ≤ limit) ∧
    ((failed = true ∨ ∃ received limit, received <+: chunks ∧ accepted.cacheBodyLimit = some limit ∧
        limit < (bytesOf received).length) →
      ∀ key stored config, .put key stored config ∉ ended.calls) := by
  intro accepted ended
  refine ⟨?_, ?_, ?_⟩
  · intro key stored config made
    obtain ⟨_, body, _, _, _, fits⟩ := stored_body fresh made
    exact ⟨body, fun overhead => responseSize_le (body ▸ fits) overhead⟩
  · intro received _ limit limited
    rcases receiveBody_cases fresh input received with ⟨none, unchanged⟩ |
      ⟨_, _, _, _, _, _, bound, _, _, ⟨collected, fits⟩ | ⟨dropped, _⟩⟩
    · rw [unchanged, none.limit] at limited
      cases limited
    · rw [collected] at limited ⊢
      cases bound.symm.trans limited
      exact fits
    · rw [dropped] at limited
      cases limited
  · intro ends key stored config made
    obtain ⟨succeeded, _, _, _, bound, fits⟩ := stored_body fresh made
    rcases ends with failure | ⟨received, limit, ⟨rest, whole⟩, limited, exceeds⟩
    · rw [succeeded] at failure
      cases failure
    · cases bound.symm.trans limited
      have total : (bytesOf chunks).length = (bytesOf received).length + (bytesOf rest).length := by
        rw [← whole]
        simp [bytesOf]
      omega

open ExchangeExample in
theorem chunked_body_stored_whole :
    context.Uncaptured ∧
      .put key (stored oneLink [1, 2, 3]) {} ∈ (finishRequest 5 false
        { context := receiveBody pieces (responseFilter (respond oneLink) context) }).calls ∧
      responseSize key (stored oneLink [1, 2, 3]) ≤ 1000 := by
  have fresh : context.Uncaptured := uncaptured_requestFilter request
  have made : .put key (stored oneLink [1, 2, 3]) {} ∈ (finishRequest 5 false
      { context := receiveBody pieces (responseFilter (respond oneLink) context) }).calls := by
    decide +kernel
  obtain ⟨_, sized⟩ :=
    (cached_body_complete_or_absent fresh (respond oneLink) pieces 5 false).1 _ _ _ made
  exact ⟨fresh, made, sized (by decide +kernel)⟩

def serve (stale : Bool) (stored : CachedResponse) : WrittenResponse :=
  writeCachedResponse (if stale then markStale stored else stored)

/-- The written response is the original one; a stale answer has a mark of its own. -/
structure Reproduces (stale : Bool) (status : UInt16) (headers : HeaderMap) (body : List UInt8)
    (written : WrittenResponse) : Prop where
  status : written.status = status
  body : written.body.getD [] = body
  headers : ∀ name, (stale = true → name ≠ "x-cache") →
    written.headers.getAll name = headers.getAll name

private lemma getAll_writeCachedResponse (cached : CachedResponse) (name : String) :
    (writeCachedResponse cached).headers.getAll name =
      (cached.headers.getAll name).getLast?.toList := by
  rw [writeCachedResponse, HeaderMap.getAll_foldl_insert]
  cases shape : cached.headers.getAll name |>.getLast? with
  | none => simp [HeaderMap.getAll]
  | some value => simp

private lemma getAll_serve {stale : Bool} (stored : CachedResponse) {name : String}
    (apart : stale = true → name ≠ "x-cache") :
    (serve stale stored).headers.getAll name = (stored.headers.getAll name).getLast?.toList := by
  rw [serve, getAll_writeCachedResponse]
  cases stale with
  | false => rfl
  | true =>
    have same : (markStale stored).headers.getAll name = stored.headers.getAll name := by
      rw [markStale, HeaderMap.getAll_insert, if_neg (apart rfl)]
    rw [if_pos rfl, same]

private lemma getLast?_toList_eq_iff {α : Type} (values : List α) :
    values.getLast?.toList = values ↔ values.length ≤ 1 := by
  rcases values with _ | ⟨first, _ | ⟨second, rest⟩⟩
  · simp
  · simp
  · constructor
    · intro same
      have lengths := congrArg List.length same
      rw [getLast?_eq_some_getLast (cons_ne_nil _ _)] at lengths
      simp at lengths
    · intro short
      simp at short

private lemma body_serve (stale : Bool) (stored : CachedResponse) :
    (serve stale stored).body.getD [] = stored.body := by
  have written (cached : CachedResponse) :
      (writeCachedResponse cached).body.getD [] = cached.body := by
    unfold writeCachedResponse
    cases cached.body with
    | nil | cons first rest => rfl
  cases stale with
  | false => exact written stored
  | true => exact written (markStale stored)

private lemma status_serve (stale : Bool) (stored : CachedResponse) :
    (serve stale stored).status = stored.status := by
  cases stale <;> rfl

/-- A response from the cache is the original response exactly when no header name
occurs several times. -/
theorem cached_response_reproduced_iff {context : ProxyContext} (fresh : context.Uncaptured)
    {input : ResponseInput} {chunks : List (Option (List UInt8))} {now : Nat} {failed : Bool}
    {key : CacheKey} {stored : CachedResponse} {config : CacheConfig}
    (made : .put key stored config ∈ (finishRequest now failed
      { context := receiveBody chunks (responseFilter input context) }).calls)
    {status : UInt16} {headers : HeaderMap}
    (final : finalResponse context input = some (status, headers)) (stale : Bool) :
    Reproduces stale status headers (bytesOf chunks) (serve stale stored) ↔
      ∀ name, (stale = true → name ≠ "x-cache") → (headers.getAll name).length ≤ 1 := by
  obtain ⟨_, body, captured, _⟩ := stored_body fresh made
  cases final.symm.trans captured
  constructor
  · intro reproduces name apart
    rw [← getLast?_toList_eq_iff, ← getAll_serve stored apart]
    exact reproduces.headers name apart
  · intro single
    refine ⟨status_serve stale stored, (body_serve stale stored).trans body, fun name apart => ?_⟩
    rw [getAll_serve stored apart, getLast?_toList_eq_iff]
    exact single name apart

open ExchangeExample in
/-- Of two values of one name the first is lost. -/
theorem repeated_header_lost :
    .put key (stored twoLinks [1]) {} ∈ (finishRequest 5 false
        { context := receiveBody [some [1]] (responseFilter (respond twoLinks) context) }).calls ∧
      (serve false (stored twoLinks [1])).headers.getAll "link" = [HeaderValue.ofText "</b.js>"] ∧
      ¬ Reproduces false 200 twoLinks [1] (serve false (stored twoLinks [1])) := by
  have kept : (serve false (stored twoLinks [1])).headers.getAll "link" =
      [HeaderValue.ofText "</b.js>"] := by decide +kernel
  refine ⟨by decide +kernel, kept, fun reproduces => ?_⟩
  have same := reproduces.headers "link" (fun impossible => nomatch impossible)
  rw [kept] at same
  exact absurd same (by decide +kernel)

open ExchangeExample in
theorem single_headers_reproduced :
    Reproduces false 200 oneLink [1] (serve false (stored oneLink [1])) := by
  have made : .put key (stored oneLink [1]) {} ∈ (finishRequest 5 false
      { context := receiveBody [some [1]] (responseFilter (respond oneLink) context) }).calls := by
    decide +kernel
  refine (cached_response_reproduced_iff (uncaptured_requestFilter request) made rfl false).mpr ?_
  intro name _
  by_cases isLink : name = "link"
  · subst isLink
    decide +kernel
  · simp [respond, oneLink, HeaderMap.getAll, Ne.symm isLink]

inductive Hook where
  | peer (route : Option SelectedRoute)
  | header (input : ResponseInput)
  | body (chunk : Option (List UInt8))
  | failure (responded fromUpstream : Bool) (found : Option CachedResponse)
  | logging (now : Nat) (failed : Bool)

def Hook.apply (exchange : Exchange) : Hook → Exchange
  | .peer route => upstreamPeer route exchange
  | .header input => { exchange with context := responseFilter input exchange.context }
  | .body chunk => { exchange with context := responseBodyFilter chunk exchange.context }
  | .failure responded fromUpstream found => failToProxy responded fromUpstream found exchange
  | .logging now failed => finishRequest now failed exchange

def life (input : RequestInput) (hooks : List Hook) : Exchange :=
  hooks.foldl Hook.apply (requestFilter input {})

/-- The cache backend is not asked. -/
structure Exchange.Bypasses (exchange : Exchange) : Prop where
  key : exchange.context.cacheKey = none
  calls : exchange.calls = []

private lemma bypasses_requestFilter
    (hidden : isCacheableRequest input.method input.headers = false ∨
      isCacheableRequest input.method input.edited = false) :
    (requestFilter input {}).Bypasses := by
  obtain ⟨_, _, same | ⟨first, edited, _⟩⟩ := requestFilter_cases input
  · rw [same]
    exact ⟨rfl, rfl⟩
  · simp [first, edited] at hidden

private lemma cacheKey_responseFilter (input : ResponseInput) (ctx : ProxyContext) :
    (responseFilter input ctx).cacheKey = ctx.cacheKey := by
  obtain ⟨_, same | ⟨_, _, _, _, _, _, same⟩⟩ := responseFilter_cases input ctx
  · rw [same]
  · rw [same]
    rfl

private lemma responseBodyFilter_cases (chunk : Option (List UInt8)) (ctx : ProxyContext) :
    responseBodyFilter chunk ctx = ctx.dropCapture ∨
      ∃ buffer, responseBodyFilter chunk ctx = { ctx with responseBodyBuf := buffer } := by
  unfold responseBodyFilter
  split
  · split
    · exact .inl rfl
    · exact .inr ⟨_, rfl⟩
  · exact .inr ⟨_, rfl⟩

private lemma failToProxy_cases (responded fromUpstream : Bool) (found : Option CachedResponse)
    (exchange : Exchange) : ∃ hit, (failToProxy responded fromUpstream found exchange).context =
        { exchange.context with cacheHit := hit } ∧
      ((failToProxy responded fromUpstream found exchange).calls = exchange.calls ∨
        ∃ key, exchange.context.cacheKey = some key ∧
          (failToProxy responded fromUpstream found exchange).calls =
            exchange.calls ++ [.getStale key]) := by
  unfold failToProxy
  split
  · exact ⟨_, rfl, .inl rfl⟩
  · simp only
    split
    next key _ keyed =>
      split
      · exact ⟨_, rfl, .inr ⟨key, keyed, rfl⟩⟩
      · exact ⟨_, rfl, .inr ⟨key, keyed, rfl⟩⟩
    next => exact ⟨_, rfl, .inl rfl⟩

private lemma finishRequest_context (now : Nat) (failed : Bool) (exchange : Exchange) :
    (finishRequest now failed exchange).context.cacheKey = exchange.context.cacheKey ∧
      ∀ headers ∈ (finishRequest now failed exchange).context.cacheHeaders,
        headers ∈ exchange.context.cacheHeaders := by
  simp only [finishRequest]
  split
  · exact ⟨rfl, fun _ bad => nomatch bad⟩
  · split
    · split
      · exact ⟨rfl, fun _ bad => nomatch bad⟩
      · split <;> exact ⟨rfl, fun _ bad => nomatch bad⟩
    · exact ⟨rfl, fun _ kept => kept⟩

lemma Exchange.Bypasses.apply (bypasses : exchange.Bypasses) (hook : Hook) :
    (hook.apply exchange).Bypasses := by
  cases hook with
  | peer route =>
    simp only [Hook.apply, upstreamPeer]
    split
    · exact bypasses
    · exact ⟨bypasses.key, bypasses.calls⟩
  | header input =>
    exact ⟨(cacheKey_responseFilter input exchange.context).trans bypasses.key, bypasses.calls⟩
  | body chunk =>
    refine ⟨?_, bypasses.calls⟩
    rcases responseBodyFilter_cases chunk exchange.context with same | ⟨_, same⟩
    · simp only [Hook.apply, same]
      exact bypasses.key
    · simp only [Hook.apply, same]
      exact bypasses.key
  | failure responded fromUpstream found =>
    obtain ⟨hit, ctx, calls | ⟨key, keyed, _⟩⟩ :=
      failToProxy_cases responded fromUpstream found exchange
    · exact ⟨by rw [Hook.apply, ctx]; exact bypasses.key, calls.trans bypasses.calls⟩
    · rw [bypasses.key] at keyed
      cases keyed
  | logging now failed =>
    refine ⟨(finishRequest_context now failed exchange).1.trans bypasses.key, ?_⟩
    refine eq_nil_iff_forall_not_mem.mpr fun call made => ?_
    rcases finishRequest_calls made with earlier | ⟨_, _, _, _, _, stores⟩
    · rw [bypasses.calls] at earlier
      cases earlier
    · have keyed := stores.keyed
      rw [bypasses.key] at keyed
      cases keyed

/-- Nothing private is captured or stored. -/
structure Exchange.StoresPublic (exchange : Exchange) : Prop where
  captured : ∀ headers ∈ exchange.context.cacheHeaders, ¬ PrivateResponse headers
  stored : ∀ key response config, .put key response config ∈ exchange.calls →
    ¬ PrivateResponse response.headers

private lemma storesPublic_requestFilter (input : RequestInput) :
    (requestFilter input {}).StoresPublic := by
  constructor
  · rw [(uncaptured_requestFilter input).headers]
    exact fun _ bad => nomatch bad
  · intro key resp config made
    obtain ⟨_, _, same | ⟨_, _, _, ⟨_, same⟩ | same⟩⟩ := requestFilter_cases input <;>
      simp [same] at made

lemma Exchange.StoresPublic.apply (ok : exchange.StoresPublic) (hook : Hook) :
    (hook.apply exchange).StoresPublic := by
  cases hook with
  | peer route =>
    simp only [Hook.apply, upstreamPeer]
    split
    · exact ok
    · exact ⟨ok.captured, ok.stored⟩
  | header input =>
    refine ⟨fun headers kept => ?_, ok.stored⟩
    obtain ⟨_, same | ⟨_, _, _, _, _, allows, same⟩⟩ := responseFilter_cases input exchange.context
    · simp only [Hook.apply, same] at kept
      exact ok.captured headers kept
    · simp only [Hook.apply, same] at kept
      cases kept
      intro hidden
      have cacheable := allows.cacheable
      rw [not_cacheable_of_privateResponse hidden] at cacheable
      cases cacheable
  | body chunk =>
    refine ⟨fun headers kept => ?_, ok.stored⟩
    rcases responseBodyFilter_cases chunk exchange.context with same | ⟨_, same⟩
    · simp only [Hook.apply, same] at kept
      cases kept
    · simp only [Hook.apply, same] at kept
      exact ok.captured headers kept
  | failure responded fromUpstream found =>
    obtain ⟨hit, ctx, calls⟩ := failToProxy_cases responded fromUpstream found exchange
    refine ⟨by rw [Hook.apply, ctx]; exact ok.captured, fun key resp config made => ?_⟩
    refine ok.stored key resp config ?_
    simp only [Hook.apply] at made
    rcases calls with same | ⟨_, _, same⟩
    · rwa [same] at made
    · simpa [same] using made
  | logging now failed =>
    refine ⟨fun headers kept =>
      ok.captured headers ((finishRequest_context now failed exchange).2 headers kept), ?_⟩
    intro key resp config made
    rcases finishRequest_calls made with earlier | ⟨_, _, _, _, same, stores⟩
    · exact ok.stored key resp config earlier
    · cases same
      exact ok.captured _ stores.headers

/-- The cache is not asked for a private request nor told about it, whether the request
was private when it came or became so, and no private response is stored. -/
theorem private_traffic_bypasses_cache (input : RequestInput) (hooks : List Hook) :
    (PrivateRequest input.method input.headers ∨ PrivateRequest input.method input.edited →
      (life input hooks).calls = []) ∧
    ∀ key response config, .put key response config ∈ (life input hooks).calls →
      ¬ PrivateResponse response.headers := by
  constructor
  · intro hidden
    have refused := hidden.imp not_cacheable_of_privateRequest not_cacheable_of_privateRequest
    have bypasses : (life input hooks).Bypasses :=
      List.foldlRecOn hooks Hook.apply (bypasses_requestFilter refused)
        fun _ ok hook _ => ok.apply hook
    exact bypasses.calls
  · have storesPublic : (life input hooks).StoresPublic :=
      List.foldlRecOn hooks Hook.apply (storesPublic_requestFilter input)
        fun _ ok hook _ => ok.apply hook
    exact storesPublic.stored

end Ngxora.Cache
