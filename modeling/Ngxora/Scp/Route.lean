/-
Routing a request of a service communication proxy.
-/

import Ngxora.Base.Programs
import Ngxora.Control.Snapshot
import Ngxora.Scp.Request

namespace Ngxora.Scp

open Control Results Router Http
open Nrf (NrfQuery ScpError)

structure CacheKey where
  upstream : String
  query : NrfQuery
  deriving DecidableEq

structure Template where
  group : CompiledUpstreamGroup
  nrf : CompiledNrfDiscovery

/-- The operations on shared state. A group is known by its handle; `clone` and `drop` are
the reference counts. -/
inductive Op where
  /-- The part of `discovered` under the lock of the cache. -/
  | enter (key : CacheKey) (template : Template)
  | status (handle : Nat)
  | startRefresh (handle : Nat)
  | awaitRefresh (handle : Nat)
  /-- The part of `scp_select` after the status has been checked. -/
  | load (handle : Nat) (key : List UInt8) (accept : CompiledUpstreamServer → Bool)
  | candidates (handle : Nat)
  | hashKey (handle : Nat)
  | clone (handle : Nat)
  | drop (handle : Nat)
  | lock
  | touch (key : CacheKey)
  | unlock
  /-- The part of `maintain` under the lock of the cache. -/
  | retain

def operations : Interface where
  Op
  Answer
    | .enter _ _ => Except ScpError Nat
    | .status _ => Except ScpError Unit
    | .awaitRefresh _ => Bool
    | .load _ _ _ => Option CompiledUpstreamServer
    | .candidates _ => List CompiledUpstreamServer
    | .hashKey _ => Option UpstreamHashKey
    | .lock => List (CacheKey × Nat)
    | .retain => List Nat
    | .startRefresh _ | .clone _ | .drop _ | .touch _ | .unlock => Unit

/-- An operation that awaits something may be answered at any time. -/
abbrev Run (α : Type) : Type := Program operations α

def enter (key : CacheKey) (template : Template) : Run (Except ScpError Nat) :=
  .call (Op.enter key template) .done

def status (handle : Nat) : Run (Except ScpError Unit) := .call (Op.status handle) .done

def startRefresh (handle : Nat) : Run Unit := .call (Op.startRefresh handle) .done

def awaitRefresh (handle : Nat) : Run Bool := .call (Op.awaitRefresh handle) .done

def load (handle : Nat) (key : List UInt8) (accept : CompiledUpstreamServer → Bool) :
    Run (Option CompiledUpstreamServer) :=
  .call (Op.load handle key accept) .done

def candidates (handle : Nat) : Run (List CompiledUpstreamServer) :=
  .call (Op.candidates handle) .done

def hashKey (handle : Nat) : Run (Option UpstreamHashKey) := .call (Op.hashKey handle) .done

def clone (handle : Nat) : Run Unit := .call (Op.clone handle) .done

def drop (handle : Nat) : Run Unit := .call (Op.drop handle) .done

def lock : Run (List (CacheKey × Nat)) := .call Op.lock .done

def touch (key : CacheKey) : Run Unit := .call (Op.touch key) .done

def unlock : Run Unit := .call Op.unlock .done

def retain : Run (List Nat) := .call Op.retain .done

def scpSelect (handle : Nat) (key : List UInt8) (accept : CompiledUpstreamServer → Bool) :
    Run (Option CompiledUpstreamServer) := do
  match ← status handle with
  | .error _ => pure none
  | .ok _ => load handle key accept

def templateScheme (nrf : CompiledNrfDiscovery) : String := Nrf.schemeText nrf.endpointScheme

variable (platform : Platform) (profile : RuntimeScp Handle)

def backendRoot (backend : CompiledUpstreamServer) (scheme : String) : Option ApiRoot :=
  let host := (backend.nrfService.bind NrfServiceMetadata.authority).getD backend.host
  let host := if Text.contains ':' host then "[" ++ host ++ "]" else host
  (ApiRoot.parse platform (scheme ++ "://" ++ host ++ ":" ++ toString backend.port.toNat ++
    backend.apiPrefix.getD "")).toOption

def rootBackend (root : ApiRoot) : CompiledUpstreamServer where
  host := root.host
  port := root.port
  weight := 1
  apiPrefix := if root.pathPrefix.isEmpty then none else some root.pathPrefix

structure ScpExchange where
  request : ScpRequest
  root : ApiRoot
  backend : CompiledUpstreamServer
  group : Option Nat
  key : List UInt8
  attempted : List CompiledUpstreamServer := []

variable {Handle : Type}

def templatesOf : List Template :=
  profile.templates.filterMap fun group =>
    group.nrfDiscovery.map fun nrf => { group, nrf }

def template (profile : RuntimeScp Handle) (request : ScpRequest) :
    Except ScpError Template :=
  let templates := templatesOf profile
  let candidates := templates.filter fun template =>
    request.query.serviceNames.head? = some template.nrf.serviceName &&
      request.targetType.all (fun type => type = template.nrf.targetNfType) &&
      request.requesterType.all fun type => type = template.nrf.requesterNfType
  match candidates with
  | [selected] => do
    rejectIf (request.query.serviceNames.any fun name => !templates.any fun template =>
        template.nrf.serviceName == name &&
          template.nrf.targetNfType == selected.nrf.targetNfType &&
          template.nrf.requesterNfType == selected.nrf.requesterNfType)
      (unspecified 403 "Service is outside the allowed discovery domain")
    pure selected
  | _ => .error (unspecified 403
      "Discovery factors must identify one allowed NF/service/requester combination")

def awaitDiscovery (handle : Nat) : Run Bool := do
  match ← status handle with
  | .ok _ => pure true
  | .error _ =>
    startRefresh handle
    awaitRefresh handle

/-- On success the caller has a reference to the group. -/
def discovered (request : ScpRequest) : Run (Except ScpError Nat) :=
  match template profile request with
  | .error error => pure (.error error)
  | .ok template => do
    let key : CacheKey :=
      { upstream := template.group.name, query := request.query }
    match ← enter key template with
    | .error error => pure (.error error)
    | .ok handle =>
      let ready ← awaitDiscovery handle
      if !ready then
        drop handle
        pure (.error .nrfUnreachable)
      else
        match ← status handle with
        | .error error =>
          drop handle
          pure (.error error)
        | .ok _ => pure (.ok handle)

/-- `retain` hands out a reference to every group. -/
def startRefreshes : List Nat → Run Unit
  | [] => pure ()
  | handle :: rest => do
    startRefresh handle
    drop handle
    startRefreshes rest

def maintain : Run Unit := do
  let handles ← retain
  startRefreshes handles

/-- The outcome of routing; a cached entry without a template is a panic. -/
inductive Routed where
  | exchange (exchange : ScpExchange)
  | refused (error : ScpError)
  | panicked

def unavailability (handle : Nat) : Run ScpError := do
  match ← status handle with
  | .error error => pure error
  | .ok _ => pure targetUnreachable

def scanCache (platform : Platform) (profile : RuntimeScp Handle) (request : ScpRequest)
    (root : ApiRoot) (clientIp : List UInt8) :
    List (CacheKey × Nat) → Option ScpError → Run Routed
  | [], unavailable => do
    unlock
    pure (.refused (unavailable.getD
      (unspecified 403 "Target apiRoot is not authorized by this profile")))
  | (key, handle) :: rest, unavailable =>
    match (templatesOf profile).find? fun template => template.group.name = key.upstream with
    | none => pure .panicked
    | some template => do
      let accept (backend : CompiledUpstreamServer) : Bool :=
        backendRoot platform backend (templateScheme template.nrf) = some root
      let known ← candidates handle
      if !known.any accept then
        scanCache platform profile request root clientIp rest unavailable
      else
        touch key
        let unavailable ← unavailability handle
        match ← scpSelect handle clientIp accept with
        | none => scanCache platform profile request root clientIp rest (some unavailable)
        | some backend =>
          clone handle
          unlock
          pure (.exchange { request, root, backend, group := some handle, key := clientIp })

def selectionKey (headers : HeaderMap) (clientIp : List UInt8) :
    Option UpstreamHashKey → Except ScpError (List UInt8)
  | some (.header name) => do
    let value ← single headers name
    pure ((value.map fun text => text.toUTF8.toList).getD clientIp)
  | _ => pure clientIp

def selectDiscovered (request : ScpRequest) (handle : Nat) (key : List UInt8) (scheme : String) :
    Run (Except ScpError CompiledUpstreamServer) := do
  let wanted (target : ApiRoot) (backend : CompiledUpstreamServer) : Bool :=
    backendRoot platform backend scheme = some target
  let preferred ← (match request.target with
    | none => pure none
    | some target => scpSelect handle key (wanted target))
  match preferred with
  | some backend => pure (.ok backend)
  | none =>
    let known ← (match request.target with
      | none => pure true
      | some target => do
        let known ← candidates handle
        pure (known.any (wanted target)))
    if !known then
      pure (.error (invalid "Target conflicts with discovery or binding"))
    else
      match ← scpSelect handle key fun _ => true with
      | none => pure (.error targetUnreachable)
      | some backend => pure (.ok backend)

def discoveredRoot (own : ApiRoot) (backend : CompiledUpstreamServer) (scheme : String) :
    Except ScpError ApiRoot := do
  let root ← orFail (backendRoot platform backend scheme)
    { status := 502
      cause := "SYSTEM_FAILURE"
      detail := "NRF returned an invalid target authority" }
  rejectIf (ownAuthority own root) (unspecified 508 "SCP routing loop")
  pure root

/-- The part of `route` that holds a reference to a discovered group. -/
def routeDiscovered (request : ScpRequest) (headers : HeaderMap) (clientIp : List UInt8)
    (handle : Nat) :
    Run (Except ScpError ScpExchange) := do
  let name ← hashKey handle
  match selectionKey headers clientIp name, template profile request with
  | .error error, _ => pure (.error error)
  | _, .error error => pure (.error error)
  | .ok key, .ok template =>
    let scheme := templateScheme template.nrf
    match ← selectDiscovered platform request handle key scheme with
    | .error error => pure (.error error)
    | .ok backend =>
      pure ((discoveredRoot platform profile.root backend scheme).map fun root =>
        { request, root, backend, group := some handle, key })

def route (request : ScpRequest) (headers : HeaderMap) (clientIp : List UInt8) : Run Routed :=
  match request.target.filter fun _ => !request.discovery with
  | some root =>
    if root ∈ profile.allowed then
      pure (.exchange { request, root, backend := rootBackend root, group := none, key := [] })
    else do
      let entries ← lock
      scanCache platform profile request root clientIp entries none
  | none => do
    match ← discovered profile request with
    | .error error => pure (.refused error)
    | .ok handle =>
      match ← routeDiscovered platform profile request headers clientIp handle with
      | .ok exchange => pure (.exchange exchange)
      | .error error =>
        drop handle
        pure (.refused error)

def acceptsRetry (exchange : ScpExchange) (backend : CompiledUpstreamServer) : Bool :=
  backend ∉ exchange.attempted &&
    (exchange.request.discovery ||
      decide (backendRoot platform backend exchange.root.scheme = exchange.request.target))

def retryConnect (exchange : ScpExchange) : Run (Bool × ScpExchange) :=
  if exchange.attempted ≠ [] then pure (false, exchange)
  else
    match exchange.group with
    | none => pure (false, exchange)
    | some handle => do
      let exchange := { exchange with attempted := exchange.attempted ++ [exchange.backend] }
      match ← scpSelect handle exchange.key (acceptsRetry platform exchange) with
      | none => pure (false, exchange)
      | some backend =>
        match backendRoot platform backend exchange.root.scheme with
        | none => pure (false, exchange)
        | some root =>
          if ownAuthority profile.root root then pure (false, exchange)
          else
            pure (true, { exchange with
                root
                backend })

/-- A number of calls of `retryConnect`, with the answer and the exchange after each. -/
def retries (platform : Platform) (profile : RuntimeScp Handle) :
    Nat → ScpExchange → Run (List (Bool × ScpExchange))
  | 0, _ => pure []
  | count + 1, exchange => do
    let tried ← retryConnect platform profile exchange
    pure (tried :: (← retries platform profile count tried.2))

inductive Outcome where
  | served (first : ScpExchange) (retried : List (Bool × ScpExchange))
  | refused (error : ScpError)
  | panicked

def serve (request : ScpRequest) (headers : HeaderMap) (clientIp : List UInt8) (count : Nat) :
    Run Outcome := do
  match ← route platform profile request headers clientIp with
  | .refused error => pure (.refused error)
  | .panicked => pure .panicked
  | .exchange first =>
    let retried ← retries platform profile count first
    match first.group with
    | none => pure (.served first retried)
    | some handle =>
      drop handle
      pure (.served first retried)

def requestHeaders (exchange : ScpExchange) (headers : HeaderMap) : HeaderMap :=
  let remove := headers.entries.filterMap fun entry =>
    if entry.1 = targetHeader || Text.startsWith discoveryHeader entry.1 ||
        entry.1 = "3gpp-sbi-routing-binding" then some entry.1 else none
  let headers := remove.foldl HeaderMap.remove headers
  (headers.insert "host" (HeaderValue.ofText exchange.root.authority)).insert
    "3gpp-sbi-max-forward-hops" (HeaderValue.ofText (toString exchange.request.hops.toNat))

def upstreamUri (exchange : ScpExchange) : Except ScpError Uri :=
  (platform.uriParse (exchange.root.scheme ++ "://" ++ exchange.root.authority ++
    exchange.root.pathPrefix ++ exchange.request.pathQuery)).mapError fun _ =>
      invalid "Invalid upstream URI"

end Ngxora.Scp
