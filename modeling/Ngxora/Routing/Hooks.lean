/-
The hooks of one request that may answer it. Timeouts, keep-alive, tracing, metrics and what is
captured for the cache are left out; none of them answers a request.
-/

import Ngxora.Base.Effects
import Ngxora.Cache.Policy
import Ngxora.Http.Plugins
import Ngxora.Routing.Selection
import Ngxora.Scp.Route

namespace Ngxora.Routing

open Control Http Net Results Router HeaderValue

structure ResponseHeader where
  status : UInt16
  headers : HeaderMap

inductive Event where
  | called (call : Call)
  | header (header : ResponseHeader)
  | body (bytes : Option (List UInt8))

/-- `pingora::http::ResponseHeader`: which values its operations refuse, and the
headers of a generated error. -/
structure HeaderLibrary where
  build : UInt16 → Except String Unit
  appendHeader : String → HeaderValue → Except String Unit
  insertHeader : String → HeaderValue → Except String Unit
  setStatus : UInt16 → Except String Unit
  errorHeaders : UInt16 → HeaderMap

structure Proxy (Handle Material State : Type) where
  crates : Crates
  platform : Platform
  library : HeaderLibrary
  networkContains : IpNet → IpAddr → Bool
  groups : RuntimeGroups Handle
  emptyPluginChain : Material
  plugins : Material → List (HttpPlugin State)
  challengeTokens : Table String String
  snapshot : RuntimeSnapshot Handle Material

structure ProxyContext (Handle Material State : Type) where
  clientIp : Option IpAddr := none
  responsePluginsApplied : Bool := false
  snapshotGeneration : UInt64 := 0
  scp : Option Scp.ScpExchange := none
  scpProfile : Option (RuntimeScp Handle) := none
  selected : Option (SelectedRoute Material) := none
  pluginState : State
  clientMaxBodySize : Option UInt64 := none
  cacheKey : Option Cache.CacheKey := none
  cacheStoreAllowed : Bool := false
  cacheHit : Bool := false

structure Downstream where
  request : Session
  http2 : Bool
  /-- `response_written`. -/
  written : Option ResponseHeader := none
  /-- The error of the write that broke the connection. -/
  broken : Option PingoraError := none

/-- The trace has what a client or a plugin sees. -/
structure World (Handle Material State : Type) where
  context : ProxyContext Handle Material State
  downstream : Downstream
  counters : Table UInt64 UInt64
  trace : List Event := []

inductive Failure where
  | error (error : PingoraError)
  | panic

/-- A hook that fails keeps what it has done. -/
abbrev Hook (Handle Material State α : Type) : Type :=
  Effect (World Handle Material State) Failure α

variable {Handle Material State : Type}

def attempt {α : Type} (result : Except PingoraError α) : Hook Handle Material State α :=
  Effect.ofExcept (result.mapError Failure.error)

def setContext (change : ProxyContext Handle Material State → ProxyContext Handle Material State) :
    Hook Handle Material State Unit :=
  modify fun world => { world with context := change world.context }

structure Io where
  header : Option PingoraError := none
  body : Option PingoraError := none

def isInformational (status : UInt16) : Bool := decide (100 ≤ status.toNat ∧ status.toNat < 200)

/-- After a failed write nothing is written. -/
def Downstream.break (downstream : Downstream) (error : PingoraError) : Downstream :=
  { downstream with broken := some error }

def World.breakWith (world : World Handle Material State) (error : PingoraError) :
    World Handle Material State :=
  { world with downstream := world.downstream.break error }

def Downstream.final (downstream : Downstream) : Bool :=
  downstream.written.any fun header => !isInformational header.status

def World.sent (world : World Handle Material State) (header : ResponseHeader) :
    World Handle Material State :=
  { world with
    downstream := { world.downstream with written := some header }
    trace := world.trace ++ [.header header] }

def writeResponseHeader (io : Io) (header : ResponseHeader) : Hook Handle Material State Unit := do
  let world ← get
  if world.downstream.final then pure ()
  else
    match world.downstream.broken, io.header with
    | some error, _ => throw (.error error)
    | none, some error => do
      modify fun world => world.breakWith error
      throw (.error error)
    | none, none => modify fun world => world.sent header

def writeResponseBody (io : Io) (bytes : Option (List UInt8)) :
    Hook Handle Material State Unit := do
  let world ← get
  match world.downstream.broken, io.body with
  | some error, _ => throw (.error error)
  | none, some error => do
    modify fun world => world.breakWith error
    throw (.error error)
  | none, none => modify fun world => { world with trace := world.trace ++ [.body bytes] }

variable (library : HeaderLibrary)

def respondError (io : Io) (status : UInt16) : Hook Handle Material State Unit := do
  writeResponseHeader io
    { status, headers := library.errorHeaders status }
  writeResponseBody io none

def explained {α : Type} (context : String) (result : Except String α) : Except PingoraError α :=
  result.mapError fun message => Http.explain .internalError (context ++ message)

variable (proxy : Proxy Handle Material State)

def applyResponsePlugins (header : ResponseHeader) : Hook Handle Material State ResponseHeader := do
  let world ← get
  if world.context.responsePluginsApplied then pure header
  else do
    setContext fun context => { context with responsePluginsApplied := true }
    match world.context.selected with
    | none => pure header
    | some selected => do
      let run := runChain (proxy.plugins selected.plugins) world.context.pluginState
        header.status header.headers
      modify fun world => { world with
        context := { world.context with pluginState := run.state }
        trace := world.trace ++ run.calls.map Event.called }
      attempt run.result
      attempt ((proxy.library.setStatus run.status).mapError runtimeConfigError)
      pure { status := run.status, headers := run.headers }

def buildResponse (response : LocalResponse) : Except PingoraError ResponseHeader := do
  explained "failed to build plugin response: " (library.build response.status)
  let headers ← response.headers.foldlM (fun (headers : HeaderMap) entry => do
    explained "failed to insert plugin response header: " (library.appendHeader entry.1 entry.2)
    pure (headers.append entry.1 entry.2)) {}
  pure { status := response.status, headers }

def bodyForbidden (status : UInt16) : Bool :=
  isInformational status || status == 204 || status == 304

def finishResponse (header : ResponseHeader) (body : List UInt8) :
    Except PingoraError ResponseHeader := do
  let headers := header.headers.remove "transfer-encoding"
  if bodyForbidden header.status then pure { header with headers := headers.remove "content-length" }
  else do
    let length := ofText (toString body.length)
    explained "failed to finalize plugin response: " (library.insertHeader "content-length" length)
    pure { header with headers := headers.insert "content-length" length }

def writeRouteResponse (io : Io) (response : LocalResponse) : Hook Handle Material State Unit := do
  let header ← attempt (buildResponse proxy.library response)
  let header ← applyResponsePlugins proxy header
  let header ← attempt (finishResponse proxy.library header response.body)
  writeResponseHeader io header
  let world ← get
  if response.body.isEmpty || bodyForbidden header.status ||
      world.downstream.request.method == "HEAD" then
    writeResponseBody io none
  else writeResponseBody io (some response.body)

def buildCached (cached : Cache.CachedResponse) : Except PingoraError ResponseHeader := do
  explained "failed to build cached response header: " (library.build cached.status)
  let headers ← cached.headers.entries.foldlM (fun (headers : HeaderMap) entry => do
    explained ("failed to insert cached header `" ++ entry.1 ++ "`: ")
      (library.insertHeader entry.1 entry.2)
    pure (headers.insert entry.1 entry.2)) {}
  pure { status := cached.status, headers }

def writeCachedResponse (io : Io) (cached : Cache.CachedResponse) :
    Hook Handle Material State Unit := do
  let header ← attempt (buildCached library cached)
  writeResponseHeader io header
  writeResponseBody io (if cached.body.isEmpty then none else some cached.body)

/-- What a request finds outside: its client address, the printed URI, what the cache
has and counts, and where an SCP request would be routed to. -/
structure RequestInput where
  clientIp : Option IpAddr
  uriText : String
  found : Option Cache.CachedResponse
  threshold : Bool
  routed : Scp.Routed

def challengeAnswer (path : String) : Option String := do
  let token ← Text.afterStart "/.well-known/acme-challenge/" path
  if token.isEmpty || Text.contains '/' token then none else proxy.challengeTokens.lookup token

def selectRuntimeRoute (session : Session) :
    Except PingoraError (Option (SelectedRoute Material × Option String)) := do
  match ← resolveRoute proxy.crates proxy.snapshot.router session with
  | none => pure none
  | some resolved => do
    let selected ← (SelectedRoute.fromResolved proxy.crates proxy.emptyPluginChain
      proxy.snapshot resolved session).mapError SelectionError.toPingora
    pure (some (selected, resolved.host))

def contentLengthLimitExceeded (header : Option HeaderValue) (limit : Option UInt64) :
    Option Bool := do
  let limit ← limit
  let header ← header
  let text ← header.toStr
  pure (decide (limit < (← Digits.parseU64 text)))

def restrictClientMaxBodySize (io : Io) : Hook Handle Material State Bool := do
  let world ← get
  if contentLengthLimitExceeded (world.downstream.request.headers.get "content-length")
      world.context.clientMaxBodySize = some true then do
    respondError proxy.library io 413
    pure true
  else pure false

def ruleMatchesIp (contains : IpNet → IpAddr → Bool) (ip : IpAddr) : LocationIpRule → Bool
  | .allow network | .deny network => contains network ip
  | .allowAll | .denyAll => true

def locationAllowsClient (contains : IpNet → IpAddr → Bool) (rules : List LocationIpRule)
    (clientIp : Option IpAddr) : Bool :=
  rules.isEmpty ||
    (clientIp.bind fun ip => rules.find? (ruleMatchesIp contains ip)).any LocationIpRule.isAllow

def runRequestPlugins (ctx : RequestCtx) :
    List (HttpPlugin State) → Hook Handle Material State (Option LocalResponse)
  | [] => pure none
  | plugin :: rest => do
    let world ← get
    let effect := plugin.onRequest ctx world.context.pluginState world.downstream.request.headers
    modify fun world => { world with
      context := { world.context with pluginState := effect.state }
      downstream := { world.downstream with
        request := { world.downstream.request with headers := effect.headers } } }
    match effect.flow with
    | .error error => throw (.error (mapPluginError "request_filter" error))
    | .ok (.respond response) => pure (some response)
    | .ok .proceed => runRequestPlugins ctx rest

def authorizeRequest (io : Io) (selected : SelectedRoute Material) (host : Option String) :
    Hook Handle Material State Bool := do
  let world ← get
  let session := world.downstream.request
  let allowed := selected.clientLimits.allowedMethods
  if !locationAllowsClient proxy.networkContains selected.accessRules world.context.clientIp then do
    writeRouteResponse proxy io { status := 403 }
    pure true
  else if !allowed.isEmpty && !allowed.contains session.method then do
    let value := ", ".intercalate allowed
    attempt (if proxy.platform.headerValueFromStr value then .ok ()
      else .error (Http.explain .internalError "failed to parse header value"))
    writeRouteResponse proxy io
      { status := 405, headers := [("allow", ofText value)] }
    pure true
  else do
    let answer ← runRequestPlugins
      { path := session.uri.path
        host
        method := session.method
        clientIp := world.context.clientIp } (proxy.plugins selected.plugins)
    match answer with
    | some response => do
      writeRouteResponse proxy io response
      pure true
    | none => pure false

def statusFromU16 (status : UInt16) : Option UInt16 :=
  if 100 ≤ status.toNat ∧ status.toNat < 1000 then some status else none

/-- `ScpError::response`; a status or an identity that HTTP does not allow panics. -/
def scpErrorResponse (platform : Platform) (error : Nrf.ScpError) (identity : String) :
    Hook Handle Material State LocalResponse :=
  let server := "SCP-" ++ identity
  let problem := Json.object [("cause", .string error.cause), ("detail", .string error.detail),
    ("status", .number (toString error.status.toNat))]
  match statusFromU16 error.status, platform.headerValueFromStr server with
  | some status, true =>
    pure
      { status
        headers := [("content-type", ofText "application/problem+json"),
          ("server", ofText server)]
        body := textBytes ((platform.jsonToString problem).toOption.getD "") }
  | _, _ => throw .panic

def refuseScp (io : Io) (profile : RuntimeScp Handle) (error : Nrf.ScpError) :
    Hook Handle Material State Bool := do
  let response ← scpErrorResponse proxy.platform error profile.root.host
  writeRouteResponse proxy io response
  pure true

def prepareScpRequest (input : RequestInput) (io : Io) (selected : SelectedRoute Material) :
    Hook Handle Material State Bool := do
  let found ← attempt ((scpProfile proxy.snapshot selected.target).mapError
    SelectionError.toPingora)
  match found with
  | none => pure false
  | some profile => do
    setContext fun context => { context with scpProfile := some profile }
    let world ← get
    let session := world.downstream.request
    if !world.downstream.http2 then
      refuseScp proxy io profile (Scp.unspecified 505 "SCP requires HTTP/2")
    else
      match Scp.ScpRequest.parse proxy.platform session.headers session.method session.uri.path
          session.uri.query profile.root with
      | .error error => refuseScp proxy io profile error
      | .ok _ =>
        match input.routed with
        | .exchange exchange => do
          setContext fun context => { context with scp := some exchange }
          pure false
        | .refused error => refuseScp proxy io profile error
        | .panicked => throw .panic

def tryCache (input : RequestInput) (io : Io) (host : Option String) :
    Hook Handle Material State Bool := do
  let world ← get
  let session := world.downstream.request
  match world.context.selected.bind fun selected =>
      selected.cache.map fun config => (selected.routeId, config) with
  | none => pure false
  | some (routeId, config) =>
    if !Cache.isCacheableRequest session.method session.headers then pure false
    else
      match input.found with
      | some cached => do
        setContext fun context => { context with cacheHit := true }
        writeCachedResponse proxy.library io cached
        pure true
      | none => do
        let key := Cache.buildCacheKey session.method input.uriText
          world.context.snapshotGeneration routeId (host.getD "") config
        setContext fun context => { context with
          cacheStoreAllowed := input.threshold
          cacheKey := some key }
        pure false

def selectBackend (selected : SelectedRoute Material) :
    Hook Handle Material State (SelectedRoute Material) :=
  match selected.target with
  | .pending target => do
    let world ← get
    let (counters, choice) := selectBackendTarget proxy.groups proxy.snapshot world.counters
      selected.routeId target world.downstream.request world.context.clientIp
    modify fun world => { world with counters }
    let target ← attempt (choice.mapError SelectionError.toPingora)
    let selected := { selected with target }
    setContext fun context => { context with selected := some selected }
    pure selected
  | _ => pure selected

def respondToSelectedTarget (io : Io) (selected : SelectedRoute Material) :
    Hook Handle Material State Bool :=
  match selected.target with
  | .directResponse status => do
    let status ← attempt (orFail (statusFromU16 status)
      (runtimeConfigError "invalid status code"))
    writeRouteResponse proxy io { status }
    pure true
  | .returnTo status location => do
    let code ← attempt (orFail (statusFromU16 status)
      (Http.explain .internalError s!"invalid redirect status code: {status.toNat}"))
    attempt (if proxy.platform.headerValueFromStr location then .ok ()
      else .error (Http.explain .internalError s!"invalid redirect location: {location}"))
    writeRouteResponse proxy io
      { status := code, headers := [("location", ofText location)] }
    pure true
  | _ => pure false

def routedContext (selected : SelectedRoute Material)
    (context : ProxyContext Handle Material State) : ProxyContext Handle Material State :=
  { context with
    selected := some selected
    clientMaxBodySize :=
      match selected.clientLimits.maxBodySize with
      | some limit => if limit = 0 then none else some limit
      | none => context.clientMaxBodySize }

/-- The part of `request_filter` after the choice of a route. -/
def serveRoute (input : RequestInput) (io : Io) (selected : SelectedRoute Material)
    (host : Option String) :
    Hook Handle Material State Bool := do
  setContext (routedContext selected)
  if ← restrictClientMaxBodySize proxy io then pure true
  else do
    let world ← get
    let cacheable := Cache.isCacheableRequest world.downstream.request.method
      world.downstream.request.headers
    if ← authorizeRequest proxy io selected host then pure true
    else if ← prepareScpRequest proxy input io selected then pure true
    else if ← (if cacheable then tryCache proxy input io host else pure false) then pure true
    else do
      let selected ← selectBackend proxy selected
      respondToSelectedTarget proxy io selected

def requestFilter (input : RequestInput) (io : Io) : Hook Handle Material State Bool := do
  setContext fun context => { context with
    clientIp := input.clientIp
    snapshotGeneration := proxy.snapshot.generation
    clientMaxBodySize := proxy.snapshot.router.httpOptions.clientMaxBodySize }
  let world ← get
  match challengeAnswer proxy world.downstream.request.uri.path with
  | some keyAuth => do
    writeRouteResponse proxy io
      { status := 200
        headers := [("content-type", ofText "text/plain")]
        body := textBytes keyAuth }
    pure true
  | none => do
    match ← attempt (selectRuntimeRoute proxy world.downstream.request) with
    | none => do
      setContext fun context => { context with selected := none }
      restrictClientMaxBodySize proxy io
    | some (selected, host) => serveRoute proxy input io selected host

def insertHeader (header : ResponseHeader) (name value : String) :
    Except PingoraError ResponseHeader := do
  (library.insertHeader name (ofText value)).mapError
    (Http.explain (.other "InvalidHTTPHeader"))
  pure { header with headers := header.headers.insert name (ofText value) }

def insertProducer (exchange : Scp.ScpExchange) (header : ResponseHeader) :
    Except PingoraError ResponseHeader :=
  match exchange.backend.nrfService with
  | some metadata => insertHeader library header "3gpp-sbi-producer-id"
      ("nfinst=" ++ metadata.nfInstanceId ++ "; nfservinst=" ++ metadata.serviceInstanceId)
  | none => .ok header

/-- `ScpExchange::response_headers`. -/
def scpResponseHeaders (exchange : Scp.ScpExchange) (header : ResponseHeader) :
    Except PingoraError ResponseHeader := do
  let header ← insertProducer library exchange header
  if !header.headers.containsKey "location" &&
      (exchange.request.discovery || decide (exchange.request.target ≠ some exchange.root)) then
    insertHeader library header Scp.targetHeader exchange.root.value
  else pure header

def responseFilter (upstream : ResponseHeader) : Hook Handle Material State ResponseHeader := do
  let world ← get
  match world.context.selected with
  | none => pure upstream
  | some _ => do
    let header ← applyResponsePlugins proxy upstream
    match world.context.scp with
    | none => pure header
    | some exchange => attempt (scpResponseHeaders proxy.library exchange header)

structure FailToProxy where
  canReuseDownstream : Bool
  errorCode : UInt16

def scpFailure (error : PingoraError) : Nrf.ScpError :=
  match error.etype, error.esource with
  | .httpStatus status, _ =>
    if status = 504 then Scp.targetUnreachable else Scp.unspecified status "HTTP request failed"
  | _, .upstream => Scp.targetUnreachable
  | _, .downstream => Scp.unspecified 400 "Downstream request failed"
  | _, _ => { status := 500, cause := "SYSTEM_FAILURE", detail := "Internal proxy failure" }

def failureCode (error : PingoraError) : UInt16 :=
  match error.etype, error.esource with
  | .httpStatus code, _ => code
  | .readTimedout, .downstream => 408
  | _, .upstream => 502
  | _, .downstream => 400
  | _, _ => 500

/-- Errors are answered; a panic ends the request. -/
def onError {α : Type} (handler : Hook Handle Material State α) :
    Failure → Option (Hook Handle Material State α)
  | .error _ => some handler
  | .panic => none

def deliverError (io : Io) (response : LocalResponse) : Hook Handle Material State Unit :=
  Effect.recover (writeRouteResponse proxy io response) (onError do
    let world ← get
    if world.downstream.written.isNone then
      Effect.recover (respondError proxy.library io 500) (onError (pure ()))
    else pure ())

def reported (code : UInt16) : Hook Handle Material State FailToProxy := do
  let world ← get
  pure
    { canReuseDownstream := false
      errorCode := (world.downstream.written.map ResponseHeader.status).getD code }

def staleResponse (error : PingoraError) (context : ProxyContext Handle Material State)
    (found : Option Cache.CachedResponse) : Option Cache.CachedResponse :=
  if error.esource ≠ .upstream then none
  else
    match (context.selected.bind SelectedRoute.cache).filter
        fun config => config.staleIfError.isSome, context.cacheKey with
    | some _, some _ => found.map fun cached =>
      { cached with headers := cached.headers.insert "x-cache" (ofText "STALE") }
    | _, _ => none

/-- `found`: what the cache still has for the request. -/
def failToProxy (error : PingoraError) (found : Option Cache.CachedResponse) (io : Io) :
    Hook Handle Material State FailToProxy := do
  let world ← get
  match world.downstream.written with
  | some header =>
    pure { canReuseDownstream := false, errorCode := header.status }
  | none =>
    match world.context.scpProfile with
    | some profile => do
      let failure := scpFailure error
      let response ← scpErrorResponse proxy.platform failure profile.root.host
      deliverError proxy io response
      reported failure.status
    | none =>
      match staleResponse error world.context found with
      | some cached => do
        setContext fun context => { context with cacheHit := true }
        let reuse ← Effect.recover (do
          writeCachedResponse proxy.library io cached
          pure true) (onError (pure false))
        pure { canReuseDownstream := reuse, errorCode := cached.status }
      | none => do
        let code := failureCode error
        deliverError proxy io { status := (statusFromU16 code).getD 500 }
        reported code

end Ngxora.Routing
