/-
Response plugins over a whole request.
-/

import Ngxora.Routing.FailureHook
import Ngxora.Routing.RequestHook

namespace Ngxora.Routing

open List Control Http Net Results Router

variable {Handle Material State : Type} {proxy : Proxy Handle Material State}

/-- A request and what the framework remembers of it: whether the request filter has
been called, and the error of the hook that failed last. -/
structure Exchange (Handle Material State : Type) where
  world : World Handle Material State
  started : Bool
  pending : Option PingoraError

inductive HookCall where
  | requestFilter (input : RequestInput) (io : Io)
  | responseFilter (upstream : ResponseHeader)
  | failToProxy (error : PingoraError) (found : Option Cache.CachedResponse) (io : Io)
  /-- The framework writes a header of the upstream. -/
  | forward (header : ResponseHeader) (io : Io)

def Exchange.initial (session : Session) (http2 : Bool) (counters : Table UInt64 UInt64)
    (pluginState : State) : Exchange Handle Material State :=
  { world := { context := { pluginState }, downstream := { request := session, http2 }, counters }
    started := false
    pending := none }

/-- A failed hook passes its error to `fail_to_proxy`. -/
def Exchange.after {α : Type} (exchange : Exchange Handle Material State) :
    Except Failure α × World Handle Material State → Option (Exchange Handle Material State)
  | (.ok _, world) => some { exchange with world, started := true }
  | (.error (.error error), world) =>
    some { world, started := true, pending := some error }
  | (.error .panic, _) => none

/-- `request_filter` comes first, then `response_filter` and `fail_to_proxy` any number of
times; headers are forwarded as long as no hook has failed. -/
def Exchange.step (proxy : Proxy Handle Material State)
    (exchange : Exchange Handle Material State) :
    HookCall → Option (Exchange Handle Material State)
  | .requestFilter input io =>
    if exchange.started then none
    else exchange.after ((requestFilter proxy input io).exec exchange.world)
  | .responseFilter upstream =>
    if !exchange.started then none
    else exchange.after ((responseFilter proxy upstream).exec exchange.world)
  | .failToProxy error found io =>
    if !exchange.started || exchange.pending.any (fun known => decide (known ≠ error)) then none
    else exchange.after ((failToProxy proxy error found io).exec exchange.world)
  | .forward header io =>
    if !exchange.started || exchange.pending.isSome then none
    else exchange.after ((writeResponseHeader io header).exec exchange.world)

/-- The invariant of a request between its hooks. -/
structure Exchange.Sound (proxy : Proxy Handle Material State)
    (exchange : Exchange Handle Material State) : Prop where
  world : Routing.Sound proxy exchange.world
  fresh : exchange.started = false → Untouched exchange.world
  owes : Owes exchange.world → ∃ error ∈ exchange.pending, error.Internal

lemma Exchange.Sound.initial (proxy : Proxy Handle Material State) (session : Session)
    (http2 : Bool) (counters : Table UInt64 UInt64) (pluginState : State) :
    (Exchange.initial session http2 counters pluginState).Sound proxy := by
  have kept : Untouched (Exchange.initial session http2 counters pluginState :
      Exchange Handle Material State).world := ⟨rfl, rfl, rfl⟩
  have settled : Settled proxy (Exchange.initial session http2 counters pluginState :
      Exchange Handle Material State).world := kept.settled
  exact ⟨settled.1, fun _ => kept, fun owes => absurd owes settled.2⟩

variable {exchange next : Exchange Handle Material State}

lemma Exchange.Sound.of_ends {α : Type} {out : Except Failure α × World Handle Material State}
    (ends : Effect.Ends (fun _ world => Routing.Sound proxy world ∧
      (Owes world → ∃ error ∈ exchange.pending, error.Internal))
      (fun err world => err = .panic ∨ Failing proxy err world) out)
    (moved : exchange.after out = some next) : next.Sound proxy := by
  rcases out with ⟨err | value, world⟩
  · cases err with
    | panic => cases moved
    | error error =>
      cases moved
      rcases ends with panicked | failing
      · cases panicked
      · constructor
        · exact failing.1
        · intro unstarted
          cases unstarted
        · intro owes
          exact ⟨error, rfl, failing.2 owes⟩
  · cases moved
    constructor
    · exact ends.1
    · intro unstarted
      cases unstarted
    · exact ends.2

lemma Exchange.Sound.internal_of_allowed (sound : exchange.Sound proxy) {error : PingoraError}
    (allowed : ¬ (!exchange.started || exchange.pending.any fun known =>
      decide (known ≠ error)) = true) : Owes exchange.world → error.Internal := by
  intro owes
  obtain ⟨known, pending, internal⟩ := sound.owes owes
  rw [pending] at allowed
  have same : known = error := by
    by_contra ne
    apply allowed
    simp [ne]
  exact same ▸ internal

lemma Exchange.Sound.step (sound : exchange.Sound proxy) {call : HookCall}
    (moved : Exchange.step proxy exchange call = some next) : next.Sound proxy := by
  have settledOwes : ∀ world, Settled proxy world →
      Routing.Sound proxy world ∧ (Owes world → ∃ error ∈ exchange.pending, error.Internal) :=
    fun world settled => ⟨settled.1, fun owes => absurd owes settled.2⟩
  cases call with
  | requestFilter input io =>
    simp only [Exchange.step] at moved
    split at moved
    · cases moved
    · rename_i unstarted
      have untouched := sound.fresh (Bool.eq_false_of_not_eq_true unstarted)
      apply Exchange.Sound.of_ends _ moved
      exact (requestFilter_meets input io exchange.world untouched).weaken
        (fun _ world passes => settledOwes world passes.1) fun _ _ failing => .inr failing
  | responseFilter upstream =>
    simp only [Exchange.step] at moved
    split at moved
    · cases moved
    · apply Exchange.Sound.of_ends _ moved
      exact (responseFilter_meets upstream _ exchange.world ⟨sound.world, sound.owes⟩).weaken
        (fun _ _ holds => holds) fun _ _ failing => .inr failing
  | failToProxy error found io =>
    simp only [Exchange.step] at moved
    split at moved
    · cases moved
    · rename_i allowed
      have owed : Owes exchange.world → error.Internal := sound.internal_of_allowed allowed
      apply Exchange.Sound.of_ends _ moved
      apply (failToProxy_meets error found io False exchange.world
        ⟨⟨sound.world, owed⟩, False.elim⟩).weaken
      · intro _ world ends
        exact settledOwes world ends.1
      · intro err world panicked
        exact .inl panicked
  | forward header io =>
    simp only [Exchange.step] at moved
    split at moved
    · cases moved
    · rename_i allowed
      have unowing : ¬ Owes exchange.world := by
        intro owes
        obtain ⟨error, pending, _⟩ := sound.owes owes
        rw [pending] at allowed
        simp at allowed
      apply Exchange.Sound.of_ends _ moved
      apply (writeResponseHeader_meets io header exchange.world
        ⟨sound.world, fun owes => absurd owes unowing⟩).weaken
      · intro _ world settled
        exact settledOwes world settled
      · intro err world settled
        exact .inr (settled.failing err)

lemma Exchange.sound_of_reaches {session : Session} {http2 : Bool}
    {counters : Table UInt64 UInt64} {pluginState : State}
    (reached : Runs.Reaches (Exchange.step proxy)
      (Exchange.initial session http2 counters pluginState) exchange) : exchange.Sound proxy :=
  reached.invariant (Exchange.Sound.initial proxy session http2 counters pluginState)
    fun _ _ _ sound moved => sound.step moved

variable {found : Option Cache.CachedResponse} {io : Io}

lemma failToProxy_ends (sound : exchange.Sound proxy) {error : PingoraError}
    (moved : exchange.step proxy (.failToProxy error found io) = some next) {first : Prop}
    (unsent : first → Unsent exchange.world) :
    ¬ Owes next.world ∧ (first → SentOnce next.world) := by
  simp only [Exchange.step] at moved
  split at moved
  · cases moved
  · rename_i allowed
    have ends := failToProxy_meets error found io first exchange.world
      ⟨⟨sound.world, sound.internal_of_allowed allowed⟩, unsent⟩
    rcases out : (failToProxy proxy error found io).exec exchange.world with
      ⟨err | res, world⟩
    · rw [out] at ends moved
      cases ends
      cases moved
    · rw [out] at ends moved
      cases moved
      exact ⟨ends.1.2, ends.2⟩

lemma failToProxy_keeps (sound : exchange.Sound proxy) {error : PingoraError}
    (moved : exchange.step proxy (.failToProxy error found io) = some next)
    (written : headersIn exchange.world.trace ≠ []) : next.world = exchange.world := by
  simp only [Exchange.step] at moved
  split at moved
  · cases moved
  · cases last : exchange.world.downstream.written with
    | none => exact absurd (sound.world.unsent last) written
    | some header =>
      rw [failToProxy_written last] at moved
      cases moved
      rfl

lemma nodup_chainPlaces (proxy : Proxy Handle Material State)
    (world : World Handle Material State) : (chainPlaces proxy world).Nodup := by
  unfold chainPlaces
  split
  · exact nodup_nil
  · exact nodup_reverse.mpr nodup_range

lemma callsIn_after_failure {places : List Nat} {before after : List Event} {call : Call}
    (unwinds : Unwinds places (callsIn (before ++ .called call :: after)))
    (failed : call.failed = true) : callsIn after = [] := by
  apply unwinds.stopped (callsIn before) call (callsIn after) _ failed
  rw [callsIn_append]
  rfl

/-- In every state of a request: the plugins of the selected route have been called at
most once, last declared first, up to the first failure; after a failure no plugin is
called, and if no header was written before it, only status 500 is sent.  And
`fail_to_proxy` leaves a request with a header as it is, writes at most one header
otherwise, and does not leave a failed plugin unanswered while the connection is whole. -/
theorem response_plugins_run_once {session : Session} {http2 : Bool}
    {counters : Table UInt64 UInt64} {pluginState : State}
    {exchange : Exchange Handle Material State}
    (reached : Runs.Reaches (Exchange.step proxy)
      (Exchange.initial session http2 counters pluginState) exchange) :
    Unwinds (chainPlaces proxy exchange.world) (callsIn exchange.world.trace) ∧
    ((callsIn exchange.world.trace).map Call.place).Nodup ∧
    (∀ before call after, exchange.world.trace = before ++ .called call :: after →
      call.failed = true → callsIn after = [] ∧
        (headersIn before = [] → ∀ header ∈ headersIn after, header.status = 500)) ∧
    ∀ error found io next, exchange.step proxy (.failToProxy error found io) = some next →
      (headersIn exchange.world.trace ≠ [] → next.world = exchange.world) ∧
      (headersIn exchange.world.trace = [] → (headersIn next.world.trace).length ≤ 1) ∧
      ((∃ call ∈ callsIn next.world.trace, call.failed = true) →
        next.world.downstream.broken = none → headersIn next.world.trace ≠ []) := by
  have sound := Exchange.sound_of_reaches reached
  have unwinds := sound.world.unwinds
  refine ⟨unwinds, ?_, ?_, ?_⟩
  · exact unwinds.inOrder.sublist.nodup (nodup_chainPlaces proxy exchange.world)
  · intro before call after split failed
    rw [split] at unwinds
    exact ⟨callsIn_after_failure unwinds failed,
      sound.world.answered before call after split failed⟩
  · intro error found io next moved
    refine ⟨failToProxy_keeps sound moved,
      fun unsent => (failToProxy_ends sound moved fun _ => unsent).2 trivial, ?_⟩
    intro failed whole unwritten
    exact (failToProxy_ends sound moved False.elim).1 ⟨whole, unwritten, failed⟩

namespace FailingPlugin

def quiet : HttpPlugin Unit :=
  { onRequest := fun _ state headers => { flow := .ok .proceed, state, headers }
    onResponse := fun state status headers => { flow := .ok .proceed, state, status, headers } }

def failing : HttpPlugin Unit :=
  { quiet with
    onResponse := fun state status headers =>
      { flow := .error { plugin := "headers", message := "no value" }, state, status, headers } }

def location : CompiledLocation :=
  { clientLimits := {}
    urlRewrite := none
    routeId := 1
    matcher := .pathPrefix "/"
    accessRules := []
    target := .action (.proxyPass "backend" 80 false "")
    upstreamTimeouts := {}
    upstreamProtocol := none
    upstreamHttp2 := {}
    upstreamSslOptions := {}
    plugins := []
    cache := none }

def listener : ListenKey :=
  { addr := .v4 { a := 127, b := 0, c := 0, d := 1 }, port := 80, ssl := false }

def snapshot : RuntimeSnapshot Unit Unit :=
  { generation := 1
    version := "v1"
    router :=
      { listeners := AList.singleton listener { default := some { locations := [location] } } } }

def threePlugins : Proxy Unit Unit Unit :=
  { crates :=
      { authorityHost := fun value => some value
        formUrlencodedParse := fun _ => []
        regexIsMatch := fun _ _ _ => false
        uriPrinted := fun text => .ok text }
    platform := Reference.platform
    library :=
      { build := fun _ => .ok ()
        appendHeader := fun _ _ => .ok ()
        insertHeader := fun _ _ => .ok ()
        setStatus := fun _ => .ok ()
        errorHeaders := fun _ => {} }
    networkContains := fun _ _ => false
    groups :=
      { usesConsistentHash := fun _ => false
        hashKey := fun _ => none
        select := fun _ _ => none }
    emptyPluginChain := ()
    plugins := fun _ => [quiet, failing, quiet]
    challengeTokens := ∅
    snapshot }

def session : Session :=
  { serverAddr := some (.inet listener.addr listener.port), uri := { path := "/" } }

def input : RequestInput :=
  { clientIp := none, uriText := "/", found := none, threshold := false, routed := .panicked }

def error : PingoraError :=
  mapPluginError "response_filter"
    { plugin := "headers", message := "no value" }

def hookCalls : List HookCall :=
  [.requestFilter input {}, .responseFilter { status := 200, headers := {} },
    .failToProxy error none {}, .failToProxy error none {}]

end FailingPlugin

open FailingPlugin in
theorem failing_plugin_answered :
    ∃ exchange : Exchange Unit Unit Unit,
      Runs.Reaches (Exchange.step threePlugins)
        (Exchange.initial session false ∅ ()) exchange ∧
      (callsIn exchange.world.trace).map Call.place = [2, 1] ∧
      (headersIn exchange.world.trace).map ResponseHeader.status = [500] ∧
      Unwinds [2, 1, 0] (callsIn exchange.world.trace) := by
  have run : ∃ exchange, hookCalls.foldlM (Exchange.step threePlugins)
        (Exchange.initial session false ∅ ()) = some exchange ∧
      (callsIn exchange.world.trace).map Call.place = [2, 1] ∧
      (headersIn exchange.world.trace).map ResponseHeader.status = [500] ∧
      exchange.world.context.selected.isSome := by decide +kernel
  rcases run with ⟨exchange, ran, places, statuses, selected⟩
  have reached := Runs.reaches_of_foldlM ran
  have unwinds := (response_plugins_run_once reached).1
  have chain : chainPlaces threePlugins exchange.world = [2, 1, 0] := by
    unfold chainPlaces
    cases chosen : exchange.world.context.selected with
    | none =>
      rw [chosen] at selected
      cases selected
    | some route => rfl
  rw [chain] at unwinds
  exact ⟨exchange, reached, places, statuses, unwinds⟩

end Ngxora.Routing
