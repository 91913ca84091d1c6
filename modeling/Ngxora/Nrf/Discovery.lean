/-
The refresh schedule of a discovered group and one refresh.
-/

import Ngxora.Nrf.Topology

namespace Ngxora.Nrf

open Option Results

@[irreducible]
def checkedAdd (lastInstant : Nat) (now : Nat) (duration : Duration) : Option Nat :=
  if now + duration.nanos ≤ lastInstant then some (now + duration.nanos) else none

/-- Instants are nanoseconds. -/
structure NrfRefreshSchedule where
  invalidApi : Bool := false
  candidateCount : Nat := 0
  candidates : List CompiledUpstreamServer := []
  nextRunAt : Nat
  expiresAt : Option Nat := none
  failures : UInt32 := 0
  lastSuccessAt : Option Nat := none
  endpointCount : Nat := 0

structure NrfSelectionSnapshot (Selector : Type) where
  topology : NrfServiceTopology Selector
  backends : List Backend

structure DiscoveryResult where
  endpoints : List CompiledUpstreamServer
  validity : Duration
  invalidApi : Bool

structure Settings (Selector : Type) where
  groupName : String
  /-- Groups of an SCP profile search with a query of their own. -/
  hasQuery : Bool
  staleIfError : Duration
  policy : UpstreamSelectionPolicy
  lastInstant : Nat
  hashes : Hashes
  balancer : Balancer Selector
  /-- The hash of the host and the group that spreads refreshes. -/
  jitter : UInt64

structure Discovery (Selector : Type) where
  selection : Option (NrfSelectionSnapshot Selector) := none
  schedule : NrfRefreshSchedule

variable {Selector : Type}

def failureBackoff (failures : UInt32) : Duration :=
  let exponent := min (failures.toNat - 1) 5
  Duration.fromSecs (UInt64.ofNat (min (2 ^ exponent) 30))

def nrfFailureRetryAt (lastInstant now : Nat) (expiresAt : Option Nat) (failures : UInt32) : Nat :=
  let backoffAt := (checkedAdd lastInstant now (failureBackoff failures)).getD now
  match expiresAt with
  | none => backoffAt
  | some expiresAt => min backoffAt expiresAt

def nrfSnapshotExpiry (lastInstant now : Nat) (validity staleIfError : Duration) :
    Option Nat := do
  let validUntil ← checkedAdd lastInstant now validity
  checkedAdd lastInstant validUntil staleIfError

variable (settings : Settings Selector) (outside : Outside) (nextRunAt : Nat)

def nrfRefreshDelay (validity : Duration) : Duration :=
  let percent := 70 + settings.jitter.toNat % 21
  let millis := min (validity.asMillis * percent) (2 ^ 128 - 1) / 100
  Duration.fromMillis ((Machine.narrowU64 (max millis 1000)).getD Machine.maxU64)

def dropSelection (state : Discovery Selector) : Discovery Selector :=
  { state with selection := none }

def clearCount (state : Discovery Selector) : Discovery Selector :=
  { state with schedule := { state.schedule with endpointCount := 0 } }

def expireSnapshot (state : Discovery Selector) : Discovery Selector :=
  clearCount (dropSelection state)

def isExpired (schedule : NrfRefreshSchedule) (now : Nat) : Bool :=
  schedule.expiresAt.any fun expiresAt => now ≥ expiresAt

def expireIf (expired : Bool) (state : Discovery Selector) : Discovery Selector :=
  if expired then expireSnapshot state else state

/-- The selection after a set of backends is published; `update` is the answer of
the balancer to the new backends. -/
def publishBackends (update : Except String Unit)
    (selection : Option (NrfSelectionSnapshot Selector)) (backends : List Backend) :
    Except String (Option (NrfSelectionSnapshot Selector)) := do
  let topology ← NrfServiceTopology.build settings.hashes settings.balancer backends settings.policy
  match topology with
  | none => pure none
  | some topology =>
    if selection.any fun current => current.topology.signature = topology.signature then
      pure selection
    else do
      update
      pure (some { topology, backends })

def countFailure (failures : UInt32) : UInt32 :=
  if failures.toNat + 1 < 2 ^ 32 then failures + 1 else failures

def noteFailure (failures : UInt32) (nextRunAt : Nat) (state : Discovery Selector) :
    Discovery Selector :=
  { state with schedule := { state.schedule with failures, nextRunAt } }

def recordFailure (now : Nat) (state : Discovery Selector) : Nat × Discovery Selector :=
  let failures := countFailure state.schedule.failures
  let nextRunAt := nrfFailureRetryAt settings.lastInstant now state.schedule.expiresAt failures
  let noted := noteFailure failures nextRunAt state
  (nextRunAt, expireIf (isExpired noted.schedule now) noted)

def recordSuccess (now : Nat) (result : DiscoveryResult) (expiresAt : Nat) (endpointCount : Nat)
    (schedule : NrfRefreshSchedule) : NrfRefreshSchedule :=
  let delayed := (checkedAdd settings.lastInstant now
    (nrfRefreshDelay settings result.validity)).getD expiresAt
  { invalidApi := result.invalidApi
    candidateCount := result.endpoints.length
    candidates := if settings.hasQuery then result.endpoints else schedule.candidates
    nextRunAt := min delayed expiresAt
    expiresAt := some expiresAt
    failures := 0
    lastSuccessAt := some now
    endpointCount }

structure ScpError where
  status : UInt16
  cause : String
  detail : String
  deriving DecidableEq

def ScpError.nrfUnreachable : ScpError :=
  { status := 504, cause := "NRF_NOT_REACHABLE", detail := "No usable NRF snapshot" }

structure View where
  ready : Backend → Bool
  starts : NrfServiceMetadata → Nat

def NrfSelectionSnapshot.choose (view : View) (key : List UInt8)
    (accept : CompiledUpstreamServer → Bool) (snapshot : NrfSelectionSnapshot Selector) :
    Option CompiledUpstreamServer :=
  snapshot.topology.select settings.balancer view.starts key fun backend =>
    view.ready backend && backend.server.any accept

def select (view : View) (key : List UInt8) (state : Discovery Selector) :
    Option CompiledUpstreamServer :=
  state.selection.bind fun snapshot =>
    snapshot.topology.select settings.balancer view.starts key view.ready

def scpStatus (schedule : NrfRefreshSchedule) (now : Nat) : Except ScpError Unit :=
  if schedule.lastSuccessAt.isNone || schedule.expiresAt.all (fun expiresAt => expiresAt ≤ now) then
    .error .nrfUnreachable
  else if schedule.invalidApi then
    .error
      { status := 400
        cause := "INVALID_API"
        detail := "No NF supports the requested API major version" }
  else if schedule.candidateCount = 0 then
    .error
      { status := 400
        cause := "NF_DISCOVERY_FAILURE"
        detail := "No NF matches the discovery factors" }
  else .ok ()

def scpSelect (view : View) (key : List UInt8) (accept : CompiledUpstreamServer → Bool) (now : Nat)
    (state : Discovery Selector) :
    Option CompiledUpstreamServer :=
  match scpStatus state.schedule now with
  | .error _ => none
  | .ok _ => state.selection.bind fun snapshot => snapshot.choose settings view key accept

/-- What happens during a refresh. -/
structure Outside where
  permit : Bool
  request : Except String DiscoveryResult
  answeredAt : Nat
  /-- The expiry timer is served first when it ends together with the request. -/
  timerFirst : Bool
  checkerBuild : Except String Unit
  preflight : Backend → Bool
  update : Except String Unit
  finishedAt : Nat

/-- The checks on an answer before the endpoints are tried. -/
def acceptResult (checkerBuild : Except String Unit) (now : Nat) (result : DiscoveryResult) :
    Except String (Nat × List Backend) := do
  rejectIf (settings.hasQuery && decide (result.endpoints.length > 256))
    "SCP NRF result exceeds 256 endpoints"
  let expiresAt ← orFail
    (nrfSnapshotExpiry settings.lastInstant now result.validity settings.staleIfError)
    s!"NRF discovery for upstream `{settings.groupName}` returned an unsupported validityPeriod"
  checkerBuild
  pure (expiresAt, (← dynamicSyntheticBackends settings.hashes result.endpoints))

structure Refreshed (Selector : Type) where
  result : DiscoveryResult
  expiresAt : Nat
  endpointCount : Nat
  selection : Option (NrfSelectionSnapshot Selector)

/-- The request, the checks, the preflight and the publication. -/
def refresh (now : Nat) (state : Discovery Selector) : Except String (Refreshed Selector) := do
  let result ← outside.request
  let (expiresAt, candidates) ← acceptResult settings outside.checkerBuild now result
  let ready := candidates.filter outside.preflight
  let selection ← publishBackends settings outside.update state.selection ready
  pure { result, expiresAt, endpointCount := ready.length, selection }

def beginRefresh (now : Nat) (state : Discovery Selector) : Discovery Selector :=
  expireIf (isExpired state.schedule now) state

def planRun (nextRunAt : Nat) (state : Discovery Selector) : Discovery Selector :=
  { state with schedule := { state.schedule with nextRunAt } }

def claimRun (now : Nat) (state : Discovery Selector) : Discovery Selector :=
  planRun ((checkedAdd settings.lastInstant now (Duration.fromSecs 1)).getD now) state

/-- The timer of a snapshot that is still valid ends before the request is answered. -/
def expiresDuring (now expiresAt : Nat) : Bool :=
  decide (expiresAt > now) && (decide (expiresAt < outside.answeredAt) ||
    (decide (expiresAt = outside.answeredAt) && outside.timerFirst))

def duringRequest (now : Nat) (state : Discovery Selector) : Discovery Selector :=
  expireIf (state.schedule.expiresAt.any (expiresDuring outside now)) state

/-- The state at the end of the request of a refresh that starts at `now`. -/
def atAnswer (now : Nat) (state : Discovery Selector) : Discovery Selector :=
  duringRequest outside now (claimRun settings now (beginRefresh now state))

/-- A whole refresh that starts at `now`, which returns the next run. -/
def runDueNrfDiscovery (now : Nat) (state : Discovery Selector) : Option Nat × Discovery Selector :=
  if now < state.schedule.nextRunAt then
    (some state.schedule.nextRunAt, beginRefresh now state)
  else if !outside.permit then (none, beginRefresh now state)
  else
    let state := atAnswer settings outside now state
    match refresh settings outside now state with
    | .error _ =>
      let (nextRunAt, state) := recordFailure settings now state
      (some nextRunAt, state)
    | .ok refreshed =>
      let schedule := recordSuccess settings now refreshed.result refreshed.expiresAt
        refreshed.endpointCount state.schedule
      (some schedule.nextRunAt, { selection := refreshed.selection, schedule })

/-- A run that is due and permitted, and whose refresh fails. -/
structure Fails (settings : Settings Selector) (outside : Outside) (now : Nat)
    (state : Discovery Selector) : Prop where
  due : state.schedule.nextRunAt ≤ now
  permit : outside.permit = true
  failed : ∃ message,
    refresh settings outside now (atAnswer settings outside now state) = .error message

variable {settings : Settings Selector} {outside : Outside} {now lastInstant : Nat}
  {state : Discovery Selector} {expiresAt : Option Nat} {fails : UInt32}

lemma runDueNrfDiscovery_of_fails (fails : Fails settings outside now state) :
    runDueNrfDiscovery settings outside now state =
      (some (recordFailure settings now (atAnswer settings outside now state)).1,
        (recordFailure settings now (atAnswer settings outside now state)).2) := by
  obtain ⟨msg, failed⟩ := fails.failed
  have due : ¬ now < state.schedule.nextRunAt := not_lt.mpr fails.due
  simp only [runDueNrfDiscovery, if_neg due, fails.permit, Bool.not_true, Bool.false_eq_true,
    if_false, failed]

@[simp]
lemma expireIf_false (state : Discovery Selector) : expireIf false state = state := rfl

lemma expireIf_schedule (expired : Bool) (state : Discovery Selector) :
    (expireIf expired state).schedule =
      { state.schedule with
        endpointCount := if expired then 0 else state.schedule.endpointCount } := by
  cases expired <;> rfl

lemma isExpired_eq_false {schedule : NrfRefreshSchedule} :
    isExpired schedule now = false ↔ ∀ expiresAt ∈ schedule.expiresAt, now < expiresAt := by
  simp [isExpired, any_eq_false]

-- In the next lemmas instants stay variables: they must not be computed when terms
-- are compared.
lemma planRun_expiresAt (nextRunAt : Nat) (state : Discovery Selector) :
    (planRun nextRunAt state).schedule.expiresAt = state.schedule.expiresAt := rfl

lemma planRun_selection (state : Discovery Selector) :
    (planRun nextRunAt state).selection = state.selection := rfl

lemma noteFailure_selection (fails : UInt32) (nextRunAt : Nat) (state : Discovery Selector) :
    (noteFailure fails nextRunAt state).selection = state.selection := rfl

lemma noteFailure_expiresAt (fails : UInt32) (nextRunAt : Nat) (state : Discovery Selector) :
    (noteFailure fails nextRunAt state).schedule.expiresAt = state.schedule.expiresAt := rfl

lemma planned_frame (outside : Outside) (now nextRunAt : Nat) (state : Discovery Selector) :
    let after := (duringRequest outside now (planRun nextRunAt (beginRefresh now state))).schedule
    after.expiresAt = state.schedule.expiresAt ∧ after.failures = state.schedule.failures := by
  simp only [duringRequest, planRun, beginRefresh, expireIf_schedule, and_self]

lemma atAnswer_expiresAt (settings : Settings Selector) (outside : Outside) (now : Nat)
    (state : Discovery Selector) :
    (atAnswer settings outside now state).schedule.expiresAt = state.schedule.expiresAt :=
  (planned_frame outside now _ state).1

lemma atAnswer_failures (settings : Settings Selector) (outside : Outside) (now : Nat)
    (state : Discovery Selector) :
    (atAnswer settings outside now state).schedule.failures = state.schedule.failures :=
  (planned_frame outside now _ state).2

lemma planned_of_inTime (answered : now ≤ outside.answeredAt)
    (inTime : ∀ expiresAt ∈ state.schedule.expiresAt, outside.answeredAt < expiresAt) :
    duringRequest outside now (planRun nextRunAt (beginRefresh now state)) =
      planRun nextRunAt state := by
  have notExpired : isExpired state.schedule now = false :=
    isExpired_eq_false.mpr fun expiresAt found => lt_of_le_of_lt answered (inTime expiresAt found)
  have noTimer : state.schedule.expiresAt.any (expiresDuring outside now) = false := by
    rw [any_eq_false]
    intro expiresAt found
    have late := inTime expiresAt found
    have notBefore : ¬ expiresAt < outside.answeredAt := by omega
    have notAt : ¬ expiresAt = outside.answeredAt := by omega
    simp [expiresDuring, notBefore, notAt]
  rw [beginRefresh, notExpired, expireIf_false, duringRequest, planRun_expiresAt, noTimer,
    expireIf_false]

lemma expireIf_noteFailure (notExpired : isExpired state.schedule now = false)
    (fails : UInt32) (first second : Nat) :
    let noted := noteFailure fails second (planRun first state)
    expireIf (isExpired noted.schedule now) noted = noteFailure fails second state := by
  intro noted
  have stillValid : isExpired noted.schedule now = false := notExpired
  rw [stillValid, expireIf_false]
  rfl

lemma noteFailure_frame (fails : UInt32) (nextRunAt : Nat) (state : Discovery Selector) :
    let after := noteFailure fails nextRunAt state
    after.selection = state.selection ∧
      after.schedule =
        { state.schedule with
          failures := after.schedule.failures
          nextRunAt := after.schedule.nextRunAt } :=
  ⟨rfl, rfl⟩

/-- A failed refresh that ends before the snapshot expires changes the count of
failures and the next run only. -/
theorem failed_refresh_keeps_service {settings : Settings Selector} {outside : Outside}
    {now : Nat} {state : Discovery Selector} (fails : Fails settings outside now state)
    (answered : now ≤ outside.answeredAt) (finished : outside.answeredAt ≤ outside.finishedAt)
    (inTime : ∀ expiresAt ∈ state.schedule.expiresAt, outside.finishedAt < expiresAt) :
    let after := (runDueNrfDiscovery settings outside now state).2
    after.selection = state.selection ∧
      after.schedule =
        { state.schedule with
          failures := after.schedule.failures
          nextRunAt := after.schedule.nextRunAt } := by
  have atAnswerEq : atAnswer settings outside now state = claimRun settings now state := by
    apply planned_of_inTime _ answered
    intro expiresAt found
    exact lt_of_le_of_lt finished (inTime expiresAt found)
  have notExpired : isExpired state.schedule now = false := by
    apply isExpired_eq_false.mpr
    intro expiresAt found
    exact lt_of_le_of_lt (answered.trans finished) (inTime expiresAt found)
  rw [runDueNrfDiscovery_of_fails fails, atAnswerEq]
  intro after
  have noted : ∃ failures nextRunAt, after = noteFailure failures nextRunAt state :=
    ⟨_, _, expireIf_noteFailure notExpired _ _ _⟩
  obtain ⟨failures, nextRunAt, same⟩ := noted
  rw [same]
  exact noteFailure_frame failures nextRunAt state

def firstReady (staleIfError : Duration) : Settings (List Representative) where
  groupName := "amf"
  hasQuery := false
  staleIfError
  policy := .roundRobin
  lastInstant := 2 ^ 80
  hashes :=
    { stableBackendId := fun _ => 7
      stableNrfServiceId := fun _ => 9 }
  balancer :=
    { build := fun _ representatives => .ok representatives
      selectWith := fun selector _ _ accept => selector.find? accept }
  jitter := 0

def answering (request : Except String DiscoveryResult) (now : Nat) : Outside where
  permit := true
  request
  answeredAt := now + 10 ^ 6
  timerFirst := false
  checkerBuild := .ok ()
  preflight := fun _ => true
  update := .ok ()
  finishedAt := now + 10 ^ 7

def afterRuns (settings : Settings Selector) (start : Nat) (runs : List (Nat × Outside)) :
    Discovery Selector :=
  runs.foldl (fun state run => (runDueNrfDiscovery settings run.2 run.1 state).2)
    { schedule := { nextRunAt := start } }

/-- One endpoint, for a second. -/
def oneEndpoint : DiscoveryResult where
  endpoints :=
    [{ host := "10.0.0.1"
       port := 80
       weight := 1
       nrfService := some
         { authority := none
           nfInstanceId := "amf-1"
           serviceInstanceId := "comm-1"
           priority := 1
           capacity := 1 } }]
  validity := Duration.fromSecs 1
  invalidApi := false

/-- The refresh after a successful one fails; the endpoint is still selected. -/
theorem refused_request_keeps_service :
    let settings := firstReady (Duration.fromSecs 1)
    let state := afterRuns settings 0 [(0, answering (.ok oneEndpoint) 0)]
    let outside := answering (.error "connection refused") (10 ^ 9)
    let after := (runDueNrfDiscovery settings outside (10 ^ 9) state).2
    Fails settings outside (10 ^ 9) state ∧ state.selection.isSome = true ∧
      state.schedule.expiresAt = some (2 * 10 ^ 9) ∧ after.selection = state.selection ∧
      after.schedule = { state.schedule with
        failures := after.schedule.failures
        nextRunAt := after.schedule.nextRunAt } := by
  intro settings state outside after
  have due : state.schedule.nextRunAt ≤ 10 ^ 9 := by decide +kernel
  have expiry : state.schedule.expiresAt = some (2 * 10 ^ 9) := by decide +kernel
  have published : state.selection.isSome = true := by decide +kernel
  have fails : Fails settings outside (10 ^ 9) state := ⟨due, rfl, _, rfl⟩
  have inTime : ∀ expiresAt ∈ state.schedule.expiresAt, outside.finishedAt < expiresAt := by
    rw [expiry]
    rintro _ ⟨⟩
    decide
  obtain ⟨selection, schedule⟩ := failed_refresh_keeps_service fails (by decide) (by decide) inTime
  exact ⟨fails, published, expiry, selection, schedule⟩

lemma failureBackoff_pos (fails : UInt32) : 0 < (failureBackoff fails).nanos := by
  have exponentSmall : min (fails.toNat - 1) 5 ≤ 5 := min_le_right _ _
  have powerPos : 0 < 2 ^ min (fails.toNat - 1) 5 := by positivity
  have seconds : 0 < (UInt64.ofNat (min (2 ^ min (fails.toNat - 1) 5) 30)).toNat := by
    rw [UInt64.toNat_ofNat']
    omega
  exact Nat.mul_pos seconds (by decide)

lemma getD_checkedAdd (lastInstant now : Nat) (dur : Duration) :
    (checkedAdd lastInstant now dur).getD now =
      if now + dur.nanos ≤ lastInstant then now + dur.nanos else now := by
  unfold checkedAdd
  split <;> rfl

lemma lt_nrfFailureRetryAt : now < nrfFailureRetryAt lastInstant now expiresAt fails ↔
    (∀ expiry ∈ expiresAt, now < expiry) ∧
      now + (failureBackoff fails).nanos ≤ lastInstant := by
  have positive := failureBackoff_pos fails
  cases expiresAt with
  | none =>
    simp only [nrfFailureRetryAt, getD_checkedAdd, mem_def, reduceCtorEq, false_imp_iff,
      implies_true, true_and]
    split <;> omega
  | some expiry =>
    simp only [nrfFailureRetryAt, getD_checkedAdd, mem_def, Option.some.injEq, forall_eq',
      lt_min_iff]
    split <;> omega

lemma nrfFailureRetryAt_bound (later : now < nrfFailureRetryAt lastInstant now expiresAt fails) :
    now + (failureBackoff fails).nanos ≤ nrfFailureRetryAt lastInstant now expiresAt fails ∨
      ∃ expiry ∈ expiresAt, now < expiry ∧
        expiry ≤ nrfFailureRetryAt lastInstant now expiresAt fails := by
  obtain ⟨valid, fits⟩ := lt_nrfFailureRetryAt.mp later
  cases expiresAt with
  | none =>
    simp only [nrfFailureRetryAt, getD_checkedAdd, if_pos fits]
    exact .inl le_rfl
  | some expiry =>
    simp only [nrfFailureRetryAt, getD_checkedAdd, if_pos fits]
    rcases le_total (now + (failureBackoff fails).nanos) expiry with first | first
    · exact .inl (le_min le_rfl first)
    · exact .inr ⟨expiry, rfl, valid expiry rfl, le_min first le_rfl⟩

/-- A failed run at `now` plans a later run, which waits for the backoff or for an
expiry that is still ahead. -/
structure MakesProgress (now : Nat) (outcome : Option Nat × Discovery Selector) : Prop where
  returned : outcome.1 = some outcome.2.schedule.nextRunAt
  later : now < outcome.2.schedule.nextRunAt
  notEarly :
    now + (failureBackoff outcome.2.schedule.failures).nanos ≤ outcome.2.schedule.nextRunAt ∨
      ∃ expiresAt ∈ outcome.2.schedule.expiresAt,
        now < expiresAt ∧ expiresAt ≤ outcome.2.schedule.nextRunAt

lemma noted_schedule (now : Nat) (fails : UInt32) (nextRunAt : Nat)
    (state : Discovery Selector) :
    let noted := noteFailure fails nextRunAt state
    let after := (expireIf (isExpired noted.schedule now) noted).schedule
    after.nextRunAt = nextRunAt ∧ after.failures = fails ∧
      after.expiresAt = state.schedule.expiresAt := by
  simp only [expireIf_schedule]
  exact ⟨rfl, rfl, rfl⟩

lemma schedule_of_fails (fails : Fails settings outside now state) :
    let outcome := runDueNrfDiscovery settings outside now state
    let failures := countFailure state.schedule.failures
    outcome.1 = some outcome.2.schedule.nextRunAt ∧
      outcome.2.schedule.nextRunAt =
        nrfFailureRetryAt settings.lastInstant now state.schedule.expiresAt failures ∧
      outcome.2.schedule.failures = failures ∧
      outcome.2.schedule.expiresAt = state.schedule.expiresAt := by
  intro outcome failures
  have frame := noted_schedule now
    (countFailure (atAnswer settings outside now state).schedule.failures)
    (nrfFailureRetryAt settings.lastInstant now
      (atAnswer settings outside now state).schedule.expiresAt
      (countFailure (atAnswer settings outside now state).schedule.failures))
    (atAnswer settings outside now state)
  obtain ⟨nextRun, counted, expiry⟩ := frame
  have outcomeEq : outcome = _ := runDueNrfDiscovery_of_fails fails
  rw [outcomeEq]
  refine ⟨congrArg some nextRun.symm, ?_, ?_, ?_⟩
  · exact nextRun.trans (by rw [atAnswer_expiresAt, atAnswer_failures])
  · exact counted.trans (congrArg countFailure (atAnswer_failures settings outside now state))
  · exact expiry.trans (atAnswer_expiresAt settings outside now state)

/-- Over all histories, a failed run makes progress exactly when the last snapshot
had not expired when it started and the backoff can be represented. -/
theorem failed_run_makes_progress_iff (settings : Settings Selector) (start : Nat)
    (runs : List (Nat × Outside)) {outside : Outside} {now : Nat}
    (fails : Fails settings outside now (afterRuns settings start runs)) :
    MakesProgress now (runDueNrfDiscovery settings outside now (afterRuns settings start runs)) ↔
      (∀ expiresAt ∈ (afterRuns settings start runs).schedule.expiresAt, now < expiresAt) ∧
        now + (failureBackoff (countFailure
          (afterRuns settings start runs).schedule.failures)).nanos ≤ settings.lastInstant := by
  obtain ⟨returned, nextRun, failures, expiry⟩ := schedule_of_fails fails
  rw [← lt_nrfFailureRetryAt, ← nextRun]
  constructor
  · exact MakesProgress.later
  · intro later
    refine ⟨returned, later, ?_⟩
    rw [failures, expiry, nextRun]
    rw [nextRun] at later
    exact nrfFailureRetryAt_bound later

/-- The answer expires after a second and a half. The runs after a second and at the
expiry fail, and the last one plans the next run for the same instant. -/
theorem expired_snapshot_retried_at_once :
    let settings := firstReady (Duration.fromMillis 500)
    let refused (now : Nat) := answering (.error "connection refused") now
    let state := afterRuns settings 0
      [(0, answering (.ok oneEndpoint) 0), (10 ^ 9, refused (10 ^ 9))]
    let now := 15 * 10 ^ 8
    state.schedule.nextRunAt = now ∧ Fails settings (refused now) now state ∧
      ¬ MakesProgress now (runDueNrfDiscovery settings (refused now) now state) := by
  intro settings refused state now
  have due : state.schedule.nextRunAt = now := by decide +kernel
  have planned :
      (runDueNrfDiscovery settings (refused now) now state).2.schedule.nextRunAt = now := by
    decide +kernel
  refine ⟨due, ⟨due.le, rfl, _, rfl⟩, ?_⟩
  intro progress
  have later := progress.later
  rw [planned] at later
  exact absurd later (lt_irrefl _)

theorem first_failure_waits_a_second :
    let settings := firstReady (Duration.fromSecs 60)
    let runs := [(0, answering (.ok oneEndpoint) 0)]
    let outside := answering (.error "connection refused") (10 ^ 9)
    MakesProgress (10 ^ 9)
      (runDueNrfDiscovery settings outside (10 ^ 9) (afterRuns settings 0 runs)) := by
  intro settings runs outside
  have due : (afterRuns settings 0 runs).schedule.nextRunAt ≤ 10 ^ 9 := by decide +kernel
  have expiry : (afterRuns settings 0 runs).schedule.expiresAt = some (61 * 10 ^ 9) := by
    decide +kernel
  have fits : 10 ^ 9 + (failureBackoff (countFailure
      (afterRuns settings 0 runs).schedule.failures)).nanos ≤ settings.lastInstant := by
    decide +kernel
  refine (failed_run_makes_progress_iff settings 0 runs ⟨due, rfl, _, rfl⟩).mpr ⟨?_, fits⟩
  rw [expiry]
  intro expiresAt found
  cases found
  decide

end Ngxora.Nrf
