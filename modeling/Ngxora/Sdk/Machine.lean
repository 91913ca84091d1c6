/-
The control client of the Go SDK: `SetSnapshot`, `Status` and one `Run` at a time.
-/

import Ngxora.Base.Text

namespace Ngxora.Sdk

inductive Code where
  | ok
  | canceled
  | unknown
  | invalidArgument
  | deadlineExceeded
  | notFound
  | alreadyExists
  | permissionDenied
  | resourceExhausted
  | failedPrecondition
  | aborted
  | outOfRange
  | unimplemented
  | internal
  | unavailable
  | dataLoss
  | unauthenticated
  deriving DecidableEq

structure RpcError where
  code : Code
  message : String

inductive Connectivity where
  | idle
  | connecting
  | ready
  | transientFailure
  | shutdown

inductive ContextError where
  | canceled
  | deadlineExceeded

inductive ClientError where
  | createConnection (message : String)
  | context (error : ContextError)
  | connectionClosed
  | waitingForChannel (state : Connectivity)
  | getSnapshot (error : RpcError)
  | applySnapshot (error : RpcError)
  | restartRequired (message activeVersion : String)
  | applyError (message activeVersion : String)
  | acknowledged (activeVersion expected : String)
  | closeFailed (message : String)
  /-- `errors.Join` of one error or of two. -/
  | joined (error : ClientError)
  | joinedBoth (error other : ClientError)

/-- `status.Code`: the code of a wrapped status, else `Unknown`. -/
def ClientError.code : ClientError → Code
  | .waitingForChannel _ => .unavailable
  | .getSnapshot error => error.code
  | .applySnapshot error => error.code
  | _ => .unknown

def isRetried (result : Option ClientError) : Bool :=
  result.any fun error => error.code == .unavailable || error.code == .deadlineExceeded

def joinErrors : Option ClientError → Option ClientError → Option ClientError
  | none, none => none
  | some error, none => some (.joined error)
  | none, some error => some (.joined error)
  | some error, some other => some (.joinedBoth error other)

structure Snapshot (Body : Type) where
  version : String
  body : Body

/-- A snapshot with its address; every clone has a new one. -/
structure Pointer (Body : Type) where
  address : Nat
  snapshot : Snapshot Body

structure Status where
  desiredVersion : String := ""
  confirmedVersion : String := ""
  synced : Bool := false
  lastError : Option ClientError := none

structure Options where
  pollInterval : Nat
  retryMin : Nat
  retryMax : Nat

/-- `wake` is a channel that holds at most one token. -/
structure Client (Body : Type) where
  wake : Bool := false
  desired : Option (Pointer Body) := none
  state : Status := {}
  running : Bool := false

structure Environment (Body : Type) where
  options : Options
  protoEqual : Snapshot Body → Snapshot Body → Bool
  jitter : Nat → Nat → Nat

variable {Body : Type}

def samePointer (left right : Option (Pointer Body)) : Bool :=
  left.map Pointer.address == right.map Pointer.address

def status (client : Client Body) : Status := client.state

structure Pace where
  retry : Nat
  delay : Nat

inductive Place (Body : Type) where
  | stopped
  | dialing
  /-- In `run`, before it looks for a desired snapshot. -/
  | starting
  | awaitingWake
  | pausing (pace : Pace)
  | watching (pace : Pace) (notBefore : Option Nat) (reconnected : Bool)
  | lost (pace : Pace) (seen : Connectivity)
  | reconnecting (pace : Pace)
  /-- The channel is ready, and it is too early for an attempt. -/
  | cooling (pace : Pace) (notBefore : Option Nat) (reconnected : Bool)
  | sampling (pace : Pace)
  /-- In `reconcile`, with a call of `GetSnapshot` under way. -/
  | getting (pace : Pace) (desired : Option (Pointer Body))
  | comparing (pace : Pace) (desired : Pointer Body)
  | applying (pace : Pace) (desired : Pointer Body)
  | settling (pace : Pace) (desired : Option (Pointer Body)) (result : Option ClientError)
  /-- `Run` returns; `opened` tells whether there is a connection to close. -/
  | closing (opened : Bool) (result : Option ClientError)
  | panicked

/-- The versions are those reported as active. -/
inductive Event where
  | becameDesired (address : Nat)
  | reported (version : String)

structure System (Body : Type) where
  client : Client Body := {}
  place : Place Body := .stopped
  cancelled : Option ContextError := none
  connection : Connectivity := .idle
  now : Nat := 0
  fresh : Nat := 0
  /-- What happened, the latest event first. -/
  history : List Event := []

structure ApplyReply where
  applied : Bool
  restartRequired : Bool
  message : String
  activeVersion : String

inductive Action (Body : Type) where
  | setSnapshot (snapshot : Option (Snapshot Body))
  | readStatus
  | run
  | cancel (error : ContextError)
  | connectivity (state : Connectivity)
  | tick (time : Nat)
  | dialed (result : Except String Unit)
  /-- The context is done while `run` waits for a first snapshot. -/
  | interrupt
  | proceed
  | stateChange (changed : Bool)
  | gotSnapshot (reply : Except RpcError String)
  | applied (reply : Except RpcError ApplyReply)
  | settle (random : Nat)
  | close (result : Option String)

namespace System

def install (system : System Body) (next : Snapshot Body) : System Body :=
  { system with
    client :=
      { system.client with
        desired := some { address := system.fresh, snapshot := next }
        state :=
          { system.client.state with
            desiredVersion := next.version
            synced := false
            lastError := none }
        wake := true }
    fresh := system.fresh + 1
    history := .becameDesired system.fresh :: system.history }

variable (environment : Environment Body)

def setSnapshot (system : System Body) (snapshot : Option (Snapshot Body)) :
    Except String (System Body) :=
  match snapshot with
  | none => .error "snapshot requires a nonempty version"
  | some next =>
    if Text.isBlank next.version then .error "snapshot requires a nonempty version"
    else
      match system.client.desired with
      | some desired =>
        if desired.snapshot.version = next.version then
          if environment.protoEqual desired.snapshot next then .ok system
          else .error "snapshot version already identifies different contents"
        else .ok (system.install next)
      | none => .ok (system.install next)

def isDue (system : System Body) (notBefore : Option Nat) : Bool :=
  notBefore.all fun time => decide (time ≤ system.now)

/-- One round of `waitForAttempt`. -/
def watch (options : Options) (system : System Body) (pace : Pace) (notBefore : Option Nat)
    (reconnected : Bool) : Place Body :=
  match system.cancelled with
  | some error => .closing true (some (.context error))
  | none =>
    match system.connection with
    | .shutdown => .closing true (some .connectionClosed)
    | .ready =>
      if system.isDue notBefore then
        .sampling { pace with retry := if reconnected then options.retryMin else pace.retry }
      else .cooling pace notBefore reconnected
    | seen => .lost pace seen

/-- The steps that need nothing from outside. -/
def proceed (system : System Body) : Option (System Body) :=
  match system.place with
  | .starting =>
    if system.client.desired.isSome then
      some { system with place := .pausing { retry := environment.options.retryMin, delay := 0 } }
    else some { system with place := .awaitingWake }
  | .awaitingWake =>
    if system.client.wake then
      some
        { system with
          client := { system.client with wake := false }
          place := .pausing { retry := environment.options.retryMin, delay := 0 } }
    else none
  | .pausing pace =>
    some { system with place := .watching pace (some (system.now + pace.delay)) false }
  | .watching pace notBefore reconnected =>
    some { system with place := system.watch environment.options pace notBefore reconnected }
  | .lost pace seen =>
    some
      { system with
        client :=
          { system.client with
            state :=
              { system.client.state with
                synced := false
                lastError := some (.waitingForChannel seen) } }
        place := .reconnecting pace }
  | .sampling pace => some { system with place := .getting pace system.client.desired }
  | .comparing pace desired =>
    if samePointer system.client.desired (some desired) then
      some { system with place := .applying pace desired }
    else some { system with place := .settling pace (some desired) none }
  | _ => none

def stateChange (system : System Body) (changed : Bool) : Option (System Body) :=
  match system.place with
  | .reconnecting pace => some { system with place := .watching pace none true }
  | .cooling pace notBefore reconnected =>
    if changed then some { system with place := .watching pace none true }
    else some { system with place := .watching pace notBefore reconnected }
  | _ => none

/-- `reconcile` after the reply of `GetSnapshot`; a nil snapshot has no version. -/
def gotSnapshot (system : System Body) (reply : Except RpcError String) : Option (System Body) :=
  match system.place with
  | .getting pace desired =>
    match reply with
    | .error error =>
      some { system with place := .settling pace desired (some (.getSnapshot error)) }
    | .ok version =>
      let system := { system with history := .reported version :: system.history }
      match desired with
      | none => some { system with place := .panicked }
      | some desired =>
        if version = desired.snapshot.version then
          some { system with place := .settling pace (some desired) none }
        else some { system with place := .comparing pace desired }
  | _ => none

/-- What `reconcile` makes of the reply of `ApplySnapshot`. -/
def applyResult (desired : Snapshot Body) (reply : ApplyReply) : Option ClientError :=
  if reply.restartRequired then some (.restartRequired reply.message reply.activeVersion)
  else if !reply.applied then some (.applyError reply.message reply.activeVersion)
  else if reply.activeVersion ≠ desired.version then
    some (.acknowledged reply.activeVersion desired.version)
  else none

def applied (system : System Body) (reply : Except RpcError ApplyReply) : Option (System Body) :=
  match system.place with
  | .applying pace desired =>
    match reply with
    | .error error =>
      some { system with place := .settling pace (some desired) (some (.applySnapshot error)) }
    | .ok reply =>
      some
        { system with
          history := .reported reply.activeVersion :: system.history
          place := .settling pace (some desired) (applyResult desired.snapshot reply) }
  | _ => none

/-- The outcome in the status, if the snapshot is still the desired one. -/
def record (client : Client Body) (desired : Option (Pointer Body)) (result : Option ClientError) :
    Client Body :=
  if samePointer client.desired desired then
    { client with
      state :=
        { client.state with
          lastError := result
          synced := result.isNone
          confirmedVersion :=
            match result, desired with
            | none, some pointer => pointer.snapshot.version
            | _, _ => client.state.confirmedVersion } }
  else client

/-- What `run` does after an outcome. -/
def nextPlace (system : System Body) (pace : Pace) (current : Bool) (result : Option ClientError)
    (random : Nat) : Place Body :=
  match system.cancelled with
  | some error => .closing true (some (.context error))
  | none =>
    if isRetried result then
      .pausing
        { retry :=
            if pace.retry ≥ environment.options.retryMax / 2 then environment.options.retryMax
            else pace.retry * 2
          delay := environment.jitter pace.retry random }
    else
      let again : Place Body :=
        .pausing
          { retry := environment.options.retryMin, delay := environment.options.pollInterval }
      match result with
      | some error => if current then .closing true (some error) else again
      | none => again

def settle (system : System Body) (random : Nat) : Option (System Body) :=
  match system.place with
  | .settling pace desired result =>
    some
      { system with
        client := record system.client desired result
        place :=
          nextPlace environment system pace (samePointer system.client.desired desired) result
            random }
  | _ => none

/-- The deferred functions of `Run`. -/
def close (system : System Body) (closed : Option String) : Option (System Body) :=
  match system.place with
  | .closing opened result =>
    let result := if opened then joinErrors result (closed.map ClientError.closeFailed)
      else result
    some
      { system with
        client :=
          { system.client with
            running := false
            state :=
              { system.client.state with synced := false, lastError := result } }
        place := .stopped }
  | _ => none

end System

/-- One critical section, or one RPC with what the loop does up to the next one. -/
def step (environment : Environment Body) (system : System Body) :
    Action Body → Option (System Body)
  | .setSnapshot snapshot =>
    match system.setSnapshot environment snapshot with
    | .error _ => some system
    | .ok changed => some changed
  | .readStatus => some system
  | .run =>
    if system.client.running then some system
    else
      some
        { system with
          client := { system.client with running := true }
          place := .dialing
          cancelled := none
          connection := .idle }
  | .cancel error => some { system with cancelled := some (system.cancelled.getD error) }
  | .connectivity state => some { system with connection := state }
  | .tick time => some { system with now := system.now + time }
  | .dialed result =>
    match system.place, result with
    | .dialing, .ok _ => some { system with place := .starting }
    | .dialing, .error message =>
      some { system with place := .closing false (some (.createConnection message)) }
    | _, _ => none
  | .interrupt =>
    match system.place, system.cancelled with
    | .awaitingWake, some error =>
      some { system with place := .closing true (some (.context error)) }
    | _, _ => none
  | .proceed => system.proceed environment
  | .stateChange changed => system.stateChange changed
  | .gotSnapshot reply => system.gotSnapshot reply
  | .applied reply => system.applied reply
  | .settle random => system.settle environment random
  | .close closed => system.close closed

end Ngxora.Sdk
