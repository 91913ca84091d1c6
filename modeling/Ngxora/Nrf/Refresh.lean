/-
Refreshes of a discovered group interleaved with selections.
-/

import Ngxora.Base.Runs
import Ngxora.Nrf.Discovery

namespace Ngxora.Nrf

open List Option

/-- A phase ends where another task can see a difference. -/
inductive Phase where
  | idle
  | expiring (now nextRun : Nat)
  | clearing (now nextRun : Nat)
  | started (now nextRun : Nat)
  | permitted (now : Nat)
  | claimed (now : Nat)
  | requesting (now : Nat) (timer : Option Nat)
  | timedOut (now : Nat)
  | accepting (now : Nat) (result : DiscoveryResult)
  | trying (now : Nat) (result : DiscoveryResult) (expiresAt : Nat) (candidates : List Backend)
  | publishing (now : Nat) (result : DiscoveryResult) (expiresAt : Nat) (ready : List Backend)
  | published (now : Nat) (result : DiscoveryResult) (expiresAt : Nat) (endpointCount : Nat)
  | failing (now : Nat)
  | failed (expired : Bool)
  | dropped

inductive Event where
  | begin (requested : Nat)
  | proceed
  | permit (granted : Bool)
  | timer
  | answer (request : Except String DiscoveryResult)
  | checker (build : Except String Unit)
  | preflight (passes : Backend → Bool)
  | update (outcome : Except String Unit)

/-- `resultExpiry` is not kept by the program: it is the expiry of the published endpoints. -/
structure Task (Selector : Type) where
  group : Discovery Selector
  phase : Phase := .idle
  resultExpiry : Nat := 0

variable {Selector : Type}

def Task.at (task : Task Selector) (phase : Phase) : Task Selector :=
  { task with phase }

def Task.become (task : Task Selector) (group : Discovery Selector) (phase : Phase) :
    Task Selector := { task with group, phase }

def refreshStep (settings : Settings Selector) (clock : Nat) (task : Task Selector)
    (event : Event) : Option (Task Selector) :=
  match task.phase, event with
  | .idle, .begin requested =>
    let now := max requested clock
    let nextRun := task.group.schedule.nextRunAt
    some (task.at (if isExpired task.group.schedule now then .expiring now nextRun
      else .started now nextRun))
  | .expiring now nextRun, .proceed =>
    some (task.become (dropSelection task.group) (.clearing now nextRun))
  | .clearing now nextRun, .proceed =>
    some (task.become (clearCount task.group) (.started now nextRun))
  | .started now nextRun, .permit granted =>
    some (task.at (if now < nextRun then .idle else if granted then .permitted now else .idle))
  | .permitted now, .proceed =>
    some (task.become (claimRun settings now task.group) (.claimed now))
  | .claimed now, .proceed =>
    some (task.at (.requesting now
      (task.group.schedule.expiresAt.filter fun expiresAt => expiresAt > now)))
  | .requesting now timer, .timer =>
    -- The timer ends at the expiry; it may be served later.
    if timer.any fun expiresAt => expiresAt ≤ clock then
      some (task.become (dropSelection task.group) (.timedOut now))
    else none
  | .timedOut now, .proceed =>
    some (task.become (clearCount task.group) (.requesting now none))
  | .requesting now _, .answer (.ok result) => some (task.at (.accepting now result))
  | .requesting now _, .answer (.error _) => some (task.at (.failing now))
  | .accepting now result, .checker build =>
    match acceptResult settings build now result with
    | .ok (expiresAt, candidates) => some (task.at (.trying now result expiresAt candidates))
    | .error _ => some (task.at (.failing now))
  | .trying now result expiresAt candidates, .preflight passes =>
    some (task.at (.publishing now result expiresAt (candidates.filter passes)))
  | .publishing now result expiresAt ready, .update outcome =>
    match publishBackends settings outcome task.group.selection ready with
    | .ok selection => some
        { group := { task.group with selection }
          phase := .published now result expiresAt ready.length
          resultExpiry := expiresAt }
    | .error _ => some (task.at (.failing now))
  | .published now result expiresAt endpointCount, .proceed =>
    some (task.become { task.group with
        schedule := recordSuccess settings now result expiresAt endpointCount
          task.group.schedule } .idle)
  | .failing now, .proceed =>
    let failures := countFailure task.group.schedule.failures
    let noted := noteFailure failures (nrfFailureRetryAt settings.lastInstant now
      task.group.schedule.expiresAt failures) task.group
    some (task.become noted (.failed (isExpired noted.schedule now)))
  | .failed expired, .proceed =>
    some (if expired then task.become (dropSelection task.group) .dropped else task.at .idle)
  | .dropped, .proceed => some (task.become (clearCount task.group) .idle)
  | _, _ => none

structure Answer where
  madeAt : Nat
  resultExpiry : Nat
  endpoint : CompiledUpstreamServer
  deriving DecidableEq

structure System (Selector : Type) where
  clock : Nat
  task : Task Selector
  /-- The instants of the `scp_select` calls that passed the status check. -/
  checked : List Nat := []
  answers : List Answer := []

inductive Action where
  | advance (instant : Nat)
  | refresh (event : Event)
  | select (view : View) (key : List UInt8)
  | scpCheck
  | scpLoad (place : Nat) (view : View) (key : List UInt8) (accept : CompiledUpstreamServer → Bool)

def System.answer (system : System Selector) (madeAt : Nat)
    (chosen : Option CompiledUpstreamServer) : System Selector :=
  match chosen with
  | none => system
  | some endpoint =>
    { system with
      answers :=
        { madeAt, resultExpiry := system.task.resultExpiry, endpoint } :: system.answers }

def step (settings : Settings Selector) (system : System Selector) :
    Action → Option (System Selector)
  | .advance instant =>
    if system.clock ≤ instant then some { system with clock := instant } else none
  | .refresh event =>
    (refreshStep settings system.clock system.task event).map fun task => { system with task }
  | .select view key =>
    some (system.answer system.clock (select settings view key system.task.group))
  | .scpCheck =>
    match scpStatus system.task.group.schedule system.clock with
    | .error _ => some system
    | .ok _ => some { system with checked := system.clock :: system.checked }
  | .scpLoad place view key accept =>
    match system.checked[place]? with
    | none => none
    | some madeAt =>
      some (({ system with checked := system.checked.eraseIdx place }).answer madeAt
        (system.task.group.selection.bind fun snapshot => snapshot.choose settings view key accept))

def System.initial (start : Nat) : System Selector where
  clock := start
  task := { group := { schedule := { nextRunAt := start } } }

/-- The expiry the program has for the published endpoints: until the schedule is
updated, the one of the result just published. -/
def recordedExpiry (task : Task Selector) : Option Nat :=
  match task.phase with
  | .published _ _ expiresAt _ => some expiresAt
  | _ => task.group.schedule.expiresAt

/-- The step publishes nothing. -/
structure Keeps (before after : Task Selector) : Prop where
  recorded : recordedExpiry after = recordedExpiry before
  resultExpiry : after.resultExpiry = before.resultExpiry
  selection : after.group.selection.isSome → before.group.selection.isSome

def Phase.committing : Phase → Bool
  | .published _ _ _ _ => true
  | _ => false

variable {task before after : Task Selector} {phase : Phase} {settings : Settings Selector}
  {clock madeAt : Nat} {event : Event}

lemma recordedExpiry_of_not_committing (quiet : task.phase.committing = false) :
    recordedExpiry task = task.group.schedule.expiresAt := by
  obtain ⟨group, phase, resultExpiry⟩ := task
  cases phase with
  | published now res expiresAt endpointCount => cases quiet
  | _ => rfl

lemma keeps_become {group : Discovery Selector} (quiet : task.phase.committing = false)
    (stillQuiet : phase.committing = false)
    (expiresAt : group.schedule.expiresAt = task.group.schedule.expiresAt)
    (selection : group.selection = task.group.selection ∨ group.selection = none) :
    Keeps task (task.become group phase) where
  recorded := by
    have after : (task.become group phase).phase.committing = false := stillQuiet
    rwa [recordedExpiry_of_not_committing quiet, recordedExpiry_of_not_committing after]
  resultExpiry := rfl
  selection := by
    intro here
    have published : group.selection.isSome := here
    rcases selection with same | dropped
    · rwa [same] at published
    · rw [dropped] at published
      cases published

lemma keeps_at (quiet : task.phase.committing = false) (stillQuiet : phase.committing = false) :
    Keeps task (task.at phase) :=
  keeps_become quiet stillQuiet rfl (.inl rfl)

def Event.publishes : Event → Bool
  | .update _ => true
  | _ => false

lemma refreshStep_cases (step : refreshStep settings clock before event = some after) :
    event.publishes = true ∧ recordedExpiry after = some after.resultExpiry ∨
      Keeps before after := by
  have quiet {phase : Phase} (here : before.phase = phase) (other : phase.committing = false) :
      before.phase.committing = false := by rw [here, other]
  unfold refreshStep at step
  split at step
  case h_1 here =>
      cases step
      refine Or.inr (keeps_at (quiet here rfl) ?_)
      split <;> rfl
  case h_2 here =>
      cases step
      exact Or.inr (keeps_become (quiet here rfl) rfl rfl (Or.inr rfl))
  case h_3 here =>
      cases step
      exact Or.inr (keeps_become (quiet here rfl) rfl rfl (Or.inl rfl))
  case h_4 here =>
      cases step
      refine Or.inr (keeps_at (quiet here rfl) ?_)
      split
      · rfl
      · split <;> rfl
  case h_5 here =>
      cases step
      exact Or.inr (keeps_become (quiet here rfl) rfl (planRun_expiresAt _ _)
        (Or.inl (planRun_selection _ _)))
  case h_7 here =>
      split at step
      · cases step
        exact Or.inr (keeps_become (quiet here rfl) rfl rfl (Or.inr rfl))
      · cases step
  case h_8 here =>
      cases step
      exact Or.inr (keeps_become (quiet here rfl) rfl rfl (Or.inl rfl))
  case h_11 here =>
      split at step <;> cases step <;> exact Or.inr (keeps_at (quiet here rfl) rfl)
  case h_13 here =>
      split at step
      · cases step
        exact Or.inl ⟨rfl, rfl⟩
      · cases step
        exact Or.inr (keeps_at (quiet here rfl) rfl)
  case h_14 here =>
      cases step
      refine Or.inr ⟨?_, rfl, id⟩
      rw [recordedExpiry, recordedExpiry, here]
      rfl
  case h_15 here =>
      cases step
      exact Or.inr (keeps_become (quiet here rfl) rfl (noteFailure_expiresAt _ _ _)
        (Or.inl (noteFailure_selection _ _ _)))
  case h_16 here =>
      cases step
      split
      · exact Or.inr (keeps_become (quiet here rfl) rfl rfl (Or.inr rfl))
      · exact Or.inr (keeps_at (quiet here rfl) rfl)
  case h_17 here =>
      cases step
      exact Or.inr (keeps_become (quiet here rfl) rfl rfl (Or.inl rfl))
  case h_18 => cases step
  -- The other steps change the phase only.
  all_goals
      cases step
      rename_i here
      exact Or.inr (keeps_at (quiet here rfl) rfl)

/-- The schedule has the expiry of what is published. -/
def Recorded (task : Task Selector) : Prop :=
  task.group.selection.isSome → recordedExpiry task = some task.resultExpiry

lemma Recorded.refreshStep (recorded : Recorded before)
    (step : refreshStep settings clock before event = some after) : Recorded after := by
  intro here
  rcases refreshStep_cases step with ⟨_, published⟩ | kept
  · exact published
  · rw [kept.recorded, kept.resultExpiry]
    exact recorded (kept.selection here)

/-- A published result has not expired. -/
def current (system : System Selector) : Bool :=
  system.task.group.selection.isNone ||
    (recordedExpiry system.task).all fun expiresAt => system.clock < expiresAt

/-- Every endpoint was returned before it expired. -/
structure Fresh (system : System Selector) : Prop where
  recorded : Recorded system.task
  current : current system = true
  checked : ∀ madeAt ∈ system.checked, madeAt ≤ system.clock
  answers : ∀ answer ∈ system.answers, answer.madeAt < answer.resultExpiry

lemma current_iff {system : System Selector} : current system = true ↔
    (system.task.group.selection.isSome →
      ∀ expiresAt ∈ recordedExpiry system.task, system.clock < expiresAt) := by
  rw [current, Bool.or_eq_true, isNone_iff_eq_none, ← not_isSome_iff_eq_none, ← imp_iff_not_or]
  simp only [Option.all_eq_true, decide_eq_true_eq, mem_def]

lemma Fresh.answer {system : System Selector} (fresh : Fresh system)
    {choose : NrfSelectionSnapshot Selector → Option CompiledUpstreamServer}
    (made : madeAt ≤ system.clock) :
    Fresh (system.answer madeAt (system.task.group.selection.bind choose)) := by
  cases chosen : system.task.group.selection.bind choose with
  | none => exact fresh
  | some endpoint =>
    obtain ⟨snap, published, _⟩ := bind_eq_some_iff.mp chosen
    have present : system.task.group.selection.isSome := isSome_of_mem published
    have ahead := current_iff.mp fresh.current present _ (fresh.recorded present)
    refine ⟨fresh.recorded, fresh.current, fresh.checked, ?_⟩
    intro answer mem
    rcases mem_cons.mp mem with same | old
    · rw [same]
      exact lt_of_le_of_lt made ahead
    · exact fresh.answers answer old

lemma Fresh.refreshStep {system : System Selector} (fresh : Fresh system)
    (moved : refreshStep settings system.clock system.task event = some after)
    (timely : (!event.publishes || Nrf.current { system with task := after }) = true) :
    Fresh { system with task := after } := by
  refine ⟨fresh.recorded.refreshStep moved, ?_, fresh.checked, fresh.answers⟩
  rcases refreshStep_cases moved with ⟨publishes, _⟩ | kept
  · simpa only [publishes, Bool.not_true, Bool.false_or] using timely
  · refine current_iff.mpr fun here expiresAt found => ?_
    rw [kept.recorded] at found
    exact current_iff.mp fresh.current (kept.selection here) expiresAt found

def refreshed : List Action :=
  [.begin 0, .permit true, .proceed, .proceed, .answer (.ok oneEndpoint), .checker (.ok ()),
    .preflight (fun _ => true), .update (.ok ()), .proceed].map Action.refresh

end Ngxora.Nrf
