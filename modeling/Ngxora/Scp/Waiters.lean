/-
Waiting for the refresh of a group.
-/

import Mathlib.Data.List.Count
import Ngxora.Base.Runs

namespace Ngxora.Scp.Waiters

open Bool List

/-- Where a caller is.  The argument is `none` for a caller of `start_scp_refresh` alone; for
one of `refresh_scp` it says whether its waiter has been notified. -/
inductive Caller where
  /-- In `refresh_scp`, before the waiter is enabled. -/
  | entered
  /-- Before the exchange of `start_scp_refresh`. -/
  | starting (waiter : Option Bool)
  /-- After an exchange that succeeded, before the task is spawned. -/
  | spawning (waiter : Option Bool)
  | returned (waiter : Option Bool)
  | ended

inductive Task where
  | healthCheck
  | discovery
  /-- Between storing `false` and calling `notify_waiters`. -/
  | cleared
  | ended

structure State where
  refreshing : Bool := false
  callers : List Caller := []
  tasks : List Task := []

inductive Action where
  | callRefresh
  | callStart
  | enable (caller : Nat)
  | compareExchange (caller : Nat)
  | spawn (caller : Nat)
  | wake (caller : Nat)
  /-- The future of a caller that waits is dropped. -/
  | drop (caller : Nat)
  | advance (task : Nat)

/-- An enabled waiter is notified by every later `notify_waiters`. -/
def Caller.notify : Caller → Caller
  | .starting (some _) => .starting (some true)
  | .spawning (some _) => .spawning (some true)
  | .returned (some _) => .returned (some true)
  | caller => caller

def advance (state : State) (place : Nat) : Task → Option State
  | .healthCheck => some { state with tasks := state.tasks.set place .discovery }
  | .discovery =>
    some { state with refreshing := false, tasks := state.tasks.set place .cleared }
  | .cleared =>
    some
      { state with
        callers := state.callers.map Caller.notify
        tasks := state.tasks.set place .ended }
  | .ended => none

/-- Each atomic operation of `refresh_scp`, `start_scp_refresh` and the task is a step. -/
def step (state : State) : Action → Option State
  | .callRefresh => some { state with callers := state.callers ++ [.entered] }
  | .callStart => some { state with callers := state.callers ++ [.starting none] }
  | .enable place =>
    match state.callers[place]? with
    | some .entered =>
      some { state with callers := state.callers.set place (.starting (some false)) }
    | _ => none
  | .compareExchange place =>
    match state.callers[place]? with
    | some (.starting waiter) =>
      if state.refreshing then
        some { state with callers := state.callers.set place (.returned waiter) }
      else
        some
          { state with refreshing := true, callers := state.callers.set place (.spawning waiter) }
    | _ => none
  | .spawn place =>
    match state.callers[place]? with
    | some (.spawning waiter) =>
      some
        { state with
          callers := state.callers.set place (.returned waiter)
          tasks := state.tasks ++ [.healthCheck] }
    | _ => none
  | .wake place =>
    match state.callers[place]? with
    | some (.returned (some true)) =>
      some { state with callers := state.callers.set place .ended }
    | _ => none
  | .drop place =>
    match state.callers[place]? with
    | some (.returned (some _)) =>
      some { state with callers := state.callers.set place .ended }
    | _ => none
  | .advance place => (state.tasks[place]?).bind (advance state place)

def Caller.isSpawning : Caller → Bool
  | .spawning _ => true
  | _ => false

def Task.isRunning : Task → Bool
  | .healthCheck | .discovery => true
  | .cleared | .ended => false

def State.owners (state : State) : Nat :=
  state.callers.countP Caller.isSpawning + state.tasks.countP Task.isRunning

/-- A refresh has one owner, and a waiter is going to be notified. -/
structure Sound (state : State) : Prop where
  owners : state.owners = state.refreshing.toNat
  waiting : Caller.returned (some false) ∈ state.callers →
    state.refreshing = true ∨ Task.cleared ∈ state.tasks

variable {place : Nat} {state after : State} {caller : Caller} {waiter : Option Bool}

lemma countP_replace {α : Type} {items : List α} {old : α}
    (found : items[place]? = some old) (new : α) (counts : α → Bool) :
    (items.set place new).countP counts + (counts old).toNat =
      items.countP counts + (counts new).toNat := by
  obtain ⟨inside, same⟩ := List.getElem?_eq_some_iff.mp found
  rw [countP_set inside, same]
  cases wasCounted : counts old with
  | false =>
    cases counts new with
    | false | true => rfl
  | true =>
    have pos : 0 < items.countP counts :=
      countP_pos_iff.mpr ⟨old, mem_of_getElem? found, wasCounted⟩
    cases counts new with
    | false | true =>
      simp
      omega

lemma Sound.moveCaller (ok : Sound state) {old new : Caller}
    (found : state.callers[place]? = some old) (same : new.isSpawning = old.isSpawning)
    (waits : new = .returned (some false) → state.refreshing = true) :
    Sound { state with callers := state.callers.set place new } where
  owners := by
    have counted := countP_replace found new Caller.isSpawning
    have before := ok.owners
    unfold State.owners at before ⊢
    rw [same] at counted
    dsimp only
    omega
  waiting := by
    intro mem
    rcases mem_or_eq_of_mem_set mem with earlier | here
    · exact ok.waiting earlier
    · exact .inl (waits here.symm)

lemma Sound.newCaller (ok : Sound state) (notOwner : caller.isSpawning = false)
    (notWaiting : caller ≠ .returned (some false)) :
    Sound { state with callers := state.callers ++ [caller] } where
  owners := by
    have before := ok.owners
    unfold State.owners at before ⊢
    dsimp only
    rwa [countP_append, countP_singleton, notOwner]
  waiting := by
    intro mem
    rcases mem_append.mp mem with old | here
    · exact ok.waiting old
    · exact absurd (mem_singleton.mp here).symm notWaiting

lemma Sound.refreshing_of_spawning (ok : Sound state) (mem : caller ∈ state.callers)
    (spawning : caller.isSpawning = true) : state.refreshing = true := by
  have pos : 0 < state.callers.countP Caller.isSpawning :=
    countP_pos_iff.mpr ⟨caller, mem, spawning⟩
  have counted := ok.owners
  unfold State.owners at counted
  cases flag : state.refreshing with
  | true => rfl
  | false =>
    rw [flag] at counted
    simp only [toNat_false] at counted
    omega

lemma Sound.exchanged (ok : Sound state)
    (found : state.callers[place]? = some (.starting waiter)) (free : state.refreshing = false) :
    Sound
      { state with refreshing := true, callers := state.callers.set place (.spawning waiter) } where
  owners := by
    have counted := countP_replace found (.spawning waiter) Caller.isSpawning
    have before := ok.owners
    unfold State.owners at before ⊢
    rw [free] at before
    simp only [Caller.isSpawning, toNat_false, toNat_true] at counted before ⊢
    omega
  waiting := fun _ => .inl rfl

lemma Sound.spawned (ok : Sound state) (found : state.callers[place]? = some (.spawning waiter)) :
    Sound
      { state with
        callers := state.callers.set place (.returned waiter)
        tasks := state.tasks ++ [.healthCheck] } where
  owners := by
    have counted := countP_replace found (.returned waiter) Caller.isSpawning
    have before := ok.owners
    unfold State.owners at before ⊢
    rw [countP_append, countP_singleton]
    simp only [Caller.isSpawning, Task.isRunning, toNat_false, toNat_true, if_true]
      at counted before ⊢
    omega
  waiting := fun _ => .inl (ok.refreshing_of_spawning (mem_of_getElem? found) rfl)

lemma notify_isSpawning (caller : Caller) : caller.notify.isSpawning = caller.isSpawning := by
  cases caller with
  | entered | ended => rfl
  | starting waiter | spawning waiter | returned waiter => cases waiter <;> rfl

lemma notify_ne (caller : Caller) : caller.notify ≠ .returned (some false) := by
  cases caller with
  | entered | ended => exact nofun
  | starting waiter | spawning waiter | returned waiter => cases waiter <;> exact nofun

lemma Sound.advance (ok : Sound state) {task : Task} (found : state.tasks[place]? = some task)
    (moved : advance state place task = some after) : Sound after := by
  have before := ok.owners
  unfold State.owners at before
  cases task with
  | healthCheck =>
    cases moved
    refine ⟨?_, fun mem => (ok.waiting mem).imp_right fun cleared => ?_⟩
    · have counted := countP_replace found .discovery Task.isRunning
      unfold State.owners
      simp only [Task.isRunning, toNat_true] at counted ⊢
      omega
    · obtain ⟨other, here⟩ := mem_iff_getElem?.mp cleared
      have ne : place ≠ other := by
        rintro rfl
        exact nomatch found.symm.trans here
      exact mem_of_getElem? ((getElem?_set_ne ne).trans here)
  | discovery =>
    cases moved
    refine ⟨?_, fun _ => .inr (List.mem_set (List.getElem?_eq_some_iff.mp found).1 _)⟩
    have counted := countP_replace found .cleared Task.isRunning
    unfold State.owners
    simp only [Task.isRunning, toNat_false, toNat_true] at counted ⊢
    have atMostOne : state.refreshing.toNat ≤ 1 := toNat_le _
    omega
  | cleared =>
    cases moved
    constructor
    · have counted := countP_replace found .ended Task.isRunning
      have callers : (state.callers.map Caller.notify).countP Caller.isSpawning =
          state.callers.countP Caller.isSpawning := by
        rw [countP_map]
        exact countP_congr fun caller _ => by rw [Function.comp, notify_isSpawning]
      unfold State.owners
      rw [callers]
      simp only [Task.isRunning, toNat_false] at counted ⊢
      omega
    · intro mem
      obtain ⟨caller, _, notified⟩ := mem_map.mp mem
      exact absurd notified (notify_ne caller)
  | ended => cases moved

lemma Sound.step {before : State} {action : Action} (ok : Sound before)
    (stepped : step before action = some after) : Sound after := by
  cases action with
  | callRefresh | callStart =>
    cases stepped
    exact ok.newCaller rfl nofun
  | enable place | wake place | drop place =>
    simp only [Waiters.step] at stepped
    split at stepped
    next found =>
      cases stepped
      exact ok.moveCaller found rfl nofun
    next => cases stepped
  | compareExchange place =>
    simp only [Waiters.step] at stepped
    split at stepped
    next waiter found =>
      split at stepped
      next busy =>
        cases stepped
        exact ok.moveCaller found rfl fun _ => busy
      next free =>
        cases stepped
        exact ok.exchanged found (eq_false_iff.mpr free)
    next => cases stepped
  | spawn place =>
    simp only [Waiters.step] at stepped
    split at stepped
    next waiter found =>
      cases stepped
      exact ok.spawned found
    next => cases stepped
  | advance place =>
    obtain ⟨task, found, moved⟩ := Option.bind_eq_some_iff.mp stepped
    exact ok.advance found moved

lemma sound_of_reaches (reached : Runs.Reaches step {} state) : Sound state :=
  reached.invariant ⟨rfl, nofun⟩ fun _ _ _ ok stepped => ok.step stepped

/-- For a waiter that has not been notified, the flag is set and a task runs or is about to be
spawned, or a task is about to notify. -/
theorem waiter_has_refresh {state : State} (reached : Runs.Reaches step {} state)
    (waits : Caller.returned (some false) ∈ state.callers) :
    (state.refreshing = true ∧ ((∃ task ∈ state.tasks, task.isRunning = true) ∨
        ∃ caller ∈ state.callers, caller.isSpawning = true)) ∨
      Task.cleared ∈ state.tasks := by
  have ok := sound_of_reaches reached
  rcases ok.waiting waits with flag | cleared
  · refine .inl ⟨flag, ?_⟩
    have counted := ok.owners
    rw [flag, State.owners] at counted
    by_cases running : 0 < state.tasks.countP Task.isRunning
    · exact .inl (countP_pos_iff.mp running)
    · right
      apply countP_pos_iff.mp
      simp only [toNat_true] at counted
      omega
  · exact .inr cleared

theorem second_caller_has_refresh :
    ∃ state : State, Caller.returned (some false) ∈ state.callers ∧
      ((state.refreshing = true ∧ ((∃ task ∈ state.tasks, task.isRunning = true) ∨
          ∃ caller ∈ state.callers, caller.isSpawning = true)) ∨ Task.cleared ∈ state.tasks) := by
  have run : [Action.callRefresh, .enable 0, .compareExchange 0, .spawn 0, .callRefresh, .enable 1,
      .compareExchange 1, .advance 0].foldlM step {} =
        some
          { refreshing := true
            callers := [.returned (some false), .returned (some false)]
            tasks := [.discovery] } := rfl
  exact ⟨_, mem_cons_self, waiter_has_refresh (Runs.reaches_of_foldlM run) mem_cons_self⟩

/-- A caller has won the exchange and not spawned its task yet; another one already waits. -/
theorem waiter_before_task_spawned :
    ∃ state, Runs.Reaches step {} state ∧ Caller.returned (some false) ∈ state.callers ∧
      (∀ task ∈ state.tasks, task.isRunning = false) ∧ Task.cleared ∉ state.tasks := by
  have run : [Action.callStart, .callRefresh, .enable 1, .compareExchange 0,
      .compareExchange 1].foldlM step {} =
        some
          { refreshing := true
            callers := [.spawning none, .returned (some false)]
            tasks := [] } := rfl
  exact ⟨_, Runs.reaches_of_foldlM run, mem_cons_of_mem _ mem_cons_self, nofun, nofun⟩

end Ngxora.Scp.Waiters
