/-
Calls of `apply_snapshot` from several threads.
-/

import Ngxora.Base.Runs
import Ngxora.Control.Snapshot
import Ngxora.Reference

namespace Ngxora.Control

open List Results Router

variable {Handle Material : Type}

/-- Where a call that holds the lock stands.  A poisoned lock is held too, inside
the error, until the call returns. -/
inductive InCall (Handle Material : Type) where
  | poisonedLock
  | checking
  | rejected
  | accepted
  | loaded (current : RuntimeSnapshot Handle Material)
  | building (current : RuntimeSnapshot Handle Material) (generation : UInt64)
  | built (snapshot : RuntimeSnapshot Handle Material)
  | returning (result : ApplyResult)

structure Holder (Handle Material : Type) where
  thread : Nat
  next : ConfigSnapshot
  before : RuntimeSnapshot Handle Material
  phase : InCall Handle Material

/-- A finished call, with the snapshots active when the lock was taken and when the call
returned. -/
structure Entry (Handle Material : Type) where
  thread : Nat
  next : ConfigSnapshot
  before : RuntimeSnapshot Handle Material
  result : ApplyResult
  after : RuntimeSnapshot Handle Material

/-- The lock has one holder by construction. -/
structure System (Handle Material : Type) where
  shared : RuntimeState Handle Material
  waiting : List (Nat × ConfigSnapshot)
  holder : Option (Holder Handle Material)
  log : List (Entry Handle Material)
  observed : List (RuntimeSnapshot Handle Material)

inductive Action (Handle Material : Type) where
  | call (thread : Nat) (next : ConfigSnapshot)
  | acquire (place : Nat)
  /-- The holder goes on; a build finds the files as `builders` says. -/
  | advance (builders : Builders Handle Material)
  | release
  | panic
  | observe

def System.initial (state : RuntimeState Handle Material) : System Handle Material :=
  { shared := state, waiting := [], holder := none, log := [], observed := [] }

def advance (platform : Platform) (builders : Builders Handle Material)
    (shared : RuntimeState Handle Material) (next : ConfigSnapshot) :
    InCall Handle Material → Option (RuntimeState Handle Material × InCall Handle Material)
  | .poisonedLock => some (shared, .returning (poisonedResult shared.current))
  | .checking =>
    some (shared, if restartFingerprint next.router ≠ shared.bootstrapConfig then .rejected
      else .accepted)
  | .rejected => some (shared, .returning (restartResult shared.current))
  | .accepted => some (shared, .loaded shared.current)
  | .loaded current => some (shared, .building current (shared.current.generation + 1))
  | .building current generation =>
    match buildRuntimeSnapshot platform builders next.version next.router generation
        (some current) with
    | .ok snapshot => some (shared, .built snapshot)
    | .error message => some (shared, .returning (refused current false message))
  | .built snapshot =>
    some ({ shared with current := snapshot }, .returning (appliedResult snapshot))
  | .returning _ => none

def panics : InCall Handle Material → Bool
  | .returning _ => false
  | _ => true

/-- Every access to shared state is a step. -/
def step (platform : Platform) (system : System Handle Material) :
    Action Handle Material → Option (System Handle Material)
  | .call thread next => some { system with waiting := (thread, next) :: system.waiting }
  | .acquire place =>
    match system.holder, system.waiting[place]? with
    | none, some (thread, next) =>
      some { system with
        waiting := system.waiting.eraseIdx place
        holder := some
          { thread
            next
            before := system.shared.current
            phase := if system.shared.poisoned then .poisonedLock else .checking } }
    | _, _ => none
  | .advance builders =>
    match system.holder with
    | none => none
    | some holder =>
      (advance platform builders system.shared holder.next holder.phase).map fun moved =>
        { system with shared := moved.1, holder := some { holder with phase := moved.2 } }
  | .release =>
    match system.holder with
    | some { thread, next, before, phase := .returning result } =>
      some { system with
        holder := none
        log := system.log ++
          [{ thread, next, before, result, after := system.shared.current }] }
    | _ => none
  | .panic =>
    match system.holder with
    | none => none
    | some holder =>
      if panics holder.phase then
        some { system with shared := { system.shared with poisoned := true }, holder := none }
      else none
  | .observe => some { system with observed := system.observed ++ [system.shared.current] }

variable {platform : Platform} {next bootstrap : ConfigSnapshot}
  {before : RuntimeSnapshot Handle Material} {shared moved : RuntimeState Handle Material}
  {phase later : InCall Handle Material} {holder : Holder Handle Material}
  {system : System Handle Material}

variable {state : RuntimeState Handle Material} {result : ApplyResult} {thread : Nat}

section Calls

variable {builders : Builders Handle Material}

lemma applySnapshot_cases {after : RuntimeState Handle Material}
    (out : applySnapshot platform builders state next = (result, after)) :
    (result.applied = false ∧ after = state ∧ result.activeVersion = state.current.version ∧
      result.activeGeneration = state.current.generation) ∨
    (result = appliedResult after.current ∧ after = { state with current := after.current } ∧
      restartFingerprint next.router = state.bootstrapConfig ∧
      after.current.version = next.version ∧ after.current.router = next.router ∧
      after.current.generation = state.current.generation + 1) := by
  unfold applySnapshot at out
  split at out
  next =>
    cases out
    exact .inl ⟨rfl, rfl, rfl, rfl⟩
  next =>
    split at out
    next =>
      cases out
      exact .inl ⟨rfl, rfl, rfl, rfl⟩
    next same =>
      split at out
      next snap built =>
        cases out
        obtain ⟨version, router, generation⟩ := fields_of_build built
        exact .inr ⟨rfl, rfl, not_not.mp same, version, router, generation⟩
      next =>
        cases out
        exact .inl ⟨rfl, rfl, rfl, rfl⟩

/-- What the holder of the lock knows in each phase. -/
def PhaseInv (platform : Platform) (before : RuntimeSnapshot Handle Material)
    (shared : RuntimeState Handle Material) (next : ConfigSnapshot) :
    InCall Handle Material → Prop
  | .poisonedLock => shared.current = before ∧ shared.poisoned = true
  | .checking => shared.current = before ∧ shared.poisoned = false
  | .rejected => shared.current = before ∧ shared.poisoned = false ∧
      restartFingerprint next.router ≠ shared.bootstrapConfig
  | .accepted => shared.current = before ∧ shared.poisoned = false ∧
      restartFingerprint next.router = shared.bootstrapConfig
  | .loaded current => shared.current = before ∧ shared.poisoned = false ∧
      restartFingerprint next.router = shared.bootstrapConfig ∧ current = before
  | .building current generation => shared.current = before ∧ shared.poisoned = false ∧
      restartFingerprint next.router = shared.bootstrapConfig ∧ current = before ∧
      generation = before.generation + 1
  | .built snapshot => shared.current = before ∧ shared.poisoned = false ∧
      restartFingerprint next.router = shared.bootstrapConfig ∧
      ∃ builders, buildRuntimeSnapshot platform builders next.version next.router
        (before.generation + 1) (some before) = .ok snapshot
  | .returning result => ∃ builders : Builders Handle Material,
      applySnapshot platform builders { shared with current := before } next = (result, shared)

lemma PhaseInv.advance (found : PhaseInv platform before shared next phase)
    (stepOk : advance platform builders shared next phase = some (moved, later)) :
    PhaseInv platform before moved next later := by
  cases phase with
  | poisonedLock =>
    cases stepOk
    obtain ⟨rfl, poisoned⟩ := found
    refine ⟨builders, ?_⟩
    change applySnapshot platform builders shared next = _
    rw [applySnapshot, if_pos poisoned]
  | checking =>
    cases stepOk
    by_cases same : restartFingerprint next.router = shared.bootstrapConfig
    · simpa [same, PhaseInv] using found
    · simpa [same, PhaseInv] using found
  | rejected =>
    cases stepOk
    obtain ⟨rfl, healthy, differs⟩ := found
    refine ⟨builders, ?_⟩
    change applySnapshot platform builders shared next = _
    rw [applySnapshot, if_neg (by simp [healthy]), if_pos differs]
  | accepted =>
    cases stepOk
    exact ⟨found.1, found.2.1, found.2.2, found.1⟩
  | loaded cur =>
    cases stepOk
    obtain ⟨rfl, healthy, same, rfl⟩ := found
    exact ⟨rfl, healthy, same, rfl, rfl⟩
  | building cur generation =>
    obtain ⟨rfl, healthy, same, rfl, rfl⟩ := found
    simp only [Control.advance] at stepOk
    cases out : buildRuntimeSnapshot platform builders next.version next.router
        (shared.current.generation + 1) (some shared.current) with
    | ok snap =>
      rw [out] at stepOk
      cases stepOk
      exact ⟨rfl, healthy, same, builders, out⟩
    | error msg =>
      rw [out] at stepOk
      cases stepOk
      refine ⟨builders, ?_⟩
      change applySnapshot platform builders shared next = _
      rw [applySnapshot, if_neg (by simp [healthy]), if_neg (not_not.mpr same), out]
  | built snap =>
    obtain ⟨rfl, healthy, same, used, built⟩ := found
    cases stepOk
    exact ⟨used, by simp [applySnapshot, healthy, same, built]⟩
  | returning result => cases stepOk

lemma advance_frame (stepOk : advance platform builders shared next phase = some (moved, later)) :
    moved.bootstrapConfig = shared.bootstrapConfig ∧
      (moved = shared ∨ later = .returning (appliedResult moved.current)) := by
  cases phase with
  | building cur generation =>
    simp only [advance] at stepOk
    split at stepOk <;> cases stepOk <;> exact ⟨rfl, .inl rfl⟩
  | built snap =>
    cases stepOk
    exact ⟨rfl, .inr rfl⟩
  | returning result => cases stepOk
  | _ =>
    cases stepOk
    exact ⟨rfl, .inl rfl⟩

def Holder.report (holder : Holder Handle Material) : List (ConfigSnapshot × ApplyResult) :=
  match holder.phase with
  | .returning result => [(holder.next, result)]
  | _ => []

def System.reports (system : System Handle Material) : List (ConfigSnapshot × ApplyResult) :=
  system.log.map (fun entry => (entry.next, entry.result)) ++
    (system.holder.map Holder.report).getD []

def appliedCount (reports : List (ConfigSnapshot × ApplyResult)) : Nat :=
  reports.countP fun report => report.2.applied

/-- The snapshot is of the bootstrap or of one call that applied it. -/
def FromOneCall (bootstrap : ConfigSnapshot) (reports : List (ConfigSnapshot × ApplyResult))
    (snapshot : RuntimeSnapshot Handle Material) : Prop :=
  (snapshot.version = bootstrap.version ∧ snapshot.router = bootstrap.router ∧
    snapshot.generation = 1) ∨
  ∃ next, (next, appliedResult snapshot) ∈ reports ∧
    snapshot.version = next.version ∧ snapshot.router = next.router

/-- The result of a call says what became of the state. -/
structure Entry.Reported (entry : Entry Handle Material) : Prop where
  applied : entry.result.applied = true →
    entry.after.generation = entry.before.generation + 1 ∧
      entry.after.version = entry.next.version ∧ entry.after.router = entry.next.router ∧
      entry.result.activeVersion = entry.after.version ∧
      entry.result.activeGeneration = entry.after.generation
  refused : entry.result.applied = false →
    entry.after = entry.before ∧ entry.result.activeVersion = entry.before.version ∧
      entry.result.activeGeneration = entry.before.generation

/-- The invariant of every interleaving. -/
structure Consistent (platform : Platform) (bootstrap : ConfigSnapshot)
    (system : System Handle Material) : Prop where
  config : system.shared.bootstrapConfig = restartFingerprint bootstrap.router
  boundary : restartFingerprint system.shared.current.router = restartFingerprint bootstrap.router
  phase : ∀ holder ∈ system.holder,
    PhaseInv platform holder.before system.shared holder.next holder.phase
  entries : ∀ entry ∈ system.log, entry.Reported
  current : FromOneCall bootstrap system.reports system.shared.current
  observed : ∀ snapshot ∈ system.observed, FromOneCall bootstrap system.reports snapshot
  generation : system.shared.current.generation =
    1 + UInt64.ofNat (appliedCount system.reports)

lemma FromOneCall.mono {reports later : List (ConfigSnapshot × ApplyResult)}
    {snapshot : RuntimeSnapshot Handle Material} (source : FromOneCall bootstrap reports snapshot)
    (more : ∀ report ∈ reports, report ∈ later) : FromOneCall bootstrap later snapshot := by
  rcases source with initial | ⟨next, reported, version, router⟩
  · exact .inl initial
  · exact .inr ⟨next, more _ reported, version, router⟩

lemma PhaseInv.current_eq (found : PhaseInv platform before shared next phase)
    (pending : panics phase = true) : shared.current = before := by
  cases phase with
  | poisonedLock | checking | rejected | accepted | loaded | building | built => exact found.1
  | returning result => cases pending

lemma panics_of_advance {moved : RuntimeState Handle Material × InCall Handle Material}
    (stepOk : advance platform builders shared next phase = some moved) : panics phase = true := by
  cases phase with
  | returning result => cases stepOk
  | _ => rfl

lemma Holder.report_of_panics (pending : panics holder.phase = true) : holder.report = [] := by
  obtain ⟨_, _, _, phase⟩ := holder
  cases phase with
  | returning result => cases pending
  | _ => rfl

lemma reports_of_pending (held : system.holder = some holder)
    (pending : panics holder.phase = true) :
    system.reports = system.log.map fun entry => (entry.next, entry.result) := by
  simp [System.reports, held, Holder.report_of_panics pending]

lemma Consistent.advance (inv : Consistent platform bootstrap system)
    (held : system.holder = some holder)
    (stepOk : advance platform builders system.shared holder.next holder.phase = some (moved, later)) :
    Consistent platform bootstrap
      { system with shared := moved, holder := some { holder with phase := later } } := by
  have pending := panics_of_advance stepOk
  have found := inv.phase holder held
  have arrived := found.advance stepOk
  obtain ⟨config, movement⟩ := advance_frame stepOk
  have before := found.current_eq pending
  have earlier := reports_of_pending held pending
  by_cases returns : panics later = true
  · have same : moved = system.shared := by
      rcases movement with same | returned
      · exact same
      · rw [returned] at returns
        cases returns
    subst same
    have reportsEq : System.reports
        { system with holder := some { holder with phase := later } } = system.reports := by
      rw [earlier]
      exact reports_of_pending rfl returns
    refine ⟨inv.config, inv.boundary, ?_, inv.entries, ?_, ?_, ?_⟩
    · intro current isHolder
      cases isHolder
      exact arrived
    · exact reportsEq ▸ inv.current
    · exact reportsEq ▸ inv.observed
    · exact reportsEq ▸ inv.generation
  · obtain ⟨result, rfl⟩ : ∃ result, later = .returning result := by
      cases later with
      | returning result => exact ⟨result, rfl⟩
      | _ => exact absurd rfl returns
    have reportsEq : System.reports
        { system with shared := moved, holder := some { holder with phase := .returning result } } =
          system.reports ++ [(holder.next, result)] := by
      rw [earlier]
      rfl
    have more : ∀ report ∈ system.reports, report ∈ system.reports ++ [(holder.next, result)] :=
      fun _ => mem_append_left _
    have count : appliedCount (system.reports ++ [(holder.next, result)]) =
        appliedCount system.reports + if result.applied then 1 else 0 := by
      simp [appliedCount, countP_append, countP_singleton]
    have holderPhase : ∀ current ∈ some { holder with phase := InCall.returning result },
        PhaseInv platform current.before moved current.next current.phase := by
      intro current isHolder
      cases isHolder
      exact arrived
    have observed : ∀ snapshot ∈ system.observed,
        FromOneCall bootstrap (system.reports ++ [(holder.next, result)]) snapshot :=
      fun snapshot mem => (inv.observed snapshot mem).mono more
    obtain ⟨used, outcome⟩ := arrived
    rcases applySnapshot_cases outcome with
      ⟨refused, same, _, _⟩ | ⟨applied, _, fingerprint, version, router, generation⟩
    · have current : moved.current = system.shared.current := by rw [same, before]
      refine ⟨config.trans inv.config, ?_, holderPhase, inv.entries, ?_, ?_, ?_⟩
      · simpa only [current] using inv.boundary
      · rw [reportsEq]
        simpa only [current] using inv.current.mono more
      · rwa [reportsEq]
      · rw [reportsEq, count, refused, if_neg Bool.false_ne_true, Nat.add_zero]
        simpa only [current] using inv.generation
    · refine ⟨config.trans inv.config, ?_, holderPhase, inv.entries, ?_, ?_, ?_⟩
      · exact (congrArg restartFingerprint router).trans
          (fingerprint.trans (config.trans inv.config))
      · rw [reportsEq]
        refine .inr ⟨holder.next, ?_, version, router⟩
        exact mem_append_right _ (mem_singleton.mpr (by rw [applied]))
      · rwa [reportsEq]
      · have reported : result.applied = true := by rw [applied]; rfl
        rw [reportsEq, count, reported, if_pos rfl, UInt64.ofNat_add]
        have previous := inv.generation
        rw [before] at previous
        change moved.current.generation = _
        rw [generation]
        change holder.before.generation + 1 = _
        rw [previous, UInt64.add_assoc]
        rfl

lemma Consistent.acquire (inv : Consistent platform bootstrap system)
    (free : system.holder = none) {waiting : List (Nat × ConfigSnapshot)}
    (entered : PhaseInv platform system.shared.current system.shared next phase)
    (pending : panics phase = true) : Consistent platform bootstrap
      { system with waiting, holder := some ⟨thread, next, system.shared.current, phase⟩ } := by
  have reportsEq : System.reports
      { system with
        waiting
        holder := some ⟨thread, next, system.shared.current, phase⟩ } = system.reports := by
    rw [reports_of_pending rfl pending]
    simp [System.reports, free]
  refine ⟨inv.config, inv.boundary, ?_, inv.entries, ?_, ?_, ?_⟩
  · intro holder isHolder
    cases isHolder
    exact entered
  · exact reportsEq ▸ inv.current
  · exact reportsEq ▸ inv.observed
  · exact reportsEq ▸ inv.generation

lemma Consistent.release (inv : Consistent platform bootstrap system)
    (held : system.holder = some ⟨thread, next, before, .returning result⟩) :
    Consistent platform bootstrap
      { system with
        holder := none
        log := system.log ++ [⟨thread, next, before, result, system.shared.current⟩] } := by
  have reportsEq : System.reports
      { system with
        holder := none
        log := system.log ++ [⟨thread, next, before, result, system.shared.current⟩] } =
      system.reports := by
    simp [System.reports, held, Holder.report]
  have reported : Entry.Reported ⟨thread, next, before, result, system.shared.current⟩ := by
    obtain ⟨builders, out⟩ := inv.phase _ held
    rcases applySnapshot_cases out with
      ⟨refused, same, version, generation⟩ | ⟨applied, _, _, version, router, generation⟩
    · refine ⟨fun applied => ?_, fun _ => ⟨congrArg RuntimeState.current same, version, generation⟩⟩
      rw [refused] at applied
      cases applied
    · refine ⟨fun _ => ⟨generation, version, router, ?_, ?_⟩, fun refused => ?_⟩
      · exact congrArg ApplyResult.activeVersion applied
      · exact congrArg ApplyResult.activeGeneration applied
      · rw [applied] at refused
        cases refused
  refine ⟨inv.config, inv.boundary, by simp, ?_, ?_, ?_, ?_⟩
  · intro entry mem
    rcases mem_append.mp mem with old | last
    · exact inv.entries entry old
    · rwa [mem_singleton.mp last]
  · exact reportsEq ▸ inv.current
  · exact reportsEq ▸ inv.observed
  · exact reportsEq ▸ inv.generation

lemma Consistent.step {after : System Handle Material} {action : Action Handle Material}
    (inv : Consistent platform bootstrap system)
    (stepOk : step platform system action = some after) : Consistent platform bootstrap after := by
  cases action with
  | call thread next =>
    cases stepOk
    exact ⟨inv.config, inv.boundary, inv.phase, inv.entries,
      inv.current, inv.observed, inv.generation⟩
  | acquire place =>
    simp only [Control.step] at stepOk
    split at stepOk
    next thread next free _ =>
      cases stepOk
      have entered : PhaseInv platform system.shared.current system.shared next
          (if system.shared.poisoned then InCall.poisonedLock else InCall.checking) := by
        split
        next poisoned => exact ⟨rfl, poisoned⟩
        next healthy => exact ⟨rfl, Bool.eq_false_of_not_eq_true healthy⟩
      have pending : panics (if system.shared.poisoned then
          (InCall.poisonedLock : InCall Handle Material) else InCall.checking) = true := by
        split <;> rfl
      exact inv.acquire free entered pending
    next => cases stepOk
  | advance builders =>
    simp only [Control.step] at stepOk
    cases held : system.holder with
    | none => simp [held] at stepOk
    | some holder =>
      rw [held] at stepOk
      obtain ⟨⟨moved, later⟩, advanced, rfl⟩ := Option.map_eq_some_iff.mp stepOk
      exact inv.advance held advanced
  | release =>
    simp only [Control.step] at stepOk
    split at stepOk
    next thread next before result held =>
      cases stepOk
      exact inv.release held
    next => cases stepOk
  | panic =>
    simp only [Control.step] at stepOk
    cases held : system.holder with
    | none => simp [held] at stepOk
    | some holder =>
      by_cases pending : panics holder.phase = true
      · simp only [held, pending, if_true, Option.some.injEq] at stepOk
        subst stepOk
        have reportsEq : System.reports
            { system with
              shared := { system.shared with poisoned := true }
              holder := none } = system.reports := by
          rw [reports_of_pending held pending]
          simp [System.reports]
        refine ⟨inv.config, inv.boundary, by simp, inv.entries, ?_, ?_, ?_⟩
        · exact reportsEq ▸ inv.current
        · exact reportsEq ▸ inv.observed
        · exact reportsEq ▸ inv.generation
      · simp [held, pending] at stepOk
  | observe =>
    cases stepOk
    refine ⟨inv.config, inv.boundary, inv.phase, inv.entries,
      inv.current, ?_, inv.generation⟩
    intro snap mem
    rcases mem_append.mp mem with old | last
    · exact inv.observed snap old
    · rw [mem_singleton.mp last]
      exact inv.current

lemma Consistent.initial (started : bootstrapState platform builders bootstrap = .ok state) :
    Consistent platform bootstrap (System.initial state) := by
  obtain ⟨snap, built, same⟩ := bind_eq_ok.mp started
  cases same
  obtain ⟨version, router, generation⟩ := fields_of_build built
  refine ⟨rfl, congrArg restartFingerprint router, by simp [System.initial],
    by simp [System.initial], .inl ⟨version, router, generation⟩, by simp [System.initial], ?_⟩
  change snap.generation = 1 + UInt64.ofNat 0
  rw [generation]
  rfl

/-- In every state that calls from any number of threads and reads between their
steps can reach: the active router is within the restart boundary of the
bootstrap, the generation counts the results reported as applied, every finished
call reports what it did, and every observed snapshot is the bootstrap or that of
one applied call. -/
theorem snapshot_application_atomic {platform : Platform} {builders : Builders Handle Material}
    {bootstrap : ConfigSnapshot} {state : RuntimeState Handle Material}
    (started : bootstrapState platform builders bootstrap = .ok state)
    {system : System Handle Material}
    (reached : Runs.Reaches (step platform) (System.initial state) system) :
    restartFingerprint system.shared.current.router = restartFingerprint bootstrap.router ∧
    system.shared.current.generation = 1 + UInt64.ofNat (appliedCount system.reports) ∧
    (∀ entry ∈ system.log, entry.Reported) ∧
    ∀ snapshot ∈ system.observed, FromOneCall bootstrap system.reports snapshot := by
  have consistent : Consistent platform bootstrap system :=
    reached.invariant (Consistent.initial started) fun _ _ _ holds stepOk => holds.step stepOk
  exact ⟨consistent.boundary, consistent.generation, consistent.entries, consistent.observed⟩

end Calls

namespace TwoThreads

def builders : Builders Nat Nat := .constant 0 0

def snapshot (version : String) (h2c : Bool) : ConfigSnapshot :=
  { version, router := { httpOptions := { h2c } } }

def actions : List (Action Nat Nat) :=
  [.call 1 (snapshot "v2" false), .call 2 (snapshot "v3" true), .acquire 1] ++
    List.replicate 4 (.advance builders) ++ [.observe, .advance builders, .observe, .release,
      .acquire 0] ++ List.replicate 2 (.advance builders) ++ [.release]

end TwoThreads

open TwoThreads in
theorem second_generation_reached :
    ∃ state system, bootstrapState Reference.platform builders (snapshot "v1" false) = .ok state ∧
      Runs.Reaches (step Reference.platform) (System.initial state) system ∧
      system.reports.map (fun report => (report.1.version, report.2.applied)) =
        [("v2", true), ("v3", false)] ∧
      system.observed.length = 2 ∧
      system.shared.current.generation = 2 ∧
      ∀ observed ∈ system.observed,
        FromOneCall (snapshot "v1" false) system.reports observed := by
  have run : ∃ state, bootstrapState Reference.platform builders (snapshot "v1" false) = .ok state ∧
      ∃ system, actions.foldlM (step Reference.platform) (System.initial state) = some system ∧
        system.reports.map (fun report => (report.1.version, report.2.applied)) =
          [("v2", true), ("v3", false)] ∧ system.observed.length = 2 := by decide +kernel
  obtain ⟨state, started, system, ran, reports, observations⟩ := run
  have reached := Runs.reaches_of_foldlM ran
  obtain ⟨_, generation, _, observed⟩ := snapshot_application_atomic started reached
  have count : appliedCount system.reports = 1 := by
    have counted := congrArg (List.countP Prod.snd) reports
    rw [countP_map] at counted
    exact counted
  rw [count] at generation
  exact ⟨state, system, started, reached, reports, observations, generation, observed⟩

end Ngxora.Control
