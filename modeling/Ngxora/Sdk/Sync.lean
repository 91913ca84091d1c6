/-
The client does not report a false sync.
-/

import Ngxora.Base.Runs
import Ngxora.Sdk.Machine

namespace Ngxora.Sdk

open Bool List Option

variable {Body : Type}

/-- A reply that was received after the snapshot became the desired one has reported its
version as active. -/
def ReportedSince (history : List Event) (pointer : Pointer Body) : Prop :=
  ∃ later earlier, history = later ++ .becameDesired pointer.address :: earlier ∧
    .reported pointer.snapshot.version ∈ later

variable {ptr : Pointer Body} {system before after : System Body} {place : Place Body}
  {environment : Environment Body}

lemma ReportedSince.later {history : List Event} (reported : ReportedSince history ptr)
    (news : List Event) : ReportedSince (news ++ history) ptr := by
  obtain ⟨later, old, shape, mem⟩ := reported
  exact ⟨news ++ later, old, by rw [shape, append_assoc],
    mem_append_right _ mem⟩

/-- A new desired snapshot gets an address that was never used, so the comparison of
pointers tells whether a sampled snapshot is still desired. -/
structure Known (system : System Body) (pointer : Pointer Body) : Prop where
  address : pointer.address < system.fresh
  became : .becameDesired pointer.address ∈ system.history

lemma Known.reportedSince (known : Known system ptr) :
    ReportedSince (.reported ptr.snapshot.version :: system.history) ptr := by
  obtain ⟨later, old, shape⟩ := append_of_mem known.became
  exact ⟨.reported ptr.snapshot.version :: later, old, by rw [shape, cons_append],
    mem_cons_self⟩

namespace Place

def begun : Place Body → Bool
  | .pausing _ | .watching _ _ _ | .lost _ _ | .reconnecting _ | .cooling _ _ _ | .sampling _ => true
  | .getting _ _ | .comparing _ _ | .applying _ _ | .settling _ _ _ => true
  | _ => false

def reconciling : Place Body → Bool
  | .getting _ _ | .comparing _ _ | .applying _ _ | .settling _ _ _ => true
  | _ => false

def sampled : Place Body → Option (Pointer Body)
  | .getting _ desired | .settling _ desired _ => desired
  | .comparing _ desired | .applying _ desired => some desired
  | _ => none

def succeeded : Place Body → Bool
  | .settling _ _ result => result.isNone
  | _ => false

end Place

/-- The loop reconciles this snapshot; if it is still the desired one, a success was
reported. -/
structure Reconciles (system : System Body) (place : Place Body) (pointer : Pointer Body) :
    Prop where
  sampled : place.sampled = some pointer
  known : Known system pointer
  same : ∀ desired, system.client.desired = some desired →
    desired.address = pointer.address → desired = pointer
  success : place.succeeded = true → (∀ desired, system.client.desired = some desired →
    desired.address = pointer.address → ReportedSince system.history pointer)

/-- What the loop knows at its place. -/
structure PlaceSound (system : System Body) (place : Place Body) : Prop where
  begun : place.begun = true → system.client.desired.isSome
  reconciles : place.reconciling = true → ∃ pointer, Reconciles system place pointer

/-- The invariant of every run of the client. -/
structure Sound (system : System Body) : Prop where
  version : ∀ pointer, system.client.desired = some pointer →
    system.client.state.desiredVersion = pointer.snapshot.version
  known : ∀ pointer, system.client.desired = some pointer → Known system pointer
  wake : system.client.wake = true → system.client.desired.isSome
  place : PlaceSound system system.place
  synced : system.client.state.synced = true → ∃ pointer, system.client.desired = some pointer ∧
    system.client.state.confirmedVersion = pointer.snapshot.version ∧
      ReportedSince system.history pointer

lemma placeSound_idle (idle : place.begun = false) (notReconciling : place.reconciling = false) :
    PlaceSound system place where
  begun := fun begun => absurd (idle.symm.trans begun) false_ne_true
  reconciles := fun reconciling => absurd (notReconciling.symm.trans reconciling) false_ne_true

lemma placeSound_waiting (want : system.client.desired.isSome)
    (notReconciling : place.reconciling = false) : PlaceSound system place where
  begun := fun _ => want
  reconciles := fun reconciling => absurd (notReconciling.symm.trans reconciling) false_ne_true

/-- The desired snapshot stays and the history grows. -/
structure Continues (before after : System Body) : Prop where
  desired : after.client.desired = before.client.desired
  version : after.client.state.desiredVersion = before.client.state.desiredVersion
  wake : after.client.wake = true → before.client.wake = true
  fresh : after.fresh = before.fresh
  history : ∃ news, after.history = news ++ before.history

lemma continues_of_same (client : after.client = before.client) (fresh : after.fresh = before.fresh)
    (history : after.history = before.history) : Continues before after where
  desired := congrArg Client.desired client
  version := congrArg (fun client => client.state.desiredVersion) client
  wake := fun token => client ▸ token
  fresh
  history := ⟨[], history⟩

lemma Known.continues (known : Known before ptr) (cont : Continues before after) :
    Known after ptr where
  address := cont.fresh ▸ known.address
  became := by
    obtain ⟨news, shape⟩ := cont.history
    rw [shape]
    exact mem_append_right _ known.became

lemma ReportedSince.continues (reported : ReportedSince before.history ptr)
    (cont : Continues before after) : ReportedSince after.history ptr := by
  obtain ⟨news, shape⟩ := cont.history
  rw [shape]
  exact reported.later news

lemma Reconciles.continues {old new : Place Body} (reconciles : Reconciles before old ptr)
    (cont : Continues before after) (sampled : new.sampled = some ptr)
    (success : new.succeeded = true → old.succeeded = true ∨
      (∀ want, before.client.desired = some want → want.address = ptr.address →
        ReportedSince after.history ptr)) : Reconciles after new ptr where
  sampled
  known := reconciles.known.continues cont
  same := by
    rw [cont.desired]
    exact reconciles.same
  success := by
    intro succeeded want
    rw [cont.desired]
    intro found same
    rcases success succeeded with already | reported
    · exact (reconciles.success already want found same).continues cont
    · exact reported want found same

lemma PlaceSound.continues (ok : PlaceSound before place) (cont : Continues before after) :
    PlaceSound after place where
  begun := by
    rw [cont.desired]
    exact ok.begun
  reconciles := by
    intro reconciling
    obtain ⟨ptr, reconciles⟩ := ok.reconciles reconciling
    exact ⟨ptr, reconciles.continues cont reconciles.sampled .inl⟩

lemma Sound.continues (ok : Sound before) (cont : Continues before after)
    (place : PlaceSound after after.place) (synced : after.client.state.synced = true →
      (before.client.state.synced = true ∧
        after.client.state.confirmedVersion = before.client.state.confirmedVersion) ∨
      ∃ ptr, after.client.desired = some ptr ∧
        after.client.state.confirmedVersion = ptr.snapshot.version ∧
          ReportedSince after.history ptr) : Sound after where
  version := by
    rw [cont.desired, cont.version]
    exact ok.version
  known := by
    rw [cont.desired]
    exact fun ptr found => (ok.known ptr found).continues cont
  wake := by
    rw [cont.desired]
    exact fun token => ok.wake (cont.wake token)
  place
  synced := by
    intro isSynced
    rcases synced isSynced with ⟨already, confirmed⟩ | reported
    · obtain ⟨ptr, found, version, reported⟩ := ok.synced already
      rw [cont.desired, confirmed]
      exact ⟨ptr, found, version, reported.continues cont⟩
    · exact reported

lemma Sound.moves (ok : Sound before) (client : after.client = before.client)
    (fresh : after.fresh = before.fresh) (history : after.history = before.history)
    (place : PlaceSound after after.place) : Sound after :=
  ok.continues (continues_of_same client fresh history) place fun synced =>
    .inl ⟨client ▸ synced, by rw [client]⟩

lemma Known.install (known : Known system ptr) (next : Snapshot Body) :
    Known (system.install next) ptr where
  address := Nat.lt_succ_of_lt known.address
  became := mem_cons_of_mem _ known.became

lemma Reconciles.install (reconciles : Reconciles system place ptr) (next : Snapshot Body) :
    Reconciles (system.install next) place ptr := by
  have ne : system.fresh ≠ ptr.address := Nat.ne_of_gt reconciles.known.address
  refine ⟨reconciles.sampled, reconciles.known.install next, ?_, fun _ => ?_⟩
  · rintro _ ⟨⟩ same
    exact absurd same ne
  · rintro _ ⟨⟩ same
    exact absurd same ne

lemma Sound.install (ok : Sound system) (next : Snapshot Body) : Sound (system.install next) where
  version := by
    rintro _ ⟨⟩
    rfl
  known := by
    rintro _ ⟨⟩
    exact ⟨Nat.lt_succ_self _, mem_cons_self⟩
  wake := fun _ => rfl
  place :=
    { begun := fun _ => rfl
      reconciles := by
        intro reconciling
        obtain ⟨ptr, reconciles⟩ := ok.place.reconciles reconciling
        exact ⟨ptr, reconciles.install next⟩ }
  synced := nofun

lemma Sound.exists_reconciles (ok : Sound system) (here : system.place = place)
    (reconciling : place.reconciling = true) :
    ∃ ptr, place.sampled = some ptr ∧ Reconciles system place ptr := by
  subst here
  obtain ⟨ptr, reconciles⟩ := ok.place.reconciles reconciling
  exact ⟨ptr, reconciles.sampled, reconciles⟩

lemma Sound.waits {next : Place Body} (ok : Sound before) (here : before.place = place)
    (begun : place.begun = true) (notReconciling : next.reconciling = false) :
    Sound { before with place := next } := by
  subst here
  exact ok.moves rfl rfl rfl (placeSound_waiting (ok.place.begun begun) notReconciling)

lemma Sound.advances (ok : Sound before) (here : before.place = place)
    (begun : place.begun = true) (reconciles : Reconciles before place ptr)
    (cont : Continues before after) (state : after.client.state = before.client.state)
    (sampled : after.place.sampled = some ptr)
    (success : after.place.succeeded = true → place.succeeded = true ∨
      (∀ want, before.client.desired = some want → want.address = ptr.address →
        ReportedSince after.history ptr)) : Sound after := by
  subst here
  refine ok.continues cont ⟨fun _ => ?_, fun _ => ⟨ptr, ?_⟩⟩ fun synced => ?_
  · rw [cont.desired]
    exact ok.place.begun begun
  · exact reconciles.continues cont sampled success
  · rw [state] at synced ⊢
    exact .inl ⟨synced, rfl⟩

lemma continues_place (system : System Body) (place : Place Body) :
    Continues system { system with place } :=
  continues_of_same rfl rfl rfl

lemma continues_report (system : System Body) (version : String) (place : Place Body) :
    Continues system { system with history := .reported version :: system.history, place } :=
  ⟨rfl, rfl, id, rfl, [.reported version], rfl⟩

lemma samePointer_iff (reconciles : Reconciles system place ptr) :
    samePointer system.client.desired (some ptr) = true ↔
      system.client.desired = some ptr := by
  rw [samePointer, beq_iff_eq, map_some]
  constructor
  · intro same
    obtain ⟨want, found, sameAddress⟩ := map_eq_some_iff.mp same
    rw [found, reconciles.same want found sameAddress]
  · intro same
    rw [same, map_some]

lemma watch_place (options : Options) (system : System Body) (pace : Pace)
    (notBefore : Option Nat) (reconnected : Bool) :
    (system.watch options pace notBefore reconnected).reconciling = false := by
  unfold System.watch
  split
  · rfl
  · split
    · rfl
    · split
      · rfl
      · rfl
    · rfl

lemma Sound.proceed (ok : Sound before) (step : before.proceed environment = some after) :
    Sound after := by
  unfold System.proceed at step
  split at step
  next =>
    split at step
    next found =>
      cases step
      exact ok.moves rfl rfl rfl (placeSound_waiting found rfl)
    next =>
      cases step
      exact ok.moves rfl rfl rfl (placeSound_idle rfl rfl)
  next =>
    split at step
    next token =>
      cases step
      -- a token is sent only when a snapshot is wanted
      exact ok.continues ⟨rfl, rfl, nofun, rfl, [], rfl⟩ (placeSound_waiting (ok.wake token) rfl)
        fun synced => .inl ⟨synced, rfl⟩
    next => cases step
  next pace place =>
    cases step
    exact ok.waits place rfl rfl
  next pace notBefore reconnected place =>
    cases step
    exact ok.waits place rfl (watch_place _ _ _ _ _)
  next pace seen place =>
    cases step
    have want := ok.place.begun (place ▸ rfl)
    exact ok.continues ⟨rfl, rfl, id, rfl, [], rfl⟩ (placeSound_waiting want rfl) nofun
  next pace place =>
    cases step
    have begun := ok.place.begun (place ▸ rfl)
    refine ok.moves rfl rfl rfl ⟨fun _ => begun, fun _ => ?_⟩
    obtain ⟨ptr, found⟩ := isSome_iff_exists.mp begun
    refine ⟨ptr, found, (ok.known ptr found).continues (continues_place _ _), ?_, nofun⟩
    intro want same _
    exact Option.some.inj (same.symm.trans found)
  next pace want place =>
    obtain ⟨_, ⟨⟩, reconciles⟩ := ok.exists_reconciles place rfl
    split at step
    next =>
      cases step
      exact ok.advances place rfl reconciles (continues_place _ _) rfl rfl nofun
    next stale =>
      cases step
      -- the result is a success only for a snapshot that has been replaced
      refine ok.advances place rfl reconciles (continues_place _ _) rfl rfl fun _ => .inr ?_
      intro cur found sameAddress
      have same := found.trans (congrArg some (reconciles.same cur found sameAddress))
      exact absurd ((samePointer_iff reconciles).mpr same) stale
  next => cases step

lemma Sound.stateChange {changed : Bool} (ok : Sound before)
    (step : before.stateChange changed = some after) : Sound after := by
  unfold System.stateChange at step
  split at step
  next pace place =>
    cases step
    exact ok.waits place rfl rfl
  next pace notBefore reconnected place =>
    split at step
    · cases step
      exact ok.waits place rfl rfl
    · cases step
      exact ok.waits place rfl rfl
  next => cases step

lemma Sound.gotSnapshot {reply : Except RpcError String} (ok : Sound before)
    (step : before.gotSnapshot reply = some after) : Sound after := by
  unfold System.gotSnapshot at step
  split at step
  next pace sampled place =>
    obtain ⟨ptr, isSampled, reconciles⟩ := ok.exists_reconciles place rfl
    change sampled = some ptr at isSampled
    subst isSampled
    cases reply with
    | error error =>
      cases step
      exact ok.advances place rfl reconciles (continues_place _ _) rfl rfl nofun
    | ok version =>
      have continues := continues_report before version
      simp only at step
      split at step
      next active =>
        cases step
        refine ok.advances place rfl reconciles (continues _) rfl rfl fun _ => .inr fun _ _ _ => ?_
        subst active
        exact reconciles.known.reportedSince
      next =>
        cases step
        exact ok.advances place rfl reconciles (continues _) rfl rfl nofun
  next => cases step

lemma activeVersion_of_success {want : Snapshot Body} {reply : ApplyReply}
    (success : System.applyResult want reply = none) : reply.activeVersion = want.version := by
  unfold System.applyResult at success
  split at success
  · cases success
  · split at success
    · cases success
    · split at success
      · cases success
      next same => exact not_not.mp same

lemma Sound.applied {reply : Except RpcError ApplyReply} (ok : Sound before)
    (step : before.applied reply = some after) : Sound after := by
  unfold System.applied at step
  split at step
  next pace want place =>
    obtain ⟨_, ⟨⟩, reconciles⟩ := ok.exists_reconciles place rfl
    cases reply with
    | error error =>
      cases step
      exact ok.advances place rfl reconciles (continues_place _ _) rfl rfl nofun
    | ok reply =>
      cases step
      refine ok.advances place rfl reconciles (continues_report before reply.activeVersion _)
        rfl rfl fun success => .inr fun _ _ _ => ?_
      have active := activeVersion_of_success (isNone_iff_eq_none.mp success)
      change ReportedSince (.reported reply.activeVersion :: before.history) want
      rw [active]
      exact reconciles.known.reportedSince
  next => cases step

lemma nextPlace_reconciling (environment : Environment Body) (system : System Body)
    (pace : Pace) (cur : Bool) (res : Option ClientError) (random : Nat) :
    (system.nextPlace environment pace cur res random).reconciling = false := by
  unfold System.nextPlace
  split
  · rfl
  · split
    · rfl
    · cases res with
      | none => rfl
      | some error =>
        cases cur with
        | false | true => rfl

variable {want : Option (Pointer Body)} {client : Client Body} {random : Nat}

lemma record_stale (stale : samePointer client.desired want = false)
    (res : Option ClientError) : System.record client want res = client := by
  unfold System.record
  rw [stale]
  rfl

lemma record_current (cur : samePointer client.desired want = true)
    (res : Option ClientError) :
    (System.record client want res).state.synced = res.isNone ∧
      (∀ ptr, res = none → want = some ptr →
        (System.record client want res).state.confirmedVersion =
          ptr.snapshot.version) := by
  unfold System.record
  rw [cur]
  refine ⟨rfl, ?_⟩
  rintro ptr rfl rfl
  rfl

lemma continues_record (system : System Body) (want : Option (Pointer Body))
    (res : Option ClientError) (place : Place Body) :
    Continues system { system with client := System.record system.client want res, place } := by
  cases cur : samePointer system.client.desired want with
  | false =>
    rw [record_stale cur]
    exact continues_of_same rfl rfl rfl
  | true =>
    unfold System.record
    rw [cur]
    exact ⟨rfl, rfl, id, rfl, [], rfl⟩

lemma Sound.settle (ok : Sound before) (step : before.settle environment random = some after) :
    Sound after := by
  unfold System.settle at step
  split at step
  next pace sampled res place =>
    cases step
    obtain ⟨ptr, isSampled, reconciles⟩ := ok.exists_reconciles place rfl
    change sampled = some ptr at isSampled
    subst isSampled
    have continues := continues_record before (some ptr) res
      (before.nextPlace environment pace
        (samePointer before.client.desired (some ptr)) res random)
    refine ok.continues continues ?_ ?_
    · refine placeSound_waiting ?_ (nextPlace_reconciling _ _ _ _ _ _)
      rw [continues.desired]
      exact ok.place.begun (place ▸ rfl)
    · cases cur : samePointer before.client.desired (some ptr) with
      | false =>
        dsimp only
        rw [record_stale cur]
        exact fun synced => .inl ⟨synced, rfl⟩
      | true =>
        obtain ⟨synced, confirmed⟩ := record_current cur res
        have want := (samePointer_iff reconciles).mp cur
        intro isSynced
        have success := synced.symm.trans isSynced
        refine .inr ⟨ptr, continues.desired.trans want,
          confirmed ptr (isNone_iff_eq_none.mp success) rfl, ?_⟩
        exact reconciles.success success ptr want rfl
  next => cases step

lemma Sound.close {closed : Option String} (ok : Sound before)
    (step : before.close closed = some after) : Sound after := by
  unfold System.close at step
  split at step
  next =>
    cases step
    exact ok.continues ⟨rfl, rfl, id, rfl, [], rfl⟩ (placeSound_idle rfl rfl) nofun
  next => cases step

lemma Sound.setSnapshot {snap : Option (Snapshot Body)} (ok : Sound before)
    (accepted : before.setSnapshot environment snap = .ok after) : Sound after := by
  unfold System.setSnapshot at accepted
  cases snap with
  | none => cases accepted
  | some next =>
    simp only at accepted
    split at accepted
    · cases accepted
    · split at accepted
      · split at accepted
        · split at accepted
          · cases accepted
            exact ok
          · cases accepted
        · cases accepted
          exact ok.install next
      · cases accepted
        exact ok.install next

lemma Sound.step {action : Action Body} (ok : Sound before)
    (stepped : step environment before action = some after) : Sound after := by
  cases action with
  | setSnapshot snap =>
    simp only [Sdk.step] at stepped
    split at stepped
    · cases stepped
      exact ok
    next accepted =>
      cases stepped
      exact ok.setSnapshot accepted
  | readStatus =>
    cases stepped
    exact ok
  | run =>
    simp only [Sdk.step] at stepped
    split at stepped
    · cases stepped
      exact ok
    · cases stepped
      exact ok.continues ⟨rfl, rfl, id, rfl, [], rfl⟩ (placeSound_idle rfl rfl)
        fun synced => .inl ⟨synced, rfl⟩
  | cancel error | connectivity state | tick time =>
    cases stepped
    exact ok.moves rfl rfl rfl (ok.place.continues (continues_of_same rfl rfl rfl))
  | dialed res =>
    simp only [Sdk.step] at stepped
    split at stepped
    · cases stepped
      exact ok.moves rfl rfl rfl (placeSound_idle rfl rfl)
    · cases stepped
      exact ok.moves rfl rfl rfl (placeSound_idle rfl rfl)
    · cases stepped
  | interrupt =>
    simp only [Sdk.step] at stepped
    split at stepped
    · cases stepped
      exact ok.moves rfl rfl rfl (placeSound_idle rfl rfl)
    · cases stepped
  | proceed => exact ok.proceed stepped
  | stateChange changed => exact ok.stateChange stepped
  | gotSnapshot reply => exact ok.gotSnapshot stepped
  | applied reply => exact ok.applied stepped
  | settle random => exact ok.settle stepped
  | close closed => exact ok.close stepped

lemma sound_of_reaches (reached : Runs.Reaches (step environment) {} system) : Sound system :=
  reached.invariant ⟨nofun, nofun, nofun, placeSound_idle rfl rfl, nofun⟩
    fun _ _ _ ok stepped => ok.step stepped

lemma nextPlace_stale {pace : Pace} {res ending : Option ClientError} {opened : Bool}
    (ends : system.nextPlace environment pace false res random = .closing opened ending) :
    ∃ cause, system.cancelled = some cause ∧ ending = some (.context cause) := by
  unfold System.nextPlace at ends
  split at ends
  next cause cancelled =>
    cases ends
    exact ⟨cause, cancelled, rfl⟩
  next =>
    split at ends
    · cases ends
    · cases res with
      | none | some error => cases ends

/-- The client says it is in sync only when the snapshot it wants was reported active since
it was set; the result for a replaced snapshot is dropped. -/
theorem client_never_reports_false_sync {environment : Environment Body} {system : System Body}
    (reached : Runs.Reaches (step environment) {} system) :
    ((status system.client).synced = true → ∃ pointer, system.client.desired = some pointer ∧
      (status system.client).confirmedVersion = pointer.snapshot.version ∧
      (status system.client).desiredVersion = pointer.snapshot.version ∧
      ReportedSince system.history pointer) ∧
    (∀ pace desired result random after, system.place = .settling pace desired result →
      samePointer system.client.desired desired = false →
        step environment system (.settle random) = some after →
          status after.client = status system.client ∧
          ∀ opened ending, after.place = .closing opened ending →
            ∃ cause, system.cancelled = some cause ∧ ending = some (.context cause)) ∧
    ∀ pace, system.place ≠ .getting pace none := by
  have ok := sound_of_reaches reached
  refine ⟨?_, ?_, ?_⟩
  · intro synced
    rcases ok.synced synced with ⟨pointer, desired, confirmed, reported⟩
    exact ⟨pointer, desired, confirmed, ok.version pointer desired, reported⟩
  · intro pace desired result random after place stale stepped
    simp only [step, System.settle, place, record_stale stale, stale] at stepped
    cases stepped
    exact ⟨rfl, fun opened ending ends => nextPlace_stale ends⟩
  · intro pace here
    rcases ok.exists_reconciles here rfl with ⟨_, impossible, _⟩
    cases impossible

theorem replaced_snapshot_confirmed :
    ∃ system : System Unit, (status system.client).synced = true ∧
      (status system.client).confirmedVersion = "v2" ∧
      ∃ pointer, system.client.desired = some pointer ∧ ReportedSince system.history pointer := by
  obtain ⟨system, ran, synced, version⟩ : ∃ system,
      ([.setSnapshot (some ⟨"v1", ()⟩), .run, .dialed (.ok ()), .proceed,
        .connectivity .ready, .proceed, .proceed, .proceed, .setSnapshot (some ⟨"v2", ()⟩),
        .gotSnapshot (.ok "v1"), .settle 0, .tick 5, .proceed, .proceed, .stateChange true,
        .proceed, .proceed, .gotSnapshot (.ok "v1"), .proceed, .applied (.ok
          { applied := true, restartRequired := false, message := "", activeVersion := "v2" }),
        .settle 0] : List (Action Unit)).foldlM (step
          { options := { pollInterval := 5, retryMin := 1, retryMax := 8 }
            protoEqual := fun _ _ => true
            jitter := fun retry _ => retry }) {} = some system ∧
        (status system.client).synced = true ∧
        (status system.client).confirmedVersion = "v2" := by
    decide +kernel
  rcases (client_never_reports_false_sync (Runs.reaches_of_foldlM ran)).1 synced with
    ⟨pointer, desired, _, _, reported⟩
  exact ⟨system, synced, version, pointer, desired, reported⟩

end Ngxora.Sdk
