/- Each thread of an SCP profile has exactly the references that its program will drop. -/

import Ngxora.Scp.Provenance

namespace Ngxora.Scp

open Control Shared List Option Results Router Http
open Nrf (NrfQuery ScpError SearchResult)

variable {Selector Handle : Type}

/-- What a step can do to the threads. -/
inductive Moved (host : Host Selector) (profile : RuntimeScp Handle)
    (before : System Selector) : System Selector → Prop where
  | accepted (incoming : Incoming) (request : ScpRequest)
      (parsed : ScpRequest.parse host.platform incoming.headers incoming.method incoming.path
        incoming.query profile.root = .ok request) :
      Moved host profile before (before.spawn (.client incoming.headers request
        (serve host.platform profile request incoming.headers incoming.clientIp incoming.retries)))
  | maintained : Moved host profile before (before.spawn (.maintenance maintain))
  | performed (place : Nat) (outside : Outside) (thread next : Thread) (shared : Shared Selector)
      (running : before.threads[place]? = some thread)
      (advanced : advanceThread host profile place before.shared outside thread =
        some (shared, next)) :
      Moved host profile before
        { shared, threads := before.threads.set place next }
  | aborted (place : Nat) (thread : Thread) (running : before.threads[place]? = some thread) :
      Moved host profile before
        { shared := before.shared.release place, threads := before.threads.set place .gone }
  | changed (shared : Shared Selector) (quiet : Quiet host profile before.shared shared) :
      Moved host profile before { before with shared }

variable {host : Host Selector} {profile : RuntimeScp Handle}
  {before system : System Selector} {shared after : Shared Selector} {outside : Outside}
  {place : Nat} {thread : Thread}

lemma moved_of_quiet {after : System Selector} {shared : Option (Shared Selector)}
    (quiet : ∀ {next}, shared = some next → Quiet host profile before.shared next)
    (step : before.withShared shared = some after) : Moved host profile before after := by
  obtain ⟨next, found, rfl⟩ := map_eq_some_iff.mp step
  exact .changed next (quiet found)

variable {action : Action} {handle : Nat} {next : Thread}

lemma moved_of_step {after : System Selector}
    (stepped : step host profile before action = some after) : Moved host profile before after := by
  cases action with
  | advance instant =>
    refine moved_of_quiet (fun {next} found => ?_) stepped
    split at found
    · cases found
      exact quiet_of_groups rfl rfl rfl
    · cases found
  | request incoming =>
    simp only [step] at stepped
    split at stepped
    · cases stepped
    next request parsed =>
      cases stepped
      exact .accepted incoming request parsed
  | maintain =>
    cases stepped
    exact .maintained
  | perform place outside =>
    obtain ⟨thread, running, ⟨shared, next⟩, moved, same⟩ := Results.bind₂_eq_some.mp stepped
    cases same
    exact .performed place outside thread next shared running moved
  | abort place =>
    obtain ⟨thread, running, _, _, same⟩ := Results.bind₂_eq_some.mp stepped
    cases same
    exact .aborted place thread running
  | refresh place event =>
    simp only [step] at stepped
    split at stepped
    · cases stepped
    next noAnswer => exact moved_of_quiet (quiet_runTask (Bool.eq_false_iff.mpr noAnswer)) stepped
  | answer place answer => exact moved_of_quiet quiet_answerTask stepped
  | settle place => exact moved_of_quiet quiet_settleTask stepped
  | finish place => exact moved_of_quiet quiet_finishTask stepped

def Shared.heldBy (shared : Shared Selector) (thread : Nat) : List Nat :=
  (shared.held.filter fun reference => reference.1 = thread).map Prod.snd

lemma mem_heldBy {thread : Nat} :
    handle ∈ shared.heldBy thread ↔ (thread, handle) ∈ shared.held := by
  simp [heldBy]

lemma mem_acquire {thread other : Nat} {handles : List Nat} :
    (other, handle) ∈ (shared.acquire thread handles).held ↔
      (other = thread ∧ handle ∈ handles) ∨ (other, handle) ∈ shared.held := by
  simp only [acquire, List.mem_append, List.mem_map, Prod.mk.injEq]
  constructor
  · rintro (⟨found, mem, rfl, rfl⟩ | old)
    · exact .inl ⟨rfl, mem⟩
    · exact .inr old
  · rintro (⟨rfl, mem⟩ | old)
    · exact .inl ⟨handle, mem, rfl, rfl⟩
    · exact .inr old

lemma heldBy_of_held {before : Shared Selector} (same : after.held = before.held) (thread : Nat) :
    after.heldBy thread = before.heldBy thread := by
  rw [heldBy, heldBy, same]

lemma heldBy_acquire (shared : Shared Selector) (thread other : Nat) (handles : List Nat) :
    (shared.acquire thread handles).heldBy other =
      if other = thread then handles ++ shared.heldBy other else shared.heldBy other := by
  unfold heldBy acquire
  rw [List.filter_append, List.map_append, List.filter_map, List.map_map]
  split
  next same => simp [same, Function.comp_def]
  next ne => simp [Ne.symm ne, Function.comp_def]

lemma heldBy_drop (shared : Shared Selector) (thread other handle : Nat) :
    ({ shared with held := shared.held.erase (thread, handle) } : Shared Selector).heldBy other =
      if other = thread then (shared.heldBy other).erase handle else shared.heldBy other := by
  unfold heldBy
  simp only
  induction shared.held with
  | nil => simp
  | cons head rest ih =>
    obtain ⟨owner, group⟩ := head
    by_cases dropped : (owner, group) = (thread, handle)
    · cases dropped
      rw [erase_cons_head]
      split
      next same => simp [same]
      next ne => simp [Ne.symm ne]
    · rw [erase_cons_tail (by simpa using dropped)]
      by_cases mine : owner = other
      · subst mine
        simp only [filter_cons, decide_true, if_true, map_cons, ih]
        split
        next same =>
          subst same
          have ne : group ≠ handle := fun same => dropped (by rw [same])
          rw [erase_cons_tail (by simpa using ne)]
        next => rfl
      · simp only [filter_cons, mine, decide_false, Bool.false_eq_true, if_false, ih]

lemma heldBy_perform {thread : Nat} {before : Shared Selector} {op : Op}
    {answer : operations.Answer op}
    (done : perform host profile thread before outside op = some (after, answer)) (other : Nat) :
    after.heldBy other =
      if other = thread then heldAfter op answer (before.heldBy other) else before.heldBy other := by
  cases op with
  | enter key tmpl =>
    cases entered_of_perform done with
    | hit entry | built cache => exact heldBy_acquire _ thread other _
    | refused | failed => exact (ite_self _).symm
  | startRefresh handle =>
    obtain ⟨group, found, same⟩ := map_eq_some_iff.mp done
    cases same
    unfold startScpRefresh
    split <;> exact (ite_self _).symm
  | touch key =>
    obtain ⟨entry, found, same⟩ := map_eq_some_iff.mp done
    cases same
    exact (ite_self _).symm
  | clone handle =>
    cases done
    exact heldBy_acquire before thread other [handle]
  | drop handle =>
    cases done
    exact heldBy_drop before thread other handle
  | retain =>
    cases retained_of_perform done
    exact heldBy_acquire _ thread other _
  | _ =>
    have same := heldBy_of_held (perform_plain rfl done).held
    exact (same other).trans (ite_self _).symm

/-- The thread drops what it holds before it ends. -/
def Thread.Owns (profile : RuntimeScp Handle) : Thread → List Nat → Prop
  | .client _ _ program, held => Balanced profile (fun _ left => left = []) program held
  | .maintenance program, held => Balanced profile (fun _ left => left = []) program held
  | .gone, held => held = []

/-- Shared state is valid and every reference has its thread. -/
structure System.Sound (host : Host Selector) (profile : RuntimeScp Handle)
    (system : System Selector) : Prop where
  valid : system.shared.Valid host profile
  owns : ∀ (place : Nat) (thread : Thread), system.threads[place]? = some thread →
    thread.Owns profile (system.shared.heldBy place)
  beyond : ∀ place, system.threads.length ≤ place → system.shared.heldBy place = []

lemma sound_initial (host : Host Selector) (profile : RuntimeScp Handle) (start : Nat) :
    (System.initial start).Sound host profile where
  valid := ⟨(fun _ _ bad => nomatch bad), (fun _ _ bad => nomatch bad)⟩
  owns := fun _ _ bad => nomatch bad
  beyond := fun _ _ => rfl

structure Advanced (host : Host Selector) (profile : RuntimeScp Handle) (place : Nat)
    (before after : Shared Selector) (next : Thread) : Prop where
  valid : after.Valid host profile
  owns : next.Owns profile (after.heldBy place)
  others : ∀ other, other ≠ place → after.heldBy other = before.heldBy other
  grows : Grows before after

lemma advancedProgram {α : Type} {before : Shared Selector} {program next : Run α}
    {left : α → List Nat → Prop} (ok : before.Valid host profile)
    (balanced : Balanced profile left program (before.heldBy place))
    (moved : advanceProgram host profile place before outside program = some (after, next)) :
    after.Valid host profile ∧ Balanced profile left next (after.heldBy place) ∧
      (∀ other, other ≠ place → after.heldBy other = before.heldBy other) ∧ Grows before after := by
  cases program with
  | done value => cases moved
  | call op rest =>
    obtain ⟨⟨shared, answer⟩, performed, same⟩ := map_eq_some_iff.mp moved
    cases same
    have held := heldBy_perform performed
    refine ⟨ok.perform balanced.1 performed, ?_, ?_, perform_grows performed⟩
    · rw [held place, if_pos rfl]
      exact balanced.2 answer
    · intro other ne
      rw [held other, if_neg ne]

lemma advanced_of_thread {before : Shared Selector} (ok : before.Valid host profile)
    (owns : thread.Owns profile (before.heldBy place))
    (advanced : advanceThread host profile place before outside thread = some (after, next)) :
    Advanced host profile place before after next := by
  cases thread with
  | client _ _ program | maintenance program =>
    obtain ⟨⟨shared, rest⟩, moved, same⟩ := map_eq_some_iff.mp advanced
    cases same
    obtain ⟨valid, owns, others, grows⟩ := advancedProgram ok owns moved
    exact ⟨valid, owns, others, grows⟩
  | gone => cases advanced

lemma getElem?_spawn {other : Thread} (found : (system.spawn thread).threads[place]? = some other) :
    system.threads[place]? = some other ∨ (system.threads.length ≤ place ∧ other = thread) := by
  by_cases old : place < system.threads.length
  · exact .inl ((getElem?_append_left old).symm.trans found)
  · have new := getElem?_append_right (not_lt.mp old) ▸ found
    exact .inr ⟨not_lt.mp old, mem_singleton.mp (mem_of_getElem? new)⟩

lemma System.Sound.spawn (ok : system.Sound host profile) (owns : thread.Owns profile []) :
    (system.spawn thread).Sound host profile where
  valid := ok.valid
  owns := by
    intro place other found
    rcases getElem?_spawn found with old | ⟨beyond, rfl⟩
    · exact ok.owns place other old
    · exact (ok.beyond place beyond).symm ▸ owns
  beyond := by
    intro place far
    apply ok.beyond
    exact le_trans (Nat.le_add_right _ _) (le_of_eq_of_le length_append.symm far)

lemma heldBy_release (shared : Shared Selector) (thread other : Nat) :
    (shared.release thread).heldBy other = if other = thread then [] else shared.heldBy other := by
  unfold heldBy release
  rw [List.filter_filter]
  split
  next same => simp [same]
  next ne =>
    congr 1
    apply filter_congr
    intro reference _
    by_cases mine : reference.1 = other
    · simp [mine, ne]
    · simp [mine]

lemma System.Sound.set (ok : before.Sound host profile) (inside : place < before.threads.length)
    (valid : shared.Valid host profile) (owns : next.Owns profile (shared.heldBy place))
    (others : ∀ other, other ≠ place → shared.heldBy other = before.shared.heldBy other) :
    ({ shared
       threads := before.threads.set place next } : System Selector).Sound host profile where
  valid
  owns := by
    intro other thread found
    by_cases same : place = other
    · subst same
      rw [getElem?_set_self inside] at found
      cases found
      exact owns
    · rw [getElem?_set_ne same] at found
      rw [others other (Ne.symm same)]
      exact ok.owns other thread found
  beyond := by
    intro other far
    rw [length_set] at far
    rw [others other (by omega)]
    exact ok.beyond other far

lemma System.Sound.step {after : System Selector} (ok : before.Sound host profile)
    (stepped : step host profile before action = some after) : after.Sound host profile := by
  cases moved_of_step stepped with
  | accepted incoming request =>
    exact ok.spawn (balanced_serve host.platform profile request incoming.headers
      incoming.clientIp incoming.retries)
  | maintained => exact ok.spawn (balanced_maintain profile)
  | performed place outside thread next shared running advanced =>
    have moved := advanced_of_thread ok.valid (ok.owns place thread running) advanced
    exact ok.set (List.getElem?_eq_some_iff.mp running).1 moved.valid moved.owns moved.others
  | aborted place thread running =>
    refine ok.set (List.getElem?_eq_some_iff.mp running).1 ⟨ok.valid.groups, ok.valid.cached⟩ ?_ ?_
    · exact (heldBy_release before.shared place place).trans (if_pos rfl)
    · exact fun other different =>
        (heldBy_release before.shared place other).trans (if_neg different)
  | changed shared quiet =>
    have same := heldBy_of_held quiet.held
    exact ⟨quiet.valid ok.valid, fun place thread found => (same place).symm ▸
      ok.owns place thread found, fun place far => (same place).trans (ok.beyond place far)⟩

lemma sound_of_reaches {start : Nat}
    (reached : Runs.Reaches (step host profile) (System.initial start) system) :
    system.Sound host profile :=
  reached.invariant (sound_initial host profile start) fun _ _ _ ok stepped => ok.step stepped

end Ngxora.Scp
