/-
Alternatives asked one after the other.
-/

import Mathlib.Order.Basic
import Mathlib.Data.List.Basic

namespace Ngxora.Fallback

open List

variable {σ ι κ ρ β : Type}

/-- The second step runs in the state that the first one left. -/
def orElse (first second : σ → Option β × σ) (state : σ) : Option β × σ :=
  match first state with
  | (some answer, after) => (some answer, after)
  | (none, after) => second after

/-- What is known of the items: their rank and owner, which ones are ready, which
answers they have, and in which states a step may use them. -/
structure Items (σ ι κ ρ β : Type) where
  rank : ι → ρ
  owner : ι → κ
  ready : ι → Prop
  gives : ι → β → Prop
  usable : σ → ι → Prop

variable [Preorder ρ] (spec : Items σ ι κ ρ β)

/-- The step answers from an item of the least rank that is ready, and whenever one is. -/
structure Serves (step : σ → Option β × σ) (items : List ι) : Prop where
  best : ∀ state, (∀ item ∈ items, spec.usable state item) →
    ∀ answer, (step state).1 = some answer →
      ∃ item ∈ items, spec.gives item answer ∧
        ∀ other ∈ items, spec.ready other → spec.rank item ≤ spec.rank other
  complete : ∀ state, (∀ item ∈ items, spec.usable state item) →
    (step state).1 = none → ∀ item ∈ items, ¬ spec.ready item
  keeps : ∀ state other, spec.owner other ∉ items.map spec.owner →
    spec.usable state other → spec.usable (step state).2 other

variable {spec}

lemma Serves.nothing : Serves spec (fun state => (none, state)) [] where
  best := by
    intro _ _ answer bad
    cases bad
  complete := by
    intro _ _ _ item bad
    cases bad
  keeps := fun _ _ _ usable => usable

lemma Serves.of_mem_iff {step : σ → Option β × σ} {items others : List ι}
    (serves : Serves spec step items) (same : ∀ item, item ∈ items ↔ item ∈ others) :
    Serves spec step others where
  best := by
    intro state usable answer found
    rcases serves.best state (fun item mem => usable item ((same item).mp mem)) answer found
      with ⟨item, mem, given, least⟩
    exact ⟨item, (same item).mp mem, given,
      fun other listed => least other ((same other).mpr listed)⟩
  complete := by
    intro state usable missing item mem
    exact serves.complete state (fun item mem => usable item ((same item).mp mem)) missing
      item ((same item).mpr mem)
  keeps := by
    intro state other apart
    apply serves.keeps state other
    intro owned
    obtain ⟨item, mem, owns⟩ := mem_map.mp owned
    exact apart (mem_map.mpr ⟨item, (same item).mp mem, owns⟩)

lemma Serves.orElse {first second : σ → Option β × σ} {left right : List ι}
    (firstServes : Serves spec first left) (secondServes : Serves spec second right)
    (below : ∀ item ∈ left, ∀ other ∈ right, spec.rank item ≤ spec.rank other)
    (apart : ∀ other ∈ right, spec.owner other ∉ left.map spec.owner) :
    Serves spec (orElse first second) (left ++ right) := by
  have usableLeft : ∀ {state}, (∀ item ∈ left ++ right, spec.usable state item) →
      ∀ item ∈ left, spec.usable state item :=
    fun usable item mem => usable item (mem_append_left _ mem)
  -- the first step leaves the items of the second one usable
  have usableRight : ∀ {state}, (∀ item ∈ left ++ right, spec.usable state item) →
      ∀ item ∈ right, spec.usable (first state).2 item :=
    fun usable item mem => firstServes.keeps _ item (apart item mem)
      (usable item (mem_append_right _ mem))
  constructor
  case best =>
    intro state usable answer found
    unfold Fallback.orElse at found
    split at found
    next given after asked =>
      cases found
      rcases firstServes.best state (usableLeft usable) answer (by rw [asked]) with
        ⟨item, mem, gives, least⟩
      refine ⟨item, mem_append_left _ mem, gives, fun other listed ready => ?_⟩
      rcases mem_append.mp listed with here | later
      · exact least other here ready
      · exact below item mem other later
    next after asked =>
      have unready := firstServes.complete state (usableLeft usable) (by rw [asked])
      have usableAfter := usableRight usable
      rw [asked] at usableAfter
      obtain ⟨item, mem, gives, least⟩ := secondServes.best after usableAfter answer found
      refine ⟨item, mem_append_right _ mem, gives, fun other listed ready => ?_⟩
      rcases mem_append.mp listed with here | later
      · exact absurd ready (unready other here)
      · exact least other later ready
  case complete =>
    intro state usable missing item listed
    unfold Fallback.orElse at missing
    split at missing
    next => cases missing
    next after asked =>
      have usableAfter := usableRight usable
      rw [asked] at usableAfter
      rcases mem_append.mp listed with here | later
      · exact firstServes.complete state (usableLeft usable) (by rw [asked]) item here
      · exact secondServes.complete after usableAfter missing item later
  case keeps =>
    intro state other outside usable
    rw [map_append, mem_append, not_or] at outside
    have kept := firstServes.keeps state other outside.1 usable
    unfold Fallback.orElse
    split
    next given after asked => rwa [asked] at kept
    next after asked =>
      rw [asked] at kept
      exact secondServes.keeps after other outside.2 kept

end Ngxora.Fallback
