/-
Runs of a system whose steps are chosen from outside.
-/

import Mathlib.Logic.Relation

namespace Ngxora.Runs

variable {S A : Type} (step : S → A → Option S)

/-- An action that is not possible in a state has no successor. -/
def Steps (before after : S) : Prop := ∃ action, step before action = some after

def Reaches : S → S → Prop := Relation.ReflTransGen (Steps step)

variable {step}

variable {start finish : S}

lemma reaches_of_foldlM {actions : List A} (run : actions.foldlM step start = some finish) :
    Reaches step start finish := by
  induction actions generalizing start with
  | nil =>
    cases run
    exact Relation.ReflTransGen.refl
  | cons action rest ih =>
    obtain ⟨next, stepOk, restOk⟩ := Option.bind_eq_some_iff.mp run
    exact Relation.ReflTransGen.head ⟨action, stepOk⟩ (ih restOk)

/-- What every step keeps holds in every state that is reached. -/
lemma Reaches.invariant {holds : S → Prop} (reached : Reaches step start finish)
    (initially : holds start)
    (kept : ∀ before action after, holds before → step before action = some after → holds after) :
    holds finish := by
  induction reached with
  | refl => exact initially
  | tail _ stepped ih =>
    obtain ⟨action, stepOk⟩ := stepped
    exact kept _ action _ ih stepOk

end Ngxora.Runs
