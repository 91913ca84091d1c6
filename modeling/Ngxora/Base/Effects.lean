/-
Programs that change a state and may fail.
-/

import Mathlib.Logic.Basic

namespace Ngxora

/-- A failure keeps the changes made before it. -/
abbrev Effect (σ ε α : Type) : Type := ExceptT ε (StateM σ) α

namespace Effect

variable {σ ε α β : Type}

def exec (program : Effect σ ε α) (state : σ) : Except ε α × σ := program.run.run state

def ofExcept : Except ε α → Effect σ ε α
  | .ok value => pure value
  | .error failure => throw failure

def recover (program : Effect σ ε α) (handler : ε → Option (Effect σ ε α)) : Effect σ ε α :=
  tryCatch program fun failure => (handler failure).getD (throw failure)

/-- A computation ends in `post`, or fails in `fail`. -/
def Ends (post : α → σ → Prop) (fail : ε → σ → Prop) : Except ε α × σ → Prop
  | (.ok value, state) => post value state
  | (.error failure, state) => fail failure state

/-- One postcondition is for a result and one for a failure. -/
def Meets (pre : σ → Prop) (program : Effect σ ε α) (post : α → σ → Prop)
    (fail : ε → σ → Prop) : Prop :=
  ∀ state, pre state → Ends post fail (program.exec state)

variable {pre pre' : σ → Prop} {post post' : α → σ → Prop} {fail fail' : ε → σ → Prop}

lemma Ends.weaken {outcome : Except ε α × σ} (ends : Ends post fail outcome)
    (res : ∀ value state, post value state → post' value state)
    (failure : ∀ error state, fail error state → fail' error state) : Ends post' fail' outcome := by
  rcases outcome with ⟨_ | _, state⟩
  · exact failure _ state ends
  · exact res _ state ends

variable {program : Effect σ ε α}

lemma Meets.weaken (meets : Meets pre program post fail) (before : ∀ state, pre' state → pre state)
    (res : ∀ value state, post value state → post' value state)
    (err : ∀ error state, fail error state → fail' error state) :
    Meets pre' program post' fail' :=
  fun state holds => (meets state (before state holds)).weaken res err

lemma Meets.before (meets : Meets pre program post fail)
    (stronger : ∀ state, pre' state → pre state) : Meets pre' program post fail :=
  fun state holds => meets state (stronger state holds)

lemma Meets.and (left : Meets pre program post fail) (right : Meets pre' program post' fail') :
    Meets (fun state => pre state ∧ pre' state) program
      (fun value state => post value state ∧ post' value state)
      (fun error state => fail error state ∧ fail' error state) := by
  intro state holds
  have first := left state holds.1
  have second := right state holds.2
  rcases out : program.exec state with ⟨err | value, after⟩
  · rw [out] at first second
    exact ⟨first, second⟩
  · rw [out] at first second
    exact ⟨first, second⟩

lemma Meets.pure {value : α} (here : ∀ state, pre state → post value state) :
    Meets pre (Pure.pure value : Effect σ ε α) post fail :=
  fun state holds => here state holds

lemma Meets.throw {err : ε} (here : ∀ state, pre state → fail err state) :
    Meets pre (throw err : Effect σ ε α) post fail :=
  fun state holds => here state holds

lemma exec_bind (program : Effect σ ε α) (next : α → Effect σ ε β) (state : σ) :
    (program >>= next).exec state =
      match program.exec state with
      | (.ok value, after) => (next value).exec after
      | (.error err, after) => (.error err, after) := by
  rw [exec, exec, ExceptT.run_bind, StateT.run_bind]
  rcases program.run.run state with ⟨_ | _, after⟩
  · rfl
  · rfl

lemma Meets.bind {middle : α → σ → Prop} {post : β → σ → Prop} {next : α → Effect σ ε β}
    (first : Meets pre program middle fail)
    (second : ∀ value, Meets (middle value) (next value) post fail) :
    Meets pre (program >>= next) post fail := by
  intro state holds
  have ends := first state holds
  rw [exec_bind]
  rcases out : program.exec state with ⟨err | value, after⟩
  · rwa [out] at ends
  · rw [out] at ends
    exact second value after ends

lemma Meets.get_bind {next : σ → Effect σ ε α}
    (here : ∀ state, pre state → Ends post fail ((next state).exec state)) :
    Meets pre (get >>= next) post fail := by
  intro state holds
  rw [exec_bind]
  exact here state holds

lemma Meets.modify {change : σ → σ} {post : PUnit → σ → Prop}
    (here : ∀ state, pre state → post ⟨⟩ (change state)) :
    Meets pre (modify change : Effect σ ε PUnit) post fail :=
  fun state holds => here state holds

lemma Meets.ofExcept {res : Except ε α}
    (ok : ∀ value, res = .ok value → ∀ state, pre state → post value state)
    (error : ∀ err, res = .error err → ∀ state, pre state → fail err state) :
    Meets pre (ofExcept res) post fail := by
  cases res with
  | ok value => exact Meets.pure (ok value rfl)
  | error err => exact Meets.throw (error err rfl)

lemma exec_tryCatch (program : Effect σ ε α) (handler : ε → Effect σ ε α) (state : σ) :
    (tryCatch program handler).exec state =
      match program.exec state with
      | (.ok value, after) => (.ok value, after)
      | (.error err, after) => (handler err).exec after := by
  rw [exec, exec, ExceptT.run_tryCatch, StateT.run_bind]
  rcases program.run.run state with ⟨_ | _, after⟩
  · rfl
  · rfl

lemma Meets.recover {caught : ε → σ → Prop} {handler : ε → Option (Effect σ ε α)}
    (tried : Meets pre program post caught)
    (handled : ∀ err program', handler err = some program' →
      Meets (caught err) program' post fail)
    (passed : ∀ err, handler err = none → ∀ state, caught err state →
      fail err state) : Meets pre (recover program handler) post fail := by
  intro state holds
  have ends := tried state holds
  unfold Effect.recover
  rw [exec_tryCatch]
  rcases out : program.exec state with ⟨err | value, after⟩
  · rw [out] at ends
    cases found : handler err with
    | none =>
      simp only [found, Option.getD_none]
      exact passed err found after ends
    | some program' =>
      simp only [found, Option.getD_some]
      exact handled err program' found after ends
  · rwa [out] at ends

end Effect
end Ngxora
