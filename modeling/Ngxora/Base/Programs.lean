/-
Programs that act on shared state one operation at a time. In between other parties change the
state: it stays `valid`, and `grows` relates it to the states that may come later. A `Safe` program
ends with its property whatever they do.
-/

import Mathlib.Order.Basic

namespace Ngxora

structure Interface where
  Op : Type
  Answer : Op → Type

inductive Program (interface : Interface) (α : Type) : Type where
  | done (value : α)
  | call (op : interface.Op) (next : interface.Answer op → Program interface α)

namespace Program

variable {interface : Interface} {α β : Type}

def bind (program : Program interface α) (next : α → Program interface β) : Program interface β :=
  match program with
  | .done value => next value
  | .call op rest => .call op fun answer => (rest answer).bind next

instance : Monad (Program interface) where
  pure := .done
  bind

def ask (op : interface.Op) : Program interface (interface.Answer op) := .call op .done

@[simp]
lemma pure_eq (value : α) : (pure value : Program interface α) = .done value := rfl

@[simp]
lemma done_bind (value : α) (next : α → Program interface β) :
    (Program.done value >>= next) = next value := rfl

@[simp]
lemma call_bind (op : interface.Op) (rest : interface.Answer op → Program interface α)
    (next : α → Program interface β) :
    (Program.call op rest >>= next) = .call op fun answer => rest answer >>= next := rfl

@[simp]
lemma ask_bind (op : interface.Op) (next : interface.Answer op → Program interface β) :
    (ask op >>= next) = .call op next := rfl

variable {State Input : Type}

/-- How an operation changes a state; the input is chosen from outside, and an operation
that is not possible in a state has no result. -/
abbrev Performs (interface : Interface) (State Input : Type) : Type :=
  State → Input → (op : interface.Op) → Option (State × interface.Answer op)

variable (perform : Performs interface State Input) (valid : State → Prop)
  (grows : State → State → Prop)

/-- The result has the property in every state that may come, whatever happens between
the operations. -/
def Safe (post : α → State → Prop) : Program interface α → State → Prop
  | .done value, state => ∀ later, grows state later → valid later → post value later
  | .call op next, state => ∀ now, grows state now → valid now → ∀ input after answer,
      perform now input op = some (after, answer) → Safe post (next answer) after

variable {perform valid grows} {post : α → State → Prop}

variable {program : Program interface α} {state : State}

lemma Safe.later (trans : ∀ first second third, grows first second → grows second third →
    grows first third) {later : State} (safe : Safe perform valid grows post program state)
    (growth : grows state later) : Safe perform valid grows post program later := by
  cases program with
  | done value => exact fun final more ok => safe final (trans _ _ _ growth more) ok
  | call op next => exact fun now more ok => safe now (trans _ _ _ growth more) ok

lemma Safe.of_later (refl : ∀ state, grows state state)
    (safe : ∀ later, grows state later → valid later →
      Safe perform valid grows post program later) :
    Safe perform valid grows post program state := by
  cases program with
  | done value => exact fun later growth ok => safe later growth ok later (refl later) ok
  | call op next => exact fun now growth ok => safe now growth ok now (refl now) ok

variable {op : interface.Op}

lemma Safe.step {next : interface.Answer op → Program interface α} {after : State} {input : Input}
    {answer : interface.Answer op} (refl : ∀ state, grows state state)
    (safe : Safe perform valid grows post (.call op next) state) (ok : valid state)
    (done : perform state input op = some (after, answer)) :
    Safe perform valid grows post (next answer) after :=
  safe state (refl state) ok input after answer done

lemma Safe.bind (refl : ∀ state, grows state state) {middle : α → State → Prop}
    {last : β → State → Prop} {next : α → Program interface β}
    (first : Safe perform valid grows middle program state)
    (second : ∀ value later, valid later → middle value later →
      Safe perform valid grows last (next value) later) :
    Safe perform valid grows last (program >>= next) state := by
  induction program generalizing state with
  | done value =>
    exact Safe.of_later refl fun later growth ok => second value later ok (first later growth ok)
  | call op rest ih =>
    intro now growth ok input after answer performed
    exact ih answer (first now growth ok input after answer performed)

lemma Safe.and {other : α → State → Prop} (left : Safe perform valid grows post program state)
    (right : Safe perform valid grows other program state) :
    Safe perform valid grows (fun value later => post value later ∧ other value later) program
      state := by
  induction program generalizing state with
  | done value => exact fun later growth ok => ⟨left later growth ok, right later growth ok⟩
  | call op rest ih =>
    intro now growth ok input after answer performed
    exact ih answer (left now growth ok input after answer performed)
      (right now growth ok input after answer performed)

lemma Safe.keep {fact : State → Prop}
    (stable : ∀ before after, grows before after → fact before → fact after)
    (growing : ∀ before input op after answer,
      perform before input op = some (after, answer) → grows before after)
    (program : Program interface α) (holds : fact state) :
    Safe perform valid grows (fun _ later => fact later) program state := by
  induction program generalizing state with
  | done value => exact fun later growth _ => stable state later growth holds
  | call op rest ih =>
    intro now growth _ input after answer performed
    exact ih answer (stable now after (growing now input op after answer performed)
      (stable state now growth holds))

lemma Safe.ask {post : interface.Answer op → State → Prop}
    (answers : ∀ now, grows state now → valid now → ∀ input after answer,
      perform now input op = some (after, answer) →
        ∀ later, grows after later → valid later → post answer later) :
    Safe perform valid grows post (.call op .done) state :=
  fun now growth ok input after answer done => answers now growth ok input after answer done

section Discipline

variable {Ghost : Type} (allowed : interface.Op → Ghost → Prop)
  (change : (op : interface.Op) → interface.Answer op → Ghost → Ghost)

/-- Every operation is allowed where it is made; operations change what is allowed. -/
def Follows (post : α → Ghost → Prop) : Program interface α → Ghost → Prop
  | .done value, ghost => post value ghost
  | .call op next, ghost => allowed op ghost ∧
      ∀ answer, Follows post (next answer) (change op answer ghost)

variable {allowed change}

lemma Follows.bind {middle : α → Ghost → Prop} {last : β → Ghost → Prop}
    {next : α → Program interface β} {ghost : Ghost}
    (first : Follows allowed change middle program ghost)
    (second : ∀ value ghost, middle value ghost → Follows allowed change last (next value) ghost) :
    Follows allowed change last (program >>= next) ghost := by
  induction program generalizing ghost with
  | done value => exact second value ghost first
  | call op rest ih => exact ⟨first.1, fun answer => ih answer (first.2 answer)⟩

end Discipline

end Program
end Ngxora
