/-
Plugins of a route.
-/

import Ngxora.Http.Session

namespace Ngxora.Http

open List Net

structure PluginError where
  plugin : String
  message : String

def PluginError.display (error : PluginError) : String := error.plugin ++ ": " ++ error.message

structure LocalResponse where
  status : UInt16
  headers : List (String × HeaderValue) := []
  body : List UInt8 := []

/-- `PluginFlow`; `proceed` is the source's `Continue`. -/
inductive PluginFlow where
  | proceed
  | respond (response : LocalResponse)

structure RequestCtx where
  path : String
  host : Option String
  method : String
  clientIp : Option IpAddr

structure RequestEffect (State : Type) where
  flow : Except PluginError PluginFlow
  state : State
  headers : HeaderMap

structure ResponseEffect (State : Type) where
  flow : Except PluginError PluginFlow
  state : State
  status : UInt16
  headers : HeaderMap

structure HttpPlugin (State : Type) where
  onRequest : RequestCtx → State → HeaderMap → RequestEffect State
  onResponse : State → UInt16 → HeaderMap → ResponseEffect State

def mapPluginError (stage : String) (error : PluginError) : PingoraError :=
  explain .internalError s!"plugin hook failed during {stage}: {error.display}"

def respondFromPluginFlow (flow : PluginFlow) (stage : String) : Except PingoraError Unit :=
  match flow with
  | .proceed => .ok ()
  | .respond _ => .error (explain .internalError
      s!"plugin attempted local response during {stage}, which is not supported")

def ResponseEffect.verdict {State : Type} (effect : ResponseEffect State) :
    Except PingoraError Unit :=
  match effect.flow with
  | .error error => .error (mapPluginError "response_filter" error)
  | .ok flow => respondFromPluginFlow flow "response_filter"

/-- One `on_response`: the place of its plugin, and whether it failed or asked for a
local response. -/
structure Call where
  place : Nat
  failed : Bool

structure ChainRun (State : Type) where
  calls : List Call
  result : Except PingoraError Unit
  state : State
  status : UInt16
  headers : HeaderMap

variable {State : Type}

/-- The loop of `apply_response_plugins` over plugins with their places. -/
def unwind (state : State) (status : UInt16) (headers : HeaderMap) :
    List (HttpPlugin State × Nat) → ChainRun State
  | [] => { calls := [], result := .ok (), state, status, headers }
  | (plugin, place) :: rest =>
    let effect := plugin.onResponse state status headers
    match effect.verdict with
    | .error error =>
      { calls := [{ place, failed := true }]
        result := .error error
        state := effect.state
        status := effect.status
        headers := effect.headers }
    | .ok () =>
      let later := unwind effect.state effect.status effect.headers rest
      { later with calls := { place, failed := false } :: later.calls }

/-- The `on_response` hooks run from the last declared plugin to the first, up to one that
fails or asks for a local response. -/
def runChain (plugins : List (HttpPlugin State)) (state : State) (status : UInt16)
    (headers : HeaderMap) : ChainRun State :=
  unwind state status headers plugins.zipIdx.reverse

def unwindingPlaces (count : Nat) : List Nat := (List.range count).reverse

/-- The calls go through the places one after the other, end at the first failure, and
end nowhere else before the last place. -/
structure Unwinds (places : List Nat) (calls : List Call) : Prop where
  inOrder : calls.map Call.place <+: places
  stopped : ∀ before call after, calls = before ++ call :: after → call.failed = true → after = []
  complete : calls ≠ [] → (∀ call ∈ calls, call.failed = false) → calls.map Call.place = places

lemma Unwinds.nil (places : List Nat) : Unwinds places [] where
  inOrder := nil_prefix
  stopped := by
    intro before call after split
    have empty := congrArg List.length split
    simp at empty
  complete := by
    intro ne
    exact absurd rfl ne

lemma Unwinds.failed (place : Nat) (places : List Nat) :
    Unwinds (place :: places) [{ place, failed := true }] where
  inOrder := ⟨places, rfl⟩
  stopped := by
    intro before call after split _
    rcases append_eq_cons_iff.mp split.symm with ⟨_, here⟩ | ⟨_, _, here⟩
    · exact (List.cons.inj here).2
    · have impossible := congrArg List.length here
      simp at impossible
  complete := by
    intro _ unfailed
    have absurdly := unfailed _ (mem_singleton_self _)
    cases absurdly

lemma Unwinds.cons {place : Nat} {places : List Nat} {calls : List Call}
    (rest : Unwinds places calls)
    (whole : (∀ call ∈ calls, call.failed = false) → calls.map Call.place = places) :
    Unwinds (place :: places) ({ place, failed := false } :: calls) where
  inOrder := cons_prefix_cons.mpr ⟨rfl, rest.inOrder⟩
  stopped := by
    intro before call after split failed
    cases before with
    | nil =>
      cases split
      cases failed
    | cons first before => exact rest.stopped before call after (List.cons.inj split).2 failed
  complete := by
    intro _ unfailed
    rw [map_cons, whole fun call mem => unfailed call (mem_cons_of_mem _ mem)]

/-- An error that is not about a status and that neither side of the proxy caused. -/
def PingoraError.Internal (error : PingoraError) : Prop :=
  error.esource = .unset ∧ ∀ code, error.etype ≠ .httpStatus code

lemma explain_internal {etype : ErrorType} (plain : ∀ code, etype ≠ .httpStatus code)
    (ctx : String) : (explain etype ctx).Internal :=
  ⟨rfl, plain⟩

lemma internalError_internal (ctx : String) : (explain .internalError ctx).Internal := by
  apply explain_internal
  intro code same
  cases same

lemma runtimeConfigError_internal (ctx : String) : (runtimeConfigError ctx).Internal :=
  internalError_internal ctx

lemma ResponseEffect.verdict_internal {effect : ResponseEffect State} {error : PingoraError}
    (failed : effect.verdict = .error error) : error.Internal := by
  unfold verdict at failed
  split at failed
  · cases failed
    exact internalError_internal _
  · unfold respondFromPluginFlow at failed
    split at failed
    · cases failed
    · cases failed
      exact internalError_internal _

/-- How a chain ends: it has gone through all plugins, or its last call failed with
the error it ends with. -/
structure ChainRun.Describes (run : ChainRun State) (places : List Nat) : Prop where
  unwinds : Unwinds places run.calls
  ok : run.result = .ok () →
    (∀ call ∈ run.calls, call.failed = false) ∧ run.calls.map Call.place = places
  error : ∀ failure, run.result = .error failure →
    failure.Internal ∧ ∃ place, { place, failed := true } ∈ run.calls

lemma unwind_describes (state : State) (status : UInt16) (headers : HeaderMap)
    (entries : List (HttpPlugin State × Nat)) :
    (unwind state status headers entries).Describes (entries.map Prod.snd) := by
  induction entries generalizing state status headers with
  | nil =>
    constructor
    · exact Unwinds.nil _
    · intro _
      constructor
      · intro call mem
        cases mem
      · rfl
    · intro err failed
      cases failed
  | cons entry rest ih =>
    obtain ⟨plugin, place⟩ := entry
    unfold unwind
    cases verdict : (plugin.onResponse state status headers).verdict with
    | error error =>
      simp only [verdict]
      constructor
      · exact Unwinds.failed place _
      · intro failed
        cases failed
      · intro err failed
        cases failed
        exact ⟨ResponseEffect.verdict_internal verdict, place, mem_singleton_self _⟩
    | ok done =>
      have later := ih (plugin.onResponse state status headers).state
        (plugin.onResponse state status headers).status
        (plugin.onResponse state status headers).headers
      simp only [verdict]
      constructor
      · apply Unwinds.cons later.unwinds
        intro unfailed
        cases ended : (unwind (plugin.onResponse state status headers).state
            (plugin.onResponse state status headers).status
            (plugin.onResponse state status headers).headers rest).result with
        | ok finished => exact (later.ok ended).2
        | error err =>
          obtain ⟨last, mem⟩ := (later.error err ended).2
          have absurdly := unfailed _ mem
          cases absurdly
      · intro succeeded
        obtain ⟨unfailed, whole⟩ := later.ok succeeded
        constructor
        · intro call mem
          rcases mem_cons.mp mem with here | after
          · rw [here]
          · exact unfailed call after
        · rw [map_cons, whole, map_cons]
      · intro err failed
        obtain ⟨internal, last, mem⟩ := later.error err failed
        exact ⟨internal, last, mem_cons_of_mem _ mem⟩

lemma runChain_describes (plugins : List (HttpPlugin State)) (state : State) (status : UInt16)
    (headers : HeaderMap) :
    (runChain plugins state status headers).Describes (unwindingPlaces plugins.length) := by
  have places : plugins.zipIdx.reverse.map Prod.snd = unwindingPlaces plugins.length := by
    rw [map_reverse, zipIdx_map_snd, unwindingPlaces, range_eq_range']
  rw [← places]
  exact unwind_describes state status headers _

end Ngxora.Http
