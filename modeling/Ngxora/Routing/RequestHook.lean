/-
The request filter answers a request or leaves it untouched.
-/

import Ngxora.Routing.Responses

namespace Ngxora.Routing

open Control Http Net Results Router
open Effect (Meets)

variable {Handle Material State : Type} {proxy : Proxy Handle Material State}

/-- One response is written and the filter stops, or nothing is written and no plugin called. -/
def Passes (proxy : Proxy Handle Material State) (answered : Bool)
    (world : World Handle Material State) : Prop :=
  Settled proxy world ∧ (answered = false → Untouched world)

variable {world : World Handle Material State}

lemma passes_of_settled (settled : Settled proxy world) : Passes proxy true world :=
  ⟨settled, fun bad => nomatch bad⟩

lemma passes_of_untouched (kept : Untouched world) (answered : Bool) :
    Passes proxy answered world :=
  ⟨kept.settled, fun _ => kept⟩

lemma setContext_then {α : Type} {rest : Hook Handle Material State α}
    {post : α → World Handle Material State → Prop}
    {change : ProxyContext Handle Material State → ProxyContext Handle Material State}
    (goesOn : Meets Untouched rest post (Failing proxy))
    (kept : ∀ ctx, (change ctx).responsePluginsApplied = ctx.responsePluginsApplied) :
    Meets Untouched
      (do
        setContext change
        rest) post (Failing proxy) := by
  refine Meets.bind (setContext_meets ?_) fun _ => goesOn
  intro world untouched
  exact ⟨(kept world.context).trans untouched.unapplied, untouched.unwritten, untouched.empty⟩

lemma pure_untouched {α : Type} (value : α) :
    Meets Untouched (pure value) (fun _ => Untouched) (Failing proxy) := by
  apply Meets.pure
  intro world kept
  exact kept

lemma pass_meets : Meets Untouched (pure false) (Passes proxy) (Failing proxy) := by
  apply Meets.pure
  intro world kept
  exact passes_of_untouched kept false

lemma answered_meets {program : Hook Handle Material State Unit}
    (settles : Meets (Settled proxy) program (fun _ => Settled proxy) (Failing proxy)) :
    Meets Untouched
      (do
        program
        pure true)
      (Passes proxy) (Failing proxy) := by
  apply Meets.bind (settles.before fun world kept => kept.settled)
  intro _
  apply Meets.pure
  intro world settled
  exact passes_of_settled settled

variable (input : RequestInput) (io : Io) (selected : SelectedRoute Material) (host : Option String)

lemma answer_meets (resp : LocalResponse) :
    Meets Untouched
      (do
        writeRouteResponse proxy io resp
        pure true)
      (Passes proxy) (Failing proxy) := by
  apply answered_meets
  apply (writeRouteResponse_meets io resp).before
  intro world settled
  exact ⟨settled.1, fun owes => absurd owes settled.2⟩

lemma attempt_untouched {α : Type} (res : Except PingoraError α) :
    Meets Untouched (attempt res)
      (fun _ => Untouched) (Failing proxy) := by
  apply Meets.ofExcept
  · intro _ _ world kept
    exact kept
  · intro err _ world kept
    exact kept.failing err

lemma respond_meets (status : UInt16) :
    Meets Untouched
      (do
        respondError proxy.library io status
        pure true)
      (Passes proxy) (Failing proxy) := by
  apply answered_meets
  apply (respondError_meets io status).weaken
  · intro world settled
    exact ⟨settled.1, fun owes => absurd owes settled.2⟩
  · intro _ world settled
    exact settled
  · intro err world settled
    exact settled.failing err

lemma restrictClientMaxBodySize_meets :
    Meets Untouched (restrictClientMaxBodySize proxy io) (Passes proxy) (Failing proxy) := by
  unfold restrictClientMaxBodySize
  apply Meets.get_bind
  intro world kept
  split
  · exact respond_meets io 413 world kept
  · exact passes_of_untouched kept false

lemma runRequestPlugins_meets (ctx : RequestCtx) (plugins : List (HttpPlugin State)) :
    Meets Untouched
      (runRequestPlugins ctx plugins) (fun _ => Untouched) (Failing proxy) := by
  induction plugins with
  | nil => exact pure_untouched none
  | cons plugin rest ih =>
    unfold runRequestPlugins
    apply Meets.get_bind
    intro world kept
    have changed : Untouched { world with
        context := { world.context with
          pluginState := (plugin.onRequest ctx world.context.pluginState
            world.downstream.request.headers).state }
        downstream := { world.downstream with
          request := { world.downstream.request with
            headers := (plugin.onRequest ctx world.context.pluginState
              world.downstream.request.headers).headers } } } :=
      ⟨kept.unapplied, kept.unwritten, kept.empty⟩
    simp only
    split
    · exact changed.failing _
    · exact changed
    · exact ih _ changed

lemma authorizeRequest_meets :
    Meets Untouched (authorizeRequest proxy io selected host) (Passes proxy) (Failing proxy) := by
  unfold authorizeRequest
  apply Meets.get_bind
  intro world kept
  simp only
  split
  · exact answer_meets io _ world kept
  · split
    · apply Meets.bind (attempt_untouched _) _ world kept
      intro _
      exact answer_meets io _
    · apply Meets.bind (runRequestPlugins_meets _ _) _ world kept
      intro answer
      cases answer with
      | none => exact pass_meets
      | some resp => exact answer_meets io resp

lemma scpErrorResponse_untouched (platform : Platform) (error : Nrf.ScpError)
    (identity : String) :
    Meets Untouched
      (scpErrorResponse platform error identity) (fun _ => Untouched)
      (Failing proxy) := by
  unfold scpErrorResponse
  simp only
  split
  · exact pure_untouched _
  · apply Meets.throw
    intro world kept
    exact kept.failing _

lemma refuseScp_meets (profile : RuntimeScp Handle) (error : Nrf.ScpError) :
    Meets Untouched (refuseScp proxy io profile error) (Passes proxy) (Failing proxy) := by
  unfold refuseScp
  apply Meets.bind (scpErrorResponse_untouched _ _ _)
  intro resp
  exact answer_meets io resp

lemma prepareScpRequest_meets :
    Meets Untouched (prepareScpRequest proxy input io selected) (Passes proxy) (Failing proxy) := by
  unfold prepareScpRequest
  apply Meets.bind (attempt_untouched _)
  intro found
  cases found with
  | none => exact pass_meets
  | some profile =>
    refine setContext_then ?_ fun _ => rfl
    apply Meets.get_bind
    intro world kept
    simp only
    split
    · exact refuseScp_meets io profile _ world kept
    · split
      · exact refuseScp_meets io profile _ world kept
      · split
        · refine setContext_then pass_meets ?_ world kept
          exact fun _ => rfl
        · exact refuseScp_meets io profile _ world kept
        · exact kept.failing _

lemma serveCached_meets (cached : Cache.CachedResponse) :
    Meets Untouched
      (do
        writeCachedResponse proxy.library io cached
        pure true)
      (Passes proxy) (Failing proxy) := by
  apply answered_meets
  exact (writeCachedResponse_meets io cached).weaken (fun _ settled => settled)
    (fun _ _ settled => settled) fun err _ settled => settled.failing err

lemma tryCache_meets :
    Meets Untouched (tryCache proxy input io host) (Passes proxy) (Failing proxy) := by
  unfold tryCache
  apply Meets.get_bind
  intro world kept
  simp only
  split
  · exact passes_of_untouched kept false
  · split
    · exact passes_of_untouched kept false
    · split
      · rename_i cached _
        refine setContext_then (serveCached_meets io cached) ?_ world kept
        exact fun _ => rfl
      · refine setContext_then pass_meets ?_ world kept
        exact fun _ => rfl

lemma selectBackend_meets :
    Meets Untouched
      (selectBackend proxy selected) (fun _ => Untouched) (Failing proxy) := by
  unfold selectBackend
  split
  · apply Meets.get_bind
    intro world kept
    simp only
    have chosen : ∀ target : SelectedTarget,
        Meets Untouched
          (do
            setContext fun ctx => { ctx with selected := some { selected with target } }
            pure { selected with target })
          (fun _ => Untouched) (Failing proxy) :=
      fun target => setContext_then (pure_untouched _) fun _ => rfl
    have counted : ∀ counters, Untouched { world with counters } := fun _ =>
      ⟨kept.unapplied, kept.unwritten, kept.empty⟩
    exact Meets.bind (attempt_untouched _) chosen _ (counted _)
  · exact pure_untouched _

lemma respondToSelectedTarget_meets :
    Meets Untouched (respondToSelectedTarget proxy io selected) (Passes proxy) (Failing proxy) := by
  unfold respondToSelectedTarget
  split
  · apply Meets.bind (attempt_untouched _)
    intro status
    exact answer_meets io _
  · apply Meets.bind (attempt_untouched _)
    intro code
    apply Meets.bind (attempt_untouched _)
    intro _
    exact answer_meets io _
  · exact pass_meets

lemma unlessAnswered_meets {check rest : Hook Handle Material State Bool}
    (checks : Meets Untouched check (Passes proxy) (Failing proxy))
    (goesOn : Meets Untouched rest (Passes proxy) (Failing proxy)) :
    Meets Untouched
      (do
        if ← check then pure true else rest)
      (Passes proxy) (Failing proxy) := by
  apply Meets.bind checks
  intro answered
  cases answered with
  | true =>
    apply Meets.pure
    intro world passes
    exact passes
  | false =>
    apply goesOn.before
    intro world passes
    exact passes.2 rfl

lemma serveRoute_meets :
    Meets Untouched (serveRoute proxy input io selected host) (Passes proxy) (Failing proxy) := by
  unfold serveRoute
  refine setContext_then ?_ fun _ => rfl
  apply unlessAnswered_meets (restrictClientMaxBodySize_meets io)
  apply Meets.get_bind
  intro world kept
  have cached : ∀ cacheable : Bool, Meets Untouched
      (if cacheable then tryCache proxy input io host else pure false) (Passes proxy)
      (Failing proxy) := by
    intro cacheable
    cases cacheable with
    | true => exact tryCache_meets input io host
    | false => exact pass_meets
  apply unlessAnswered_meets (authorizeRequest_meets io selected host) _ world kept
  apply unlessAnswered_meets (prepareScpRequest_meets input io selected)
  apply unlessAnswered_meets (cached _)
  apply Meets.bind (selectBackend_meets selected)
  intro chosen
  exact respondToSelectedTarget_meets io chosen

lemma requestFilter_meets :
    Meets Untouched (requestFilter proxy input io) (Passes proxy) (Failing proxy) := by
  unfold requestFilter
  refine setContext_then ?_ fun _ => rfl
  apply Meets.get_bind
  intro world kept
  split
  · exact answer_meets io _ world kept
  · apply Meets.bind (attempt_untouched _) _ world kept
    intro found
    cases found with
    | none => exact setContext_then (restrictClientMaxBodySize_meets io) fun _ => rfl
    | some choice => exact serveRoute_meets input io choice.1 choice.2

end Ngxora.Routing
