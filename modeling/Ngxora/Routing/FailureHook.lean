/-
The hooks after the request filter. The error of a failing hook is reported with status 500 unless
it is about a status or one side of the proxy.
-/

import Ngxora.Routing.Responses

namespace Ngxora.Routing

open Control Http Net Results Router InternalErrors
open Effect (Meets)

variable {Handle Material State : Type} {proxy : Proxy Handle Material State}
variable (io : Io) (library : HeaderLibrary) (header : ResponseHeader)
  (cached : Cache.CachedResponse)

lemma insertHeader_internal (name value : String) :
    InternalErrors (insertHeader library header name value) := by
  apply InternalErrors.bind
  · apply mapError_internal
    intro msg
    apply explain_internal
    intro code same
    cases same
  · intro _
    exact ok _

lemma scpResponseHeaders_internal (exchange : Scp.ScpExchange) (header : ResponseHeader) :
    InternalErrors (scpResponseHeaders library exchange header) := by
  apply InternalErrors.bind
  · unfold insertProducer
    split
    · exact insertHeader_internal _ _ _ _
    · exact ok _
  · intro produced
    split
    · exact insertHeader_internal _ _ _ _
    · exact ok _

lemma responseFilter_meets (upstream : ResponseHeader) (owed : Prop) :
    Meets (fun world => Sound proxy world ∧ (Owes world → owed))
      (responseFilter proxy upstream) (fun _ world => Sound proxy world ∧ (Owes world → owed))
      (Failing proxy) := by
  unfold responseFilter
  apply Meets.get_bind
  intro world holds
  split
  · exact holds
  · apply Meets.bind (applyResponsePlugins_meets upstream owed) _ world holds
    intro header
    cases world.context.scp with
    | none =>
      apply Meets.pure
      intro current holds
      exact ⟨holds.1, fun owes => (holds.2 owes).1⟩
    | some exchange =>
      have internal := scpResponseHeaders_internal proxy.library exchange header
      have sounds : ∀ current, Sound proxy current ∧ (Owes current → owed ∧ header = upstream) →
          Sound proxy current := fun current holds => holds.1
      apply Meets.weaken (attempt_meets internal sounds)
      · intro current holds
        exact holds
      · intro _ current holds
        exact ⟨holds.2.1, fun owes => (holds.2.2 owes).1⟩
      · intro _ current failing
        exact failing

variable {error : PingoraError} {α : Type} {handler : Hook Handle Material State α}
  {world : World Handle Material State}

lemma scpFailure_internal (internal : error.Internal) : (scpFailure error).status = 500 := by
  obtain ⟨src, plain⟩ := internal
  unfold scpFailure
  rw [src]
  cases etype : error.etype with
  | httpStatus code => exact absurd etype (plain code)
  | internalError | readTimedout | other name => rfl

lemma failureCode_internal (internal : error.Internal) : failureCode error = 500 := by
  obtain ⟨src, plain⟩ := internal
  unfold failureCode
  rw [src]
  cases etype : error.etype with
  | httpStatus code => exact absurd etype (plain code)
  | internalError | readTimedout | other name => rfl

variable {failure : Failure} {program : Hook Handle Material State α}

lemma panic_of_passed (passed : onError handler failure = none) : failure = .panic := by
  cases failure with
  | panic => rfl
  | error error => cases passed

lemma handler_of_chosen (chosen : onError handler failure = some program) :
    program = handler := by
  cases failure with
  | panic => cases chosen
  | error error =>
    cases chosen
    rfl

def Unsent (world : World Handle Material State) : Prop := headersIn world.trace = []

/-- At most one header is written. -/
def SentOnce (world : World Handle Material State) : Prop := (headersIn world.trace).length ≤ 1

lemma Unsent.sentOnce (unsent : Unsent world) : SentOnce world := by
  unfold SentOnce
  rw [unsent]
  exact Nat.zero_le 1

lemma Unsent.sent (unsent : Unsent world) (header : ResponseHeader) :
    SentOnce (world.sent header) := by
  change (headersIn (world.trace ++ [.header header])).length ≤ 1
  rw [headersIn_append, unsent]
  exact Nat.le_refl 1

lemma Sound.unsent (sound : Sound proxy world) (unwritten : world.downstream.written = none) :
    Unsent world :=
  List.getLast?_eq_none_iff.mp (sound.written.symm.trans unwritten)

lemma writeResponseHeader_once :
    Meets (fun world : World Handle Material State => Unsent world)
      (writeResponseHeader io header) (fun _ => SentOnce)
      (fun _ => SentOnce) := by
  unfold writeResponseHeader
  apply Meets.get_bind
  intro world unsent
  split
  · exact unsent.sentOnce
  · split
    · exact unsent.sentOnce
    · exact unsent.sentOnce
    · exact unsent.sent header

lemma writeResponseBody_once (bytes : Option (List UInt8)) :
    Meets (fun world : World Handle Material State => SentOnce world)
      (writeResponseBody io bytes) (fun _ => SentOnce)
      (fun _ => SentOnce) := by
  unfold writeResponseBody
  apply Meets.get_bind
  intro world once
  split
  · exact once
  · exact once
  · change (headersIn (world.trace ++ [.body bytes])).length ≤ 1
    rwa [headersIn_append_body]

lemma attempt_once (res : Except PingoraError α) :
    Meets (fun world : World Handle Material State => Unsent world) (attempt res)
      (fun _ => Unsent) (fun _ => SentOnce) := by
  apply Meets.ofExcept
  · intro _ _ world unsent
    exact unsent
  · intro _ _ world unsent
    exact unsent.sentOnce

lemma applyResponsePlugins_once :
    Meets Unsent (applyResponsePlugins proxy header)
      (fun _ => Unsent) (fun _ => SentOnce) := by
  unfold applyResponsePlugins
  apply Meets.get_bind
  intro world unsent
  split
  · exact unsent
  · split
    · exact unsent
    · rename_i selected _
      have called : ∀ run : ChainRun State, Unsent (world.afterChain run) := by
        intro run
        change headersIn (world.trace ++ run.calls.map Event.called) = []
        rwa [headersIn_append, headersIn_map_called, List.append_nil]
      refine Meets.bind (attempt_once _) ?_ _ (called (runChain
        (proxy.plugins selected.plugins) world.context.pluginState header.status header.headers))
      intro _
      apply Meets.bind (attempt_once _)
      intro _
      apply Meets.pure
      intro cur unsent
      exact unsent

lemma writeRouteResponse_once (resp : LocalResponse) :
    Meets Unsent (writeRouteResponse proxy io resp)
      (fun _ => SentOnce) (fun _ => SentOnce) := by
  unfold writeRouteResponse
  apply Meets.bind (attempt_once _)
  intro header
  apply Meets.bind (applyResponsePlugins_once header)
  intro applied
  apply Meets.bind (attempt_once _)
  intro finished
  apply Meets.bind (writeResponseHeader_once io finished)
  intro _
  apply Meets.get_bind
  intro world once
  split
  · exact writeResponseBody_once io _ world once
  · exact writeResponseBody_once io _ world once

lemma respondError_once (status : UInt16) :
    Meets (fun world : World Handle Material State => Unsent world)
      (respondError proxy.library io status) (fun _ => SentOnce)
      (fun _ => SentOnce) := by
  unfold respondError
  apply Meets.bind (writeResponseHeader_once io _)
  intro _
  exact writeResponseBody_once io _

lemma writeCachedResponse_once :
    Meets (fun world : World Handle Material State => Unsent world)
      (writeCachedResponse proxy.library io cached) (fun _ => SentOnce)
      (fun _ => SentOnce) := by
  unfold writeCachedResponse
  apply Meets.bind (attempt_once _)
  intro header
  apply Meets.bind (writeResponseHeader_once io header)
  intro _
  exact writeResponseBody_once io _

/-- Nothing is owed, and at most one header was written. -/
def Reported (proxy : Proxy Handle Material State) (world : World Handle Material State) : Prop :=
  Settled proxy world ∧ SentOnce world

lemma recover_meets {pre : World Handle Material State → Prop}
    {post : α → World Handle Material State → Prop}
    {caught : Failure → World Handle Material State → Prop} (tried : Meets pre program post caught)
    (handled : ∀ failure, Meets (caught failure) handler post fun failure _ => failure = .panic) :
    Meets pre (Effect.recover program (onError handler)) post
      (fun failure _ => failure = .panic) := by
  apply Meets.recover tried
  · intro failure chosen same
    rw [handler_of_chosen same]
    exact handled failure
  · intro failure passed _ _
    exact panic_of_passed passed

lemma respondPlainly_meets :
    Meets (fun world => Sound proxy world ∧ Unsent world)
      (Effect.recover (respondError proxy.library io 500) (onError (pure ())))
      (fun _ => Reported proxy) (fun failure _ => failure = .panic) := by
  apply recover_meets (((respondError_meets io 500).and (respondError_once io 500)).before
    fun world holds => ⟨⟨holds.1, fun _ => rfl⟩, holds.2⟩)
  intro _
  apply Meets.pure
  intro world reported
  exact reported

lemma deliverError_meets (resp : LocalResponse) :
    Meets (fun world => (Sound proxy world ∧ (Owes world → resp.status = 500)) ∧ Unsent world)
      (deliverError proxy io resp) (fun _ => Reported proxy)
      (fun failure _ => failure = .panic) := by
  apply recover_meets ((writeRouteResponse_meets io resp).and
    (writeRouteResponse_once io resp))
  intro _
  apply Meets.get_bind
  intro world holds
  obtain ⟨⟨sound, _⟩, once⟩ := holds
  split
  · rename_i unwritten
    exact respondPlainly_meets io world
      ⟨sound, sound.unsent (Option.isNone_iff_eq_none.mp unwritten)⟩
  · rename_i written
    cases last : world.downstream.written with
    | none => exact absurd (by rw [last]; rfl) written
    | some header => exact ⟨sound.settled_of_written last, once⟩

lemma staleResponse_upstream {ctx : ProxyContext Handle Material State}
    {found : Option Cache.CachedResponse} {cached : Cache.CachedResponse}
    (stale : staleResponse error ctx found = some cached) : ¬ error.Internal := by
  intro internal
  unfold staleResponse at stale
  rw [internal.1, if_pos (by decide)] at stale
  cases stale

lemma scpErrorResponse_meets (platform : Platform) (error : Nrf.ScpError) (identity : String)
    {pre : World Handle Material State → Prop} :
    Meets pre (scpErrorResponse platform error identity)
      (fun resp world => resp.status = error.status ∧ pre world)
      (fun failure world => failure = .panic ∧ pre world) := by
  unfold scpErrorResponse
  simp only
  split
  · rename_i status valid _
    apply Meets.pure
    intro world holds
    unfold statusFromU16 at valid
    split at valid
    · cases valid
      exact ⟨rfl, holds⟩
    · cases valid
  · apply Meets.throw
    intro world holds
    exact ⟨rfl, holds⟩

lemma reported_meets (code : UInt16) :
    Meets (Reported proxy) (reported code) (fun _ => Reported proxy)
      (fun failure _ => failure = .panic) := by
  apply Meets.get_bind
  intro world reported
  exact reported

lemma reportScp_meets (error : PingoraError) (io : Io) (identity : String) :
    Meets (fun world => (Sound proxy world ∧ (Owes world → error.Internal)) ∧ Unsent world)
      (do
        let resp ← scpErrorResponse proxy.platform (scpFailure error) identity
        deliverError proxy io resp
        reported (scpFailure error).status)
      (fun _ => Reported proxy) (fun failure _ => failure = .panic) := by
  apply Meets.bind ((scpErrorResponse_meets _ _ _).weaken
    (fun _ holds => holds) (fun _ _ known => known) fun _ _ failed => failed.1)
  intro resp
  refine Meets.bind ((deliverError_meets io resp).before ?_) fun _ => reported_meets _
  intro world known
  obtain ⟨status, ⟨sound, owed⟩, unsent⟩ := known
  exact ⟨⟨sound, fun owes => status.trans (scpFailure_internal (owed owes))⟩, unsent⟩

lemma reportCode_meets (error : PingoraError) (io : Io) :
    Meets (fun world => (Sound proxy world ∧ (Owes world → error.Internal)) ∧ Unsent world)
      (do
        deliverError proxy io { status := (statusFromU16 (failureCode error)).getD 500 }
        reported (failureCode error))
      (fun _ => Reported proxy) (fun failure _ => failure = .panic) := by
  refine Meets.bind ((deliverError_meets io _).before ?_) fun _ => reported_meets _
  intro world holds
  obtain ⟨⟨sound, owed⟩, unsent⟩ := holds
  refine ⟨⟨sound, fun owes => ?_⟩, unsent⟩
  rw [failureCode_internal (owed owes)]
  rfl

lemma Settled.cacheHit (settled : Settled proxy world) :
    Settled proxy { world with context := { world.context with cacheHit := true } } :=
  ⟨⟨settled.1.unapplied, settled.1.unwinds, settled.1.written, settled.1.answered⟩,
    fun owes => settled.2 ⟨owes.whole, owes.unwritten, owes.failed⟩⟩

lemma tryCached_meets :
    Meets (fun world => Settled proxy world ∧ Unsent world)
      (Effect.recover (do
        writeCachedResponse proxy.library io cached
        pure true) (onError (pure false)))
      (fun _ => Reported proxy) (fun failure _ => failure = .panic) := by
  apply recover_meets
  · apply Meets.bind ((writeCachedResponse_meets io cached).and
      (writeCachedResponse_once io cached))
    intro _
    apply Meets.pure
    intro world reported
    exact reported
  · intro _
    apply Meets.pure
    intro world reported
    exact reported

lemma failToProxy_meets (error : PingoraError) (found : Option Cache.CachedResponse) (io : Io)
    (first : Prop) :
    Meets (fun world => (Sound proxy world ∧ (Owes world → error.Internal)) ∧
        (first → Unsent world))
      (failToProxy proxy error found io)
      (fun _ world => Settled proxy world ∧ (first → SentOnce world))
      (fun failure _ => failure = .panic) := by
  have enough : ∀ world, Reported proxy world →
      Settled proxy world ∧ (first → SentOnce world) :=
    fun _ reported => ⟨reported.1, fun _ => reported.2⟩
  unfold failToProxy
  apply Meets.get_bind
  intro world holds
  obtain ⟨holds, unwritten⟩ := holds
  split
  · rename_i header written
    exact ⟨holds.1.settled_of_written written, fun here => (unwritten here).sentOnce⟩
  · rename_i none
    have unsent := holds.1.unsent none
    split
    · exact (reportScp_meets error io _ world ⟨holds, unsent⟩).weaken (fun _ => enough)
        fun _ _ same => same
    · split
      · rename_i cached stale
        have settled : Settled proxy world :=
          ⟨holds.1, fun owes => staleResponse_upstream stale (holds.2 owes)⟩
        refine Meets.bind (tryCached_meets io cached) ?_ _ ⟨settled.cacheHit, unsent⟩
        intro reuse
        exact Meets.pure enough
      · exact (reportCode_meets error io world ⟨holds, unsent⟩).weaken (fun _ => enough)
          fun _ _ same => same

lemma failToProxy_written {header : ResponseHeader}
    (written : world.downstream.written = some header) (error : PingoraError)
    (found : Option Cache.CachedResponse) (io : Io) :
    (failToProxy proxy error found io).exec world =
      (.ok { canReuseDownstream := false, errorCode := header.status }, world) := by
  have answered : Meets (fun cur => cur = world)
      (failToProxy proxy error found io)
      (fun res cur => res = { canReuseDownstream := false, errorCode := header.status } ∧
        cur = world) (fun _ _ => False) := by
    unfold failToProxy
    apply Meets.get_bind
    intro cur same
    subst same
    rw [written]
    exact ⟨rfl, rfl⟩
  have ends := answered world rfl
  rcases out : (failToProxy proxy error found io).exec world with ⟨failure | res, after⟩
  · rw [out] at ends
    cases ends
  · rw [out] at ends
    obtain ⟨same, unchanged⟩ := ends
    rw [same, unchanged]

end Ngxora.Routing
