/-
Responses of a route.
-/

import Ngxora.Routing.Hooks

namespace Ngxora.Routing

open List Control Http Net Results Router
open Effect (Meets)

def callOf : Event → Option Call
  | .called call => some call
  | _ => none

def headerOf : Event → Option ResponseHeader
  | .header header => some header
  | _ => none

def callsIn (trace : List Event) : List Call := trace.filterMap callOf

def headersIn (trace : List Event) : List ResponseHeader := trace.filterMap headerOf

lemma callsIn_append (left right : List Event) :
    callsIn (left ++ right) = callsIn left ++ callsIn right :=
  filterMap_append

lemma headersIn_append (left right : List Event) :
    headersIn (left ++ right) = headersIn left ++ headersIn right :=
  filterMap_append

lemma callsIn_append_body (trace : List Event) (bytes : Option (List UInt8)) :
    callsIn (trace ++ [.body bytes]) = callsIn trace := by
  rw [callsIn_append]
  exact append_nil _

lemma headersIn_append_body (trace : List Event) (bytes : Option (List UInt8)) :
    headersIn (trace ++ [.body bytes]) = headersIn trace := by
  rw [headersIn_append]
  exact append_nil _

lemma callsIn_map_called (made : List Call) : callsIn (made.map Event.called) = made := by
  unfold callsIn
  rw [filterMap_map]
  exact filterMap_some

lemma headersIn_map_called (made : List Call) : headersIn (made.map Event.called) = [] := by
  unfold headersIn
  rw [filterMap_eq_nil_iff]
  intro event mem
  obtain ⟨call, _, same⟩ := mem_map.mp mem
  rw [← same]
  rfl

/-- A failure before any header is answered with status 500 and with nothing else. -/
def Answered (trace : List Event) : Prop :=
  ∀ before call after, trace = before ++ .called call :: after → call.failed = true →
    headersIn before = [] → ∀ header ∈ headersIn after, header.status = 500

lemma Answered.nil : Answered [] := by
  intro before call after split
  have empty := congrArg List.length split
  simp at empty

lemma Answered.append_quiet {trace suffix : List Event} (answered : Answered trace)
    (quiet : headersIn suffix = []) : Answered (trace ++ suffix) := by
  intro before call after split failed first header mem
  rcases append_eq_append_iff.mp split with ⟨between, _, rest⟩ | ⟨between, old, rest⟩
  · -- The err is in the suffix, which has no headers.
    rw [rest, headersIn_append] at quiet
    have none := (append_eq_nil_iff.mp quiet).2
    change headersIn ([.called call] ++ after) = [] at none
    rw [headersIn_append] at none
    rw [(append_eq_nil_iff.mp none).2] at mem
    cases mem
  · cases between with
    | nil =>
      rw [nil_append] at rest
      rw [← rest] at quiet
      change headersIn ([.called call] ++ after) = [] at quiet
      rw [headersIn_append] at quiet
      rw [(append_eq_nil_iff.mp quiet).2] at mem
      cases mem
    | cons event between =>
      rw [cons_append] at rest
      obtain ⟨same, tail⟩ := List.cons.inj rest
      rw [tail, headersIn_append, quiet, append_nil] at mem
      rw [← same] at old
      exact answered before call between old failed first header mem

lemma Answered.append_header {trace : List Event} {sent : ResponseHeader}
    (answered : Answered trace)
    (owed : headersIn trace = [] → (∃ call ∈ callsIn trace, call.failed = true) → sent.status = 500)
    (unanswered : ∀ header ∈ (headersIn trace).getLast?, header.status ≠ 500) :
    Answered (trace ++ [.header sent]) := by
  intro before call after split failed first header member
  rcases append_eq_append_iff.mp split with ⟨between, _, rest⟩ | ⟨between, earlier, rest⟩
  · cases between with
    | nil => cases rest
    | cons event between =>
      have impossible := (List.cons.inj rest).2
      simp at impossible
  · cases between with
    | nil => cases rest
    | cons event between =>
      rw [cons_append] at rest
      obtain ⟨same, tail⟩ := List.cons.inj rest
      rw [tail, headersIn_append] at member
      rw [← same] at earlier
      rcases mem_append.mp member with old | new
      · exact answered before call between earlier failed first header old
      · have here : header = sent := mem_singleton.mp new
        rw [here]
        have shape : headersIn trace = headersIn between := by
          rw [earlier]
          change headersIn (before ++ ([.called call] ++ between)) = _
          rw [headersIn_append, headersIn_append, first]
          rfl
        cases none : headersIn between with
        | nil =>
          apply owed (shape.trans none)
          refine ⟨call, ?_, failed⟩
          rw [earlier, callsIn_append]
          exact mem_append_right _ (mem_cons_self ..)
        | cons known others =>
          -- An answer has been written already, and it is final.
          have last := getLast?_eq_some_getLast (cons_ne_nil known others)
          have written : (headersIn trace).getLast? = some ((known :: others).getLast
              (cons_ne_nil known others)) := by
            rwa [shape, none]
          have status := answered before call between earlier failed first _
            (by rw [none]; exact getLast_mem (cons_ne_nil known others))
          exact absurd status (unanswered _ written)

variable {Handle Material State : Type}

def chainPlaces (proxy : Proxy Handle Material State) (world : World Handle Material State) :
    List Nat :=
  match world.context.selected with
  | none => []
  | some selected => unwindingPlaces (proxy.plugins selected.plugins).length

/-- The calls of the trace are a run of the chain of the selected route. -/
structure Sound (proxy : Proxy Handle Material State) (world : World Handle Material State) :
    Prop where
  unapplied : world.context.responsePluginsApplied = false → callsIn world.trace = []
  unwinds : Unwinds (chainPlaces proxy world) (callsIn world.trace)
  written : world.downstream.written = (headersIn world.trace).getLast?
  answered : Answered world.trace

/-- A failure before any header is to be answered with status 500. -/
structure Owes (world : World Handle Material State) : Prop where
  whole : world.downstream.broken = none
  unwritten : headersIn world.trace = []
  failed : ∃ call ∈ callsIn world.trace, call.failed = true

/-- Nothing is owed to the client. -/
def Settled (proxy : Proxy Handle Material State) (world : World Handle Material State) : Prop :=
  Sound proxy world ∧ ¬ Owes world

structure Untouched (world : World Handle Material State) : Prop where
  unapplied : world.context.responsePluginsApplied = false
  unwritten : world.downstream.written = none
  empty : world.trace = []

def Failure.Internal : Failure → Prop
  | .error cause => cause.Internal
  | .panic => True

/-- A failure that owes an answer is an internal one. -/
def Failing (proxy : Proxy Handle Material State) (failure : Failure)
    (world : World Handle Material State) : Prop :=
  Sound proxy world ∧ (Owes world → failure.Internal)

variable {proxy : Proxy Handle Material State} {world : World Handle Material State}
variable {header : ResponseHeader} {α β : Type} {pre : World Handle Material State → Prop}
  {result : Except PingoraError α} {library : HeaderLibrary} {trace : List Event}

lemma Untouched.settled (kept : Untouched world) : Settled proxy world := by
  constructor
  · constructor
    · intro _
      rw [kept.empty]
      rfl
    · rw [kept.empty]
      exact Unwinds.nil _
    · rw [kept.unwritten, kept.empty]
      rfl
    · rw [kept.empty]
      exact Answered.nil
  · intro owes
    obtain ⟨call, mem, _⟩ := owes.failed
    rw [kept.empty] at mem
    cases mem

lemma Settled.failing (settled : Settled proxy world)
    (err : Failure) : Failing proxy err world :=
  ⟨settled.1, fun owes => absurd owes settled.2⟩

lemma Untouched.failing (kept : Untouched world)
    (err : Failure) : Failing proxy err world :=
  kept.settled.failing err

lemma Sound.settled_of_written (sound : Sound proxy world)
    (written : world.downstream.written = some header) : Settled proxy world := by
  constructor
  · exact sound
  · intro owes
    have last := sound.written
    rw [owes.unwritten, written] at last
    cases last

lemma Sound.breakWith (sound : Sound proxy world)
    (error : PingoraError) : Settled proxy (world.breakWith error) := by
  constructor
  · exact ⟨sound.unapplied, sound.unwinds, sound.written, sound.answered⟩
  · intro owes
    have whole := owes.whole
    cases whole

lemma Sound.settled_of_broken (sound : Sound proxy world) {error : PingoraError}
    (broken : world.downstream.broken = some error) : Settled proxy world := by
  constructor
  · exact sound
  · intro owes
    have whole := owes.whole
    rw [broken] at whole
    cases whole

lemma Sound.sent (sound : Sound proxy world) (unfinished : world.downstream.final = false)
    (whole : world.downstream.broken = none) (owed : Owes world → header.status = 500) :
    Settled proxy (world.sent header) := by
  have calls : callsIn (world.sent header).trace = callsIn world.trace := by
    change callsIn (world.trace ++ [.header header]) = _
    rw [callsIn_append]
    exact append_nil _
  have headers : headersIn (world.sent header).trace = headersIn world.trace ++ [header] :=
    headersIn_append ..
  constructor
  · constructor
    · intro unapplied
      rw [calls]
      exact sound.unapplied unapplied
    · rw [calls]
      exact sound.unwinds
    · rw [headers, getLast?_concat]
      rfl
    · apply sound.answered.append_header
      · intro unwritten failed
        exact owed ⟨whole, unwritten, failed⟩
      · intro last mem status
        rw [← sound.written] at mem
        unfold Downstream.final at unfinished
        rw [mem, Option.any_some, isInformational, status] at unfinished
        cases unfinished
  · intro owes
    have unwritten := owes.unwritten
    rw [headers] at unwritten
    simp at unwritten

lemma Settled.body (settled : Settled proxy world) (bytes : Option (List UInt8)) :
    Settled proxy { world with trace := world.trace ++ [.body bytes] } := by
  have calls := callsIn_append_body world.trace bytes
  have headers := headersIn_append_body world.trace bytes
  obtain ⟨sound, unowing⟩ := settled
  constructor
  · constructor
    · intro unapplied
      rw [calls]
      exact sound.unapplied unapplied
    · rw [calls]
      exact sound.unwinds
    · rw [headers]
      exact sound.written
    · exact sound.answered.append_quiet rfl
  · intro owes
    apply unowing
    exact ⟨owes.whole, headers ▸ owes.unwritten, calls ▸ owes.failed⟩

lemma writeResponseHeader_meets (io : Io) (header : ResponseHeader) :
    Meets (fun world => Sound proxy world ∧ (Owes world → header.status = 500))
      (writeResponseHeader io header) (fun _ => Settled proxy) (fun _ => Settled proxy) := by
  unfold writeResponseHeader
  apply Meets.get_bind
  intro world holds
  obtain ⟨sound, owed⟩ := holds
  split
  · rename_i finished
    obtain ⟨last, written, _⟩ := (Option.any_eq_true _ _).mp finished
    exact sound.settled_of_written written
  · rename_i unfinished
    split
    · rename_i error broken
      exact sound.settled_of_broken broken
    · exact sound.breakWith _
    · rename_i whole _
      exact sound.sent (Bool.eq_false_of_not_eq_true unfinished) whole owed

lemma writeResponseBody_meets (io : Io) (bytes : Option (List UInt8)) :
    Meets (Settled proxy) (writeResponseBody io bytes) (fun _ => Settled proxy)
      (fun _ => Settled proxy) := by
  unfold writeResponseBody
  apply Meets.get_bind
  intro world settled
  split
  · exact settled
  · exact settled.1.breakWith _
  · exact settled.body bytes

lemma respondError_meets (io : Io) (status : UInt16) :
    Meets (fun world => Sound proxy world ∧ (Owes world → status = 500))
      (respondError proxy.library io status) (fun _ => Settled proxy) (fun _ => Settled proxy) := by
  unfold respondError
  apply Meets.bind
  · exact writeResponseHeader_meets io
      { status, headers := proxy.library.errorHeaders status }
  · intro _
    exact writeResponseBody_meets io none

def InternalErrors {α : Type} (result : Except PingoraError α) : Prop :=
  ∀ error, result = .error error → error.Internal

lemma mapError_internal {explanation : String → PingoraError}
    (internal : ∀ msg, (explanation msg).Internal) (result : Except String α) :
    InternalErrors (result.mapError explanation) := by
  intro error failed
  cases result with
  | ok value => cases failed
  | error msg =>
    cases failed
    exact internal msg

lemma explained_internal (ctx : String) (result : Except String α) :
    InternalErrors (explained ctx result) :=
  mapError_internal (fun _ => internalError_internal _) result

lemma InternalErrors.bind {next : α → Except PingoraError β} (first : InternalErrors result)
    (second : ∀ value, InternalErrors (next value)) : InternalErrors (result >>= next) := by
  intro error failed
  cases result with
  | error early =>
    cases failed
    exact first _ rfl
  | ok value => exact second value error failed

lemma InternalErrors.ok (value : α) : InternalErrors (.ok value) := by
  intro error failed
  cases failed

lemma InternalErrors.foldlM {step : β → α → Except PingoraError β}
    (each : ∀ cur item, InternalErrors (step cur item)) (items : List α) (start : β) :
    InternalErrors (items.foldlM step start) := by
  induction items generalizing start with
  | nil => exact InternalErrors.ok start
  | cons item rest ih =>
    rw [foldlM_cons]
    exact (each start item).bind ih

lemma buildResponse_internal (library : HeaderLibrary) (resp : LocalResponse) :
    InternalErrors (buildResponse library resp) := by
  apply (explained_internal _ _).bind
  intro _
  apply InternalErrors.bind
  · apply InternalErrors.foldlM
    intro headers entry
    exact (explained_internal _ _).bind fun _ => InternalErrors.ok _
  · intro headers
    exact InternalErrors.ok _

lemma buildResponse_status {resp : LocalResponse}
    (built : buildResponse library resp = .ok header) : header.status = resp.status := by
  obtain ⟨_, _, headers, _, built⟩ := bind₂_eq_ok.mp built
  cases built
  rfl

lemma finishResponse_internal (library : HeaderLibrary) (header : ResponseHeader)
    (body : List UInt8) : InternalErrors (finishResponse library header body) := by
  unfold finishResponse
  split
  · exact InternalErrors.ok _
  · exact (explained_internal _ _).bind fun _ => InternalErrors.ok _

lemma finishResponse_status {finished : ResponseHeader} {body : List UInt8}
    (built : finishResponse library header body = .ok finished) :
    finished.status = header.status := by
  unfold finishResponse at built
  split at built
  · cases built
    rfl
  · obtain ⟨_, _, built⟩ := bind_eq_ok.mp built
    cases built
    rfl

lemma attempt_meets (internal : InternalErrors result)
    (sound : ∀ world, pre world → Sound proxy world) :
    Meets pre (attempt result) (fun value world => result = .ok value ∧ pre world)
      (Failing proxy) := by
  apply Meets.ofExcept
  · intro value same world holds
    cases result with
    | error error => cases same
    | ok known =>
      cases same
      exact ⟨rfl, holds⟩
  · intro err same world holds
    cases result with
    | ok known => cases same
    | error error =>
      cases same
      exact ⟨sound world holds, fun _ => internal error rfl⟩

def World.afterChain (world : World Handle Material State) (run : ChainRun State) :
    World Handle Material State :=
  { world with
    context := { world.context with responsePluginsApplied := true, pluginState := run.state }
    trace := world.trace ++ run.calls.map Event.called }

lemma Sound.afterChain (sound : Sound proxy world)
    (unapplied : world.context.responsePluginsApplied = false) {selected : SelectedRoute Material}
    (chosen : world.context.selected = some selected) {run : ChainRun State}
    (describes : run.Describes (unwindingPlaces (proxy.plugins selected.plugins).length)) :
    Sound proxy (world.afterChain run) ∧ callsIn (world.afterChain run).trace = run.calls := by
  have none := sound.unapplied unapplied
  have calls : callsIn (world.afterChain run).trace = run.calls := by
    change callsIn (world.trace ++ run.calls.map Event.called) = _
    rw [callsIn_append, none, callsIn_map_called]
    rfl
  have headers : headersIn (world.afterChain run).trace = headersIn world.trace := by
    change headersIn (world.trace ++ run.calls.map Event.called) = _
    rw [headersIn_append, headersIn_map_called, append_nil]
  refine ⟨?_, calls⟩
  constructor
  · intro applied
    cases applied
  · have places : chainPlaces proxy (world.afterChain run) =
        unwindingPlaces (proxy.plugins selected.plugins).length := by
      simp only [chainPlaces, World.afterChain, chosen]
    rw [places, calls]
    exact describes.unwinds
  · rw [headers]
    exact sound.written
  · exact sound.answered.append_quiet (headersIn_map_called _)

lemma setContext_meets
    {change : ProxyContext Handle Material State → ProxyContext Handle Material State}
    {post : Unit → World Handle Material State → Prop}
    {fail : Failure → World Handle Material State → Prop}
    (here : ∀ world, pre world → post () { world with context := change world.context }) :
    Meets pre (setContext change) post fail :=
  Meets.modify here

lemma Sound.applied (sound : Sound proxy world)
    (unapplied : world.context.responsePluginsApplied = false) :
    Settled proxy { world with
      context := { world.context with responsePluginsApplied := true } } := by
  constructor
  · constructor
    · intro applied
      cases applied
    · exact sound.unwinds
    · exact sound.written
    · exact sound.answered
  · intro owes
    obtain ⟨call, mem, _⟩ := owes.failed
    rw [sound.unapplied unapplied] at mem
    cases mem

lemma applyResponsePlugins_meets (header : ResponseHeader) (owed : Prop) :
    Meets (fun world => Sound proxy world ∧ (Owes world → owed)) (applyResponsePlugins proxy header)
      (fun result world => Sound proxy world ∧ (Owes world → owed ∧ result = header))
      (Failing proxy) := by
  unfold applyResponsePlugins
  apply Meets.get_bind
  intro world holds
  obtain ⟨sound, owing⟩ := holds
  split
  · exact ⟨sound, fun owes => ⟨owing owes, rfl⟩⟩
  · rename_i notApplied
    have unapplied := Bool.eq_false_of_not_eq_true notApplied
    split
    · have settled := sound.applied unapplied
      exact ⟨settled.1, fun owes => absurd owes settled.2⟩
    · rename_i selected chosen
      have describes := runChain_describes (proxy.plugins selected.plugins)
        world.context.pluginState header.status header.headers
      generalize runChain (proxy.plugins selected.plugins) world.context.pluginState
        header.status header.headers = run at describes
      obtain ⟨after, calls⟩ := sound.afterChain unapplied chosen describes
      have result : InternalErrors run.result := fun err failed =>
        (describes.error err failed).1
      have status : InternalErrors ((proxy.library.setStatus run.status).mapError
          runtimeConfigError) := mapError_internal runtimeConfigError_internal _
      have sounds : ∀ current, current = world.afterChain run → Sound proxy current :=
        fun current same => same ▸ after
      have rest : Meets (fun current => current = world.afterChain run)
          (do
            attempt run.result
            attempt ((proxy.library.setStatus run.status).mapError runtimeConfigError)
            pure { status := run.status, headers := run.headers })
          (fun result current => Sound proxy current ∧ (Owes current → owed ∧ result = header))
          (Failing proxy) := by
        apply Meets.bind (attempt_meets result sounds)
        intro _
        apply Meets.bind (attempt_meets status fun current holds => sounds current holds.2)
        intro _
        apply Meets.pure
        intro current holds
        obtain ⟨_, succeeded, same⟩ := holds
        subst same
        refine ⟨after, fun owes => ?_⟩
        obtain ⟨call, mem, failed⟩ := owes.failed
        rw [calls] at mem
        rw [(describes.ok succeeded).1 call mem] at failed
        cases failed
      exact rest _ rfl

lemma writeRouteResponse_meets (io : Io) (resp : LocalResponse) :
    Meets (fun world => Sound proxy world ∧ (Owes world → resp.status = 500))
      (writeRouteResponse proxy io resp) (fun _ => Settled proxy) (Failing proxy) := by
  have settledFails : ∀ (err : Failure) (world : World Handle Material State),
      Settled proxy world → Failing proxy err world :=
    fun err world settled => settled.failing err
  unfold writeRouteResponse
  apply Meets.bind (attempt_meets (buildResponse_internal proxy.library resp)
    fun world holds => holds.1)
  intro header
  apply Meets.bind ((applyResponsePlugins_meets header (header.status = 500)).before
    fun world holds =>
      ⟨holds.2.1, fun owes => (buildResponse_status holds.1).trans (holds.2.2 owes)⟩)
  intro applied
  apply Meets.bind (attempt_meets (finishResponse_internal proxy.library applied
    resp.body) fun world holds => holds.1)
  intro finished
  apply Meets.bind (Meets.weaken (writeResponseHeader_meets io finished)
    (fun world holds => ⟨holds.2.1, fun owes => by
      rw [finishResponse_status holds.1, (holds.2.2 owes).2, (holds.2.2 owes).1]⟩)
    (fun _ _ holds => holds) settledFails)
  intro _
  apply Meets.get_bind
  intro world settled
  split
  · exact (writeResponseBody_meets io none world settled).weaken (fun _ _ holds => holds)
      settledFails
  · exact (writeResponseBody_meets io _ world settled).weaken (fun _ _ holds => holds)
      settledFails

lemma writeCachedResponse_meets (io : Io) (cached : Cache.CachedResponse) :
    Meets (Settled proxy) (writeCachedResponse proxy.library io cached)
      (fun _ => Settled proxy) (fun _ => Settled proxy) := by
  unfold writeCachedResponse
  apply Meets.bind
  · apply Meets.ofExcept
    · intro header _ world settled
      exact settled
    · intro err _ world settled
      exact settled
  · intro header
    apply Meets.bind
    · apply (writeResponseHeader_meets io header).before
      intro world settled
      exact ⟨settled.1, fun owes => absurd owes settled.2⟩
    · intro _
      exact writeResponseBody_meets io _

end Ngxora.Routing
