/-
The requests of a weighted route.
-/

import Ngxora.Routing.Selection

namespace Ngxora.Routing

open List Control Http Net Results Router

structure BackendCall where
  routeId : UInt64
  target : RouteTarget
  session : Session
  clientIp : Option IpAddr := none

structure BackendAnswer where
  call : BackendCall
  ticket : UInt64
  result : Except SelectionError SelectedTarget

section Serving

variable {Handle Material : Type} (groups : RuntimeGroups Handle)
  (snapshot : RuntimeSnapshot Handle Material)

def answersOf (routeId : UInt64) : Table UInt64 UInt64 → List BackendCall → List BackendAnswer
  | _, [] => []
  | counters, call :: rest =>
    let served := selectBackendTarget groups snapshot counters call.routeId call.target
      call.session call.clientIp
    let later := answersOf routeId served.1 rest
    if call.routeId = routeId then
      { call, ticket := (counters.lookup routeId).getD 0, result := served.2 } :: later
    else later

/-- The number taken from the counter of the route alone decides the backend. -/
def selectedPlace (backends : List CompiledWeightedBackend) (ticket : UInt64) : Option Nat :=
  Shares.place (ticket % totalWeight backends).toNat (weightsOf backends)

variable {backends : List CompiledWeightedBackend} {routeId start : UInt64}
  {counters : Table UInt64 UInt64}

lemma selectBackendTarget_weighted (pos : totalWeight backends ≠ 0)
    (found : counters.lookup routeId = some start) (session : Session) (ip : Option IpAddr) :
    ∃ index backend, selectedPlace backends start = some index ∧
      backends[index]? = some backend ∧ 0 < backend.weight.toNat ∧
      selectBackendTarget groups snapshot counters routeId (.weightedBackends backends) session
          ip = (counters.insert routeId (start + 1),
          selectActionTarget groups snapshot session ip backend.target) := by
  obtain ⟨index, backend, chosen, here, heavy, target⟩ := exists_chosen pos start
  refine ⟨index, backend, chosen, here, heavy, ?_⟩
  simp only [selectBackendTarget, if_neg pos, found, target, orFail_some, ok_bind]

lemma lookup_selectBackendTarget {groups : RuntimeGroups Handle}
    {snapshot : RuntimeSnapshot Handle Material} {call : BackendCall}
    (other : call.routeId ≠ routeId) :
    (selectBackendTarget groups snapshot counters call.routeId call.target call.session
      call.clientIp).1.lookup routeId = counters.lookup routeId := by
  unfold selectBackendTarget
  split
  · rfl
  · simp only
    split
    · rfl
    · split
      · rfl
      · exact AList.lookup_insert_ne (Ne.symm other)

lemma answersOf_spec (pos : totalWeight backends ≠ 0) {calls : List BackendCall}
    (routed : ∀ call ∈ calls, call.routeId = routeId → call.target = .weightedBackends backends)
    (found : counters.lookup routeId = some start) :
    (∀ place answer, (answersOf groups snapshot routeId counters calls)[place]? = some answer →
        answer.ticket = start + UInt64.ofNat place) ∧
      ∀ answer ∈ answersOf groups snapshot routeId counters calls,
        ∃ index backend, selectedPlace backends answer.ticket = some index ∧
          backends[index]? = some backend ∧ 0 < backend.weight.toNat ∧
          answer.result = selectActionTarget groups snapshot answer.call.session
            answer.call.clientIp backend.target := by
  induction calls generalizing counters start with
  | nil => simp [answersOf]
  | cons call rest ih =>
    rw [forall_mem_cons] at routed
    rw [answersOf]
    by_cases here : call.routeId = routeId
    · rcases selectBackendTarget_weighted groups snapshot pos found call.session
        call.clientIp with ⟨index, backend, chosen, present, heavy, served⟩
      rw [← here, ← routed.1 here, here] at served
      simp only [here, served, found, if_true, Option.getD_some]
      obtain ⟨tickets, results⟩ := ih routed.2 (AList.lookup_insert counters)
      constructor
      · intro place answer at_
        cases place with
        | zero =>
          cases at_
          simp
        | succ place =>
          rw [tickets place answer at_, Nat.succ_eq_add_one, UInt64.ofNat_add, UInt64.add_assoc,
            UInt64.add_comm 1]
          rfl
      · rw [forall_mem_cons]
        exact ⟨⟨index, backend, chosen, present, heavy, rfl⟩, results⟩
    · simp only [here, if_false]
      exact ih routed.2 ((lookup_selectBackendTarget here).trans found)

lemma count_selectedPlace (pos : totalWeight backends ≠ 0) {first : UInt64}
    (window : first.toNat + (weightsOf backends).sum ≤ 2 ^ 64) {index : Nat}
    {backend : CompiledWeightedBackend} (here : backends[index]? = some backend) :
    Nat.count (fun step => selectedPlace backends (first + UInt64.ofNat step) = some index)
      (weightsOf backends).sum = backend.weight.toNat := by
  have total : (totalWeight backends).toNat = (weightsOf backends).sum := by
    have modulo := totalWeight_toNat backends
    have nonzero : (totalWeight backends).toNat ≠ 0 := fun zero => pos (UInt64.toNat_inj.mp zero)
    omega
  have weight : (weightsOf backends)[index]? = some backend.weight.toNat := by
    rw [weightsOf, getElem?_map, here, Option.map_some]
  refine Eq.trans (countP_congr fun step mem => ?_)
    (Shares.count_place_turn weight first.toNat)
  have below := mem_range.mp mem
  have slot : (first + UInt64.ofNat step).toNat = first.toNat + step := by
    rw [UInt64.toNat_add, UInt64.toNat_ofNat', Nat.mod_eq_of_lt (show step < 2 ^ 64 by omega),
      Nat.mod_eq_of_lt (by omega)]
  simp only [selectedPlace, UInt64.toNat_mod, slot, total]

/-- Every request of the route gets a backend with a weight, and among as many consecutive
requests as the total weight, every backend gets as many as its weight. -/
theorem weighted_backends_exact {Handle Material : Type} (groups : RuntimeGroups Handle)
    (snapshot : RuntimeSnapshot Handle Material) {backends : List CompiledWeightedBackend}
    (positive : totalWeight backends ≠ 0) {counters : Table UInt64 UInt64} {routeId start : UInt64}
    (found : counters.lookup routeId = some start) {calls : List BackendCall}
    (routed : ∀ call ∈ calls, call.routeId = routeId → call.target = .weightedBackends backends) :
    (∀ answer ∈ answersOf groups snapshot routeId counters calls,
      ∃ index backend, selectedPlace backends answer.ticket = some index ∧
        backends[index]? = some backend ∧ 0 < backend.weight.toNat ∧
        answer.result = selectActionTarget groups snapshot answer.call.session
          answer.call.clientIp backend.target) ∧
    ∀ before window after, answersOf groups snapshot routeId counters calls =
        before ++ window ++ after →
      window.length = (weightsOf backends).sum →
      (∀ first ∈ window.head?, first.ticket.toNat + window.length ≤ 2 ^ 64) →
      ∀ index backend, backends[index]? = some backend →
        (window.countP fun answer => selectedPlace backends answer.ticket = some index) =
          backend.weight.toNat := by
  rcases answersOf_spec groups snapshot positive routed found with ⟨tickets, results⟩
  refine ⟨results, fun before window after split whole noWrap index backend present => ?_⟩
  have drawn : window.map BackendAnswer.ticket = (List.range (weightsOf backends).sum).map
      fun step => start + UInt64.ofNat before.length + UInt64.ofNat step := by
    refine ext_getElem (by simp [whole]) fun place inside _ => ?_
    rw [length_map] at inside
    rw [getElem_map, getElem_map, getElem_range, UInt64.add_assoc, ← UInt64.ofNat_add]
    apply tickets (before.length + place)
    rw [split, append_assoc, getElem?_append_right (Nat.le_add_right ..),
      Nat.add_sub_cancel_left, getElem?_append_left inside, getElem?_eq_getElem inside]
  cases window with
  | nil =>
    have empty := totalWeight_toNat backends
    rw [← whole] at empty
    exact absurd (UInt64.toNat_inj.mp empty) positive
  | cons first rest =>
    have firstTicket : first.ticket = start + UInt64.ofNat before.length := by
      have sameHead := congrArg List.head? drawn
      rw [map_cons, head?_cons, head?_map, head?_range, if_neg (by rw [← whole]; simp)] at sameHead
      simpa using sameHead
    have counted := count_selectedPlace positive (whole ▸ noWrap first rfl) present
    rw [firstTicket] at counted
    have mapped : ((first :: rest).map BackendAnswer.ticket).countP (fun ticket =>
        decide (selectedPlace backends ticket = some index)) = _ := countP_map
    rw [drawn, countP_map] at mapped
    exact mapped.symm.trans counted

end Serving

namespace TwoBackends

def backends : List CompiledWeightedBackend :=
  [{ weight := 1, target := .directResponse 200 }, { weight := 2, target := .directResponse 204 }]

def calls : List BackendCall :=
  List.replicate 3
    { routeId := 1, target := .weightedBackends backends, session := AliasRequest.session }

def snapshot : RuntimeSnapshot Unit Unit :=
  { backendCounters := AList.singleton 1 0, generation := 1, version := "v1", router := {} }

end TwoBackends

open TwoBackends in
theorem three_requests_shared :
    ((answersOf AliasRequest.groups snapshot 1 snapshot.backendCounters calls).countP
      fun answer => selectedPlace backends answer.ticket = some 1) = 2 := by
  have weights : totalWeight backends ≠ 0 := by decide +kernel
  have routed : ∀ call ∈ calls, call.routeId = 1 → call.target = .weightedBackends backends := by
    intro call member _
    rw [eq_of_mem_replicate member]
  exact (weighted_backends_exact AliasRequest.groups snapshot weights
    (show snapshot.backendCounters.lookup 1 = some 0 by decide +kernel) routed).2 [] _ []
      (append_nil _).symm (by decide +kernel) (by decide +kernel) 1 _ rfl

end Ngxora.Routing
