/-
The virtual hosts a listener is exported to.
-/

import Ngxora.Grpc.Encode

namespace Ngxora.Grpc

open Slots Table List Results

/-- The virtual host has the routes and the certificate of the name. -/
structure HostServes (platform : Platform) (tls : Option ListenerTlsConfig) (name : String)
    (routes : ServerRoutes) (host : Proto.VirtualHost) : Prop where
  routes : protoRoutesFromRuntime platform routes = .ok host.routes
  tls : host.tls = (hostIdentity tls name).map protoTlsBindingFromRuntime

/-- A named host joins the first virtual host with its routes and certificate. -/
structure NamedHosts (platform : Platform) (listener : String) (tls : Option ListenerTlsConfig)
    (done : List (Sigma fun _ : String => ServerRoutes)) (hosts : List Proto.VirtualHost) :
    Prop where
  listener : ∀ host ∈ hosts, host.listener = listener
  unmarked : ∀ host ∈ hosts, host.defaultServer = false ∧ host.serverNames ≠ []
  sound : ∀ host ∈ hosts, ∀ name ∈ host.serverNames, ∃ routes,
    (⟨name, routes⟩ : Sigma fun _ : String => ServerRoutes) ∈ done ∧
      HostServes platform tls name routes host
  complete : ∀ entry ∈ done, ∃ host ∈ hosts, entry.1 ∈ host.serverNames
  first : ∀ entry, done.head? = some entry → ∃ host, hosts.head? = some host ∧
    entry.1 ∈ host.serverNames

lemma NamedHosts.nil (platform : Platform) (listener : String)
    (tls : Option ListenerTlsConfig) : NamedHosts platform listener tls [] [] where
  listener := by simp
  unmarked := by simp
  sound := by simp
  complete := by simp
  first := by simp

variable {name : String} {routes : VirtualHostRoutes}

lemma mem_sorted_names {names : List String} {added : String} :
    name ∈ (names ++ [added]).insertionSort Names.le ↔ name ∈ names ∨ name = added := by
  rw [mem_insertionSort, mem_append, mem_singleton]

variable {platform : Platform} {tls : Option ListenerTlsConfig} {listener : String}
  {hosts : List Proto.VirtualHost}

lemma HostServes.later {routes : ServerRoutes} {host : Proto.VirtualHost}
    (serves : HostServes platform tls name routes host) (serverNames : List String)
    (defaultServer : Bool) : HostServes platform tls name routes
      { host with serverNames, defaultServer } :=
  ⟨serves.routes, serves.tls⟩

lemma NamedHosts.push {done : List (Sigma fun _ : String => ServerRoutes)}
    {next : List Proto.VirtualHost} (before : NamedHosts platform listener tls done hosts)
    {entry : Sigma fun _ : String => ServerRoutes}
    (pushed : pushNamedHost platform listener tls hosts entry = .ok next) :
    NamedHosts platform listener tls (done ++ [entry]) next := by
  obtain ⟨routes, routesOk, same⟩ := bind_eq_ok.mp pushed
  cases same
  have entryDone : (⟨entry.1, entry.2⟩ : Sigma fun _ : String => ServerRoutes) ∈
      done ++ [entry] := mem_append_right _ (mem_singleton.mpr rfl)
  constructor
  case listener =>
    exact forall_updateFirst before.listener (fun host mem _ => before.listener host mem) rfl
  case unmarked =>
    refine forall_updateFirst before.unmarked (fun host mem _ => ?_) ⟨rfl, by simp⟩
    refine ⟨(before.unmarked host mem).1, ne_nil_of_mem (a := entry.1) ?_⟩
    exact mem_sorted_names.mpr (.inr rfl)
  case sound =>
    refine forall_updateFirst (fun host mem name inNames => ?_)
      (fun host mem matching name inNames => ?_) ?_
    · obtain ⟨src, inDone, serves⟩ := before.sound host mem name inNames
      exact ⟨src, mem_append_left _ inDone, serves⟩
    · rcases mem_sorted_names.mp inNames with old | added
      · obtain ⟨src, inDone, serves⟩ := before.sound host mem name old
        exact ⟨src, mem_append_left _ inDone, serves.later _ _⟩
      · obtain ⟨_, _, tlsEq, routesEq⟩ := of_decide_eq_true matching
        rw [added]
        exact ⟨entry.2, entryDone, routesEq ▸ routesOk, tlsEq⟩
    · intro name inNames
      rw [mem_singleton.mp inNames]
      exact ⟨entry.2, entryDone, routesOk, rfl⟩
  case complete =>
    intro other mem
    rcases mem_append.mp mem with old | added
    · refine exists_updateFirst (fun host here => ?_) (before.complete other old)
      exact mem_sorted_names.mpr (.inl here)
    · rw [mem_singleton.mp added]
      refine exists_updateFirst_new (fun host => ?_) (mem_singleton.mpr rfl)
      exact mem_sorted_names.mpr (.inr rfl)
  case first =>
    intro other found
    rw [head?_updateFirst]
    cases done with
    | nil =>
      have same : entry = other := Option.some.inj found
      subst same
      cases shape : hosts.head? with
      | none => exact ⟨_, rfl, mem_singleton.mpr rfl⟩
      | some host =>
        obtain ⟨name, inNames⟩ := exists_mem_of_ne_nil _
          (before.unmarked host (mem_of_mem_head? shape)).2
        obtain ⟨_, bad, _⟩ := before.sound host (mem_of_mem_head? shape) name inNames
        cases bad
    | cons head rest =>
      obtain ⟨host, hostFirst, inNames⟩ := before.first other found
      rw [hostFirst]
      refine ⟨_, rfl, ?_⟩
      split
      · exact mem_sorted_names.mpr (.inl inNames)
      · exact inNames

/-- The default host comes last. -/
structure HostsOf (platform : Platform) (listener : String) (routes : VirtualHostRoutes)
    (tls : Option ListenerTlsConfig) (hosts : List Proto.VirtualHost) : Prop where
  listener : ∀ host ∈ hosts, host.listener = listener
  named : ∀ host ∈ hosts, ∀ name ∈ host.serverNames, ∃ source,
    routes.named.lookup name = some source ∧ HostServes platform tls name source host
  covered : ∀ name source, routes.named.lookup name = some source →
    ∃ host ∈ hosts, name ∈ host.serverNames
  marked : ∀ host ∈ hosts, host.defaultServer = true → ∃ source, routes.default = some source ∧
    protoRoutesFromRuntime platform source = .ok host.routes ∧
    host.tls = (tls.bind ListenerTlsConfig.default).map protoTlsBindingFromRuntime
  unnamed : ∀ host ∈ hosts, host.serverNames = [] → host.defaultServer = true
  defaulted : ∀ source, routes.default = some source → ∃ host ∈ hosts, host.defaultServer = true
  /-- Without a default host the first virtual host has the least name. -/
  first : routes.default = none → ∀ host, hosts.head? = some host →
    ∃ name ∈ host.serverNames, ∀ other ∈ routes.named, name ≤ other

lemma namedHosts_of_fold (pushed : (Table.sortedEntries Names.le routes.named).foldlM
      (pushNamedHost platform listener tls) [] = .ok hosts) :
    NamedHosts platform listener tls (Table.sortedEntries Names.le routes.named) hosts :=
  foldlM_prefix_invariant (NamedHosts platform listener tls) (NamedHosts.nil platform listener tls)
    (fun _ _ _ _ _ before stepOk => before.push stepOk) pushed

lemma hostsOf_of_encode
    (encoded : protoVirtualHostsFromRuntime platform listener routes tls = .ok hosts) :
    HostsOf platform listener routes tls hosts := by
  obtain ⟨named, namedOk, encoded⟩ := bind_eq_ok.mp encoded
  have namedHosts := namedHosts_of_fold namedOk
  have sound : ∀ host ∈ named, ∀ name ∈ host.serverNames, ∃ src,
      routes.named.lookup name = some src ∧ HostServes platform tls name src host := by
    intro host mem name inNames
    obtain ⟨src, inEntries, serves⟩ := namedHosts.sound host mem name inNames
    exact ⟨src, (mem_sortedEntries Names.le).mp inEntries, serves⟩
  have covered : ∀ name src, routes.named.lookup name = some src →
      ∃ host ∈ named, name ∈ host.serverNames := by
    intro name src found
    exact namedHosts.complete ⟨name, src⟩ ((mem_sortedEntries Names.le).mpr found)
  cases defaultHost : routes.default with
  | none =>
    rw [defaultHost] at encoded
    cases encoded
    refine ⟨namedHosts.listener, sound, covered, ?_, ?_, by simp [defaultHost], ?_⟩
    · intro host mem isMarked
      rw [(namedHosts.unmarked host mem).1] at isMarked
      cases isMarked
    · intro host mem noNames
      exact absurd noNames (namedHosts.unmarked host mem).2
    · intro _ host hostFirst
      cases shape : (Table.sortedEntries Names.le routes.named).head? with
      | none =>
        obtain ⟨name, inNames⟩ := exists_mem_of_ne_nil _
          (namedHosts.unmarked host (mem_of_mem_head? hostFirst)).2
        obtain ⟨_, inEntries, _⟩ := namedHosts.sound host (mem_of_mem_head? hostFirst) name inNames
        rw [head?_eq_none_iff.mp shape] at inEntries
        cases inEntries
      | some entry =>
        obtain ⟨found, foundFirst, inNames⟩ := namedHosts.first entry shape
        have same : found = host := Option.some.inj (foundFirst.symm.trans hostFirst)
        refine ⟨entry.1, same ▸ inNames, fun other here => ?_⟩
        obtain ⟨src, sourceFound⟩ := mem_iff_lookup.mp here
        exact head_sortedEntries_le Names.le shape ((mem_sortedEntries Names.le).mpr sourceFound)
  | some defaultRoutes =>
    rw [defaultHost] at encoded
    obtain ⟨protoRoutes, routesOk, same⟩ := bind_eq_ok.mp encoded
    cases same
    constructor
    case listener =>
      exact forall_updateFirst namedHosts.listener
        (fun host mem _ => namedHosts.listener host mem) rfl
    case named =>
      refine forall_updateFirst sound (fun host mem _ name inNames => ?_) (by simp)
      obtain ⟨src, found, serves⟩ := sound host mem name inNames
      exact ⟨src, found, serves.later _ _⟩
    case covered =>
      intro name src found
      exact exists_updateFirst (fun _ here => here) (covered name src found)
    case marked =>
      refine forall_updateFirst (fun host mem isMarked => ?_)
        (fun host _ matching _ => ?_) fun _ => ⟨defaultRoutes, defaultHost, routesOk, rfl⟩
      · rw [(namedHosts.unmarked host mem).1] at isMarked
        cases isMarked
      · obtain ⟨_, routesEq, tlsEq⟩ := of_decide_eq_true matching
        exact ⟨defaultRoutes, defaultHost, routesEq ▸ routesOk, tlsEq⟩
    case unnamed =>
      refine forall_updateFirst (fun host mem noNames => ?_) (fun _ _ _ _ => rfl)
        fun _ => rfl
      exact absurd noNames (namedHosts.unmarked host mem).2
    case defaulted =>
      intro _ _
      exact exists_updateFirst_new (fun _ => rfl) rfl
    case first =>
      intro absent
      rw [defaultHost] at absent
      cases absent

end Ngxora.Grpc
