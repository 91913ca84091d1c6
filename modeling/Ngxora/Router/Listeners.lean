/-
What a router holds under one listener key: the fold of the contributions to that key.
-/

import Ngxora.Router.FromHttp

namespace Ngxora.Router

open Table List Results

structure ListenerCell where
  routes : Option VirtualHostRoutes := none
  protocol : Option ListenerProtocolConfig := none
  tls : Option ListenerTlsConfig := none

def cellAt (router : CompiledRouter) (key : ListenKey) : ListenerCell :=
  { routes := router.listeners.lookup key
    protocol := router.listenerProtocols.lookup key
    tls := router.listenerTls.lookup key }

/-- The parts that listen directives leave alone. -/
structure SameFrame (left right : CompiledRouter) : Prop where
  geoip : left.geoip = right.geoip
  scpProfiles : left.scpProfiles = right.scpProfiles
  upstreams : left.upstreams = right.upstreams
  httpOptions : left.httpOptions = right.httpOptions
  leConfig : left.leConfig = right.leConfig

lemma SameFrame.refl (router : CompiledRouter) : SameFrame router router :=
  ⟨rfl, rfl, rfl, rfl, rfl⟩

lemma SameFrame.trans {first second third : CompiledRouter} (left : SameFrame first second)
    (right : SameFrame second third) : SameFrame first third :=
  ⟨left.geoip.trans right.geoip, left.scpProfiles.trans right.scpProfiles,
    left.upstreams.trans right.upstreams, left.httpOptions.trans right.httpOptions,
    left.leConfig.trans right.leConfig⟩

namespace ListenerCell

/-- The contribution agrees with those before it. -/
def Accepts (cell : ListenerCell) (contribution : Contribution) : Prop :=
  (∀ config ∈ cell.protocol, config = protocolConfig contribution.listen) ∧
    (contribution.listen.ssl = true → ∀ tls ∈ cell.tls,
      tls.settings = ListenerTlsSettings.ofOptions contribution.tlsOptions)

def freshTls (contribution : Contribution) : ListenerTlsConfig :=
  { settings := ListenerTlsSettings.ofOptions contribution.tlsOptions }

def add (cell : ListenerCell) (contribution : Contribution) : ListenerCell :=
  { routes := some (addRoutes contribution (cell.routes.getD {}))
    protocol := some (cell.protocol.getD (protocolConfig contribution.listen))
    tls :=
      if contribution.listen.ssl then
        some (addTls contribution (cell.tls.getD (freshTls contribution)))
      else cell.tls }

end ListenerCell

variable {key : ListenKey} {router final : CompiledRouter} {cell : ListenerCell}
variable {parts : List Contribution} {part : Contribution}

lemma mergeListenerProtocols_eq_ok {protocols merged : Table ListenKey ListenerProtocolConfig}
    {listen : Listen} (ok : mergeListenerProtocols protocols key listen = .ok merged) :
    (∀ config ∈ protocols.lookup key, config = protocolConfig listen) ∧
      ∀ other, merged.lookup other =
        if other = key then some ((protocols.lookup key).getD (protocolConfig listen))
        else protocols.lookup other := by
  unfold mergeListenerProtocols at ok
  cases found : protocols.lookup key with
  | none =>
    rw [found] at ok
    cases ok
    refine ⟨by simp, fun other => ?_⟩
    rw [lookup_insert_eq]
    rfl
  | some cur =>
    rw [found] at ok
    obtain ⟨_, agrees, same⟩ := bind_eq_ok.mp ok
    cases same
    refine ⟨by simpa using agrees, fun other => ?_⟩
    by_cases here : other = key
    · rw [if_pos here, here, found]
      rfl
    · rw [if_neg here]

lemma mergeListenerTlsSettings_eq_ok
    {listenerTls merged : Table ListenKey ListenerTlsConfig} {options : DownstreamTlsOptions}
    (ok : mergeListenerTlsSettings listenerTls key options = .ok merged) :
    (∀ tls ∈ listenerTls.lookup key, tls.settings = ListenerTlsSettings.ofOptions options) ∧
      ∀ other, merged.lookup other =
        if other = key then some ((listenerTls.lookup key).getD
          { settings := ListenerTlsSettings.ofOptions options })
        else listenerTls.lookup other := by
  unfold mergeListenerTlsSettings at ok
  cases found : listenerTls.lookup key with
  | none =>
    rw [found] at ok
    cases ok
    refine ⟨by simp, fun other => ?_⟩
    rw [lookup_insert_eq]
    rfl
  | some cur =>
    rw [found] at ok
    obtain ⟨_, agrees, same⟩ := bind_eq_ok.mp ok
    cases same
    refine ⟨by simpa using agrees, fun other => ?_⟩
    by_cases here : other = key
    · rw [if_pos here, here, found]
      rfl
    · rw [if_neg here]

lemma addListen_eq_ok {next : CompiledRouter} (ok : addListen router part = .ok next) :
    (cellAt router part.key).Accepts part ∧ SameFrame router next ∧
      ∀ key, cellAt next key =
        if key = part.key then (cellAt router key).add part
        else cellAt router key := by
  unfold addListen at ok
  obtain ⟨protocols, protocolsOk, ok⟩ := bind_eq_ok.mp ok
  obtain ⟨protocolAgrees, protocolLookup⟩ := mergeListenerProtocols_eq_ok protocolsOk
  by_cases ssl : part.listen.ssl = true
  · simp only [ssl, if_true] at ok
    obtain ⟨listenerTls, tlsOk, same⟩ := bind_eq_ok.mp ok
    obtain ⟨settingsAgree, tlsLookup⟩ := mergeListenerTlsSettings_eq_ok tlsOk
    cases same
    refine ⟨⟨protocolAgrees, fun _ => settingsAgree⟩, ⟨rfl, rfl, rfl, rfl, rfl⟩, ?_⟩
    intro key
    simp only [cellAt, lookup_insert_eq, protocolLookup, tlsLookup, if_true, Option.getD_some]
    by_cases here : key = part.key
    · subst here
      simp [ListenerCell.add, ssl, ListenerCell.freshTls]
    · simp [here]
  · simp only [ssl, if_false, Bool.false_eq_true] at ok
    cases ok
    refine ⟨⟨protocolAgrees, fun isSsl => absurd isSsl ssl⟩, ⟨rfl, rfl, rfl, rfl, rfl⟩, ?_⟩
    intro key
    simp only [cellAt, lookup_insert_eq, protocolLookup]
    by_cases here : key = part.key
    · subst here
      simp [ListenerCell.add, ssl]
    · simp [here]

def contributionsAt (key : ListenKey) (contributions : List Contribution) : List Contribution :=
  contributions.filter fun contribution => contribution.key = key

lemma addListens_frame (ok : parts.foldlM addListen router = .ok final) :
    SameFrame router final := by
  refine foldlM_invariant (SameFrame router) (SameFrame.refl router) ?_ ok
  intro cur part next _ frame stepOk
  exact frame.trans (addListen_eq_ok stepOk).2.1

lemma cellAt_addListens (ok : parts.foldlM addListen router = .ok final) (key : ListenKey) :
    cellAt final key =
      (contributionsAt key parts).foldl ListenerCell.add (cellAt router key) := by
  induction parts generalizing router with
  | nil =>
    rw [foldlM_nil_eq_ok] at ok
    subst ok
    rfl
  | cons part rest ih =>
    obtain ⟨next, stepOk, restOk⟩ := foldlM_cons_eq_ok.mp ok
    rw [ih restOk, (addListen_eq_ok stepOk).2.2 key, contributionsAt, contributionsAt]
    by_cases here : part.key = key
    · rw [filter_cons_of_pos (by simpa using here), if_pos here.symm]
      rfl
    · rw [filter_cons_of_neg (by simpa using here), if_neg (Ne.symm here)]

@[simp]
lemma addTls_settings (part : Contribution) (tls : ListenerTlsConfig) :
    (addTls part tls).settings = tls.settings := by
  unfold addTls
  cases part.identity <;> rfl

lemma foldl_add_protocol {config : ListenerProtocolConfig} (found : cell.protocol = some config) :
    (parts.foldl ListenerCell.add cell).protocol = some config := by
  refine List.foldlRecOn (motive := (ListenerCell.protocol · = some config)) parts _ found
    fun cell found _ _ => ?_
  simp [ListenerCell.add, found]

lemma foldl_add_settings {settings : ListenerTlsSettings}
    (found : cell.tls.map ListenerTlsConfig.settings = some settings) :
    (parts.foldl ListenerCell.add cell).tls.map ListenerTlsConfig.settings =
      some settings := by
  refine List.foldlRecOn (motive := fun (cell : ListenerCell) => cell.tls.map ListenerTlsConfig.settings =
    some settings) parts _ found fun cell found part _ => ?_
  obtain ⟨tls, cur, same⟩ := Option.map_eq_some_iff.mp found
  by_cases ssl : part.listen.ssl = true
  · simp [ListenerCell.add, ssl, cur, same]
  · simp [ListenerCell.add, ssl, cur, same]

lemma settings_of_addListens (ok : parts.foldlM addListen router = .ok final)
    (mem : part ∈ parts) :
    (cellAt final part.key).protocol = some (protocolConfig part.listen) ∧
      (part.listen.ssl = true →
        (cellAt final part.key).tls.map ListenerTlsConfig.settings =
          some (ListenerTlsSettings.ofOptions part.tlsOptions)) := by
  induction parts generalizing router with
  | nil => cases mem
  | cons first rest ih =>
    obtain ⟨next, stepOk, restOk⟩ := foldlM_cons_eq_ok.mp ok
    rcases mem_cons.mp mem with same | later
    · subst same
      obtain ⟨accepts, _, cells⟩ := addListen_eq_ok stepOk
      have here := cells part.key
      rw [if_pos rfl] at here
      rw [cellAt_addListens restOk]
      refine ⟨foldl_add_protocol ?_, fun ssl => foldl_add_settings ?_⟩
      · rw [here]
        cases cur : (cellAt router part.key).protocol with
        | none => simp [ListenerCell.add, cur]
        | some config => simp [ListenerCell.add, cur, accepts.1 config cur]
      · rw [here]
        cases cur : (cellAt router part.key).tls with
        | none => simp [ListenerCell.add, ssl, cur, ListenerCell.freshTls]
        | some tls => simp [ListenerCell.add, ssl, cur, accepts.2 ssl tls cur]
    · exact ih restOk later

end Ngxora.Router
