/-
From a configured host to the peer of a request, which depends on how the URL or the server entry is
read.
-/

import Ngxora.Config.UpstreamBlocks
import Ngxora.Grpc.Decode
import Ngxora.Routing.Weighted

namespace Ngxora.Routing

open Control Grpc Http Net Results Router

def directUrl (scheme host : String) (port : UInt16) : Url :=
  { scheme, host := some host, path := "/"
    port := if Url.knownDefaultPort scheme = some port then none else some port }

/-- The URL of the upstream is read as its host and port. -/
structure Addresses (platform : Platform) (upstream : Proto.Upstream) (host : String)
    (port : UInt16) : Prop where
  sameNumber : port.toNat = upstream.port.toNat
  parsed : platform.urlParse
      (upstream.scheme ++ "://" ++ upstream.host ++ ":" ++ toString upstream.port.toNat) =
    .ok (directUrl upstream.scheme host port)

/-- The target becomes the action, alone and as a weighted backend. -/
structure Gives (upstreams : UpstreamTable) (target : ProxyPassTarget) (action : ActionTarget) :
    Prop where
  route : routeTargetFromDirective upstreams (.proxyPass target) = .ok (some (.action action))
  backend : ∀ weight : UInt32, weight ≤ 1000000 →
    compileWeightedBackend upstreams { weight, target := .upstream target } =
      .ok { weight, target := action }

section Direct

variable {platform : Platform} {upstreams : UpstreamTable} {upstream : Proto.Upstream}
  {target : ProxyPassTarget} {action : ActionTarget} {host : String} {port : UInt16}

private lemma gives_iff :
    Gives upstreams target action ↔ proxyPassTarget upstreams target = .ok (some action) := by
  constructor
  · intro gives
    obtain ⟨built, found, same⟩ := map_eq_ok.mp gives.route
    cases built <;> cases same
    exact found
  · intro found
    refine ⟨by simp [routeTargetFromDirective, found], fun weight small => ?_⟩
    simp [compileWeightedBackend, backendTarget, found, UInt32.not_lt.mpr small]

private lemma url_of_decoded (noGroup : Text.isBlank upstream.upstreamGroup = true)
    (decoded : proxyPassTargetFromProto platform upstream = .ok target) :
    (∃ tls, proxyPassTls upstream.scheme = some tls) ∧ ∃ url, target = .url url ∧ platform.urlParse
        (upstream.scheme ++ "://" ++ upstream.host ++ ":" ++ toString upstream.port.toNat) =
          .ok url := by
  obtain ⟨tls, schemeOk, decoded⟩ := bind_eq_ok.mp decoded
  have scheme : proxyPassTls upstream.scheme = some tls := by
    unfold upstreamScheme at schemeOk
    unfold proxyPassTls
    grind
  simp only [noGroup, Bool.not_true, Bool.and_false, rejectIf_false, ok_bind, Bool.false_eq_true,
    if_false] at decoded
  obtain ⟨_, _, _, _, decoded⟩ := bind₂_eq_ok.mp decoded
  refine ⟨⟨tls, scheme⟩, ?_⟩
  cases parsed : platform.urlParse _ with
  | error msg =>
    rw [parsed] at decoded
    cases decoded
  | ok url =>
    rw [parsed] at decoded
    exact ⟨url, (Except.ok.inj decoded).symm, rfl⟩

private lemma proxyPassTarget_directUrl {scheme : String} {tls : Bool}
    (http : proxyPassTls scheme = some tls) :
    proxyPassTarget upstreams (.url (directUrl scheme host port)) =
        .ok (some (.proxyPass host port tls (proxyPassSni host tls))) ↔
      ¬(Url.knownDefaultPort scheme = some port ∧
        (upstreams.lookup (normalizeUpstreamName host)).isSome = true) := by
  have known : (directUrl scheme host port).portOrKnownDefault = some port := by
    unfold directUrl Url.portOrKnownDefault
    split
    next dropped => exact dropped
    next => rfl
  have group : upstreamGroupFromUrl (directUrl scheme host port) upstreams =
      if Url.knownDefaultPort scheme = some port then
        upstreams.lookup (normalizeUpstreamName host) else none := by
    by_cases dropped : Url.knownDefaultPort scheme = some port <;>
      simp [upstreamGroupFromUrl, directUrl, dropped]
  simp only [proxyPassTarget, group, known]
  by_cases dropped : Url.knownDefaultPort scheme = some port
  · cases found : upstreams.lookup (normalizeUpstreamName host) with
    | none => simp [directUrl, http, dropped]
    | some group => simp [directUrl, http, dropped, bind_eq_ok]
  · simp [directUrl, http, dropped]

/-- A host and a port stay a direct target exactly when the `url` crate reads
them as such and the port is not the one of the scheme next to a group of that name. -/
theorem direct_upstream_kept_iff (noGroup : Text.isBlank upstream.upstreamGroup = true)
    (decoded : proxyPassTargetFromProto platform upstream = .ok target) :
    (∃ host port tls, Addresses platform upstream host port ∧
        proxyPassTls upstream.scheme = some tls ∧
        Gives upstreams target (.proxyPass host port tls (proxyPassSni host tls))) ↔
      ∃ host port, Addresses platform upstream host port ∧
        ¬(Url.knownDefaultPort upstream.scheme = some port ∧
          (upstreams.lookup (normalizeUpstreamName host)).isSome = true) := by
  obtain ⟨⟨tls, http⟩, url, rfl, parsed⟩ := url_of_decoded noGroup decoded
  have same : ∀ {host port}, Addresses platform upstream host port →
      url = directUrl upstream.scheme host port :=
    fun addresses => Except.ok.inj (parsed.symm.trans addresses.parsed)
  constructor
  · rintro ⟨host, port, _, addresses, isTls, gives⟩
    rw [gives_iff, same addresses] at gives
    exact ⟨host, port, addresses, (proxyPassTarget_directUrl isTls).mp gives⟩
  · rintro ⟨host, port, addresses, free⟩
    refine ⟨host, port, tls, addresses, http, gives_iff.mpr ?_⟩
    rw [same addresses]
    exact (proxyPassTarget_directUrl http).mpr free

end Direct

namespace DefaultPort

def upstream (port : UInt32) : Proto.Upstream :=
  { scheme := "http", host := "backend", port, upstreamGroup := "" }

def group : UpstreamBlock :=
  { allowEmpty := false, name := "backend", policy := .roundRobin, hashKey := none
    nrfDiscovery := none, healthCheck := none
    servers := [{ host := "10.0.0.1", port := 8080, weight := 1 }] }

/-- The port at the end is read, and dropped when it is the default of the scheme. -/
def urlParse (text : String) : Except String Url :=
  match text.toList.splitOn ':' with
  | [scheme, rest, port] => do
    let url ← Reference.urlParse (String.ofList (scheme ++ ':' :: rest))
    let port ← orFail (Digits.parseU16 (String.ofList port)) "invalid port number"
    pure { url with port := if Url.knownDefaultPort url.scheme = some port then none else some port }
  | _ => Reference.urlParse text

def platform : Platform := { Reference.platform with urlParse }

end DefaultPort

open DefaultPort in
theorem other_port_kept :
    ∃ upstreams target, compileUpstreams platform [group] = .ok upstreams ∧
      proxyPassTargetFromProto platform (upstream 8080) = .ok target ∧
      ∃ host port tls, Addresses platform (upstream 8080) host port ∧
        proxyPassTls "http" = some tls ∧
        Gives upstreams target (.proxyPass host port tls (proxyPassSni host tls)) := by
  have run : ∃ upstreams, compileUpstreams platform [group] = .ok upstreams ∧
      ∃ target, proxyPassTargetFromProto platform (upstream 8080) = .ok target ∧ True := by
    decide +kernel
  obtain ⟨upstreams, compiled, target, decoded, _⟩ := run
  refine ⟨upstreams, target, compiled, decoded, (direct_upstream_kept_iff rfl decoded).mpr ?_⟩
  exact ⟨"backend", 8080, ⟨rfl, by decide +kernel⟩, fun taken => absurd taken.1 (by decide)⟩

open DefaultPort in
/-- Port 80 is dropped from the URL, and the host is read as the name of a group. -/
theorem default_port_taken_for_group :
    ∃ upstreams, compileUpstreams platform [group] = .ok upstreams ∧
      ∃ target, proxyPassTargetFromProto platform (upstream 80) = .ok target ∧
        routeTargetFromDirective upstreams (.proxyPass target) =
          .ok (some (.action (.upstreamGroup "backend" false))) := by
  decide +kernel

/-- `Url::host_str` of an address: an IPv6 address stands in brackets, in the spelling of
the `url` crate. -/
def HostStr : IpAddr → String → Prop
  | .v4 address, host => host = (IpAddr.v4 address).toText
  | .v6 address, host => ∃ inner, host = "[" ++ inner ++ "]" ∧
      IpAddr.parse inner = some (.v6 address)

/-- The peer is at the address and no name is sent to it. -/
structure UsableAs (addr : IpAddr) (peer : SelectedPeer) : Prop where
  host : IpAddr.parse peer.host = some addr
  sni : peer.sni = ""

inductive LiteralPlace where
  | proxyPassUrl
  | serverEntry

/-- An address accepted at a place of the configuration, with the action of the
requests for it; a group has chosen the entry for the request. -/
inductive Literal {Handle Material : Type} (groups : RuntimeGroups Handle)
    (snapshot : RuntimeSnapshot Handle Material) (session : Session) (clientIp : Option IpAddr)
    (addr : IpAddr) : LiteralPlace → ActionTarget → Prop where
  | url {upstreams : UpstreamTable} {url : Url} {action : ActionTarget}
      {host : String} (hostOk : url.host = some host) (literal : HostStr addr host)
      (compiled : proxyPassTarget upstreams (.url url) = .ok (some action)) :
      Literal groups snapshot session clientIp addr .proxyPassUrl action
  | entry {args : List String} {server : UpstreamServer} {compiled : CompiledUpstreamServer}
      {name : String} {tls : Bool} {group : Handle} {key : List UInt8} {backend : SelectedBackend}
      (parsed : Config.parseUpstreamServer args = .ok server)
      (literal : IpAddr.parse server.host = some addr)
      (compiledOk : compileUpstreamServer server = .ok compiled)
      (found : snapshot.upstreamGroup name = some group)
      (keyed : backendKey groups group session clientIp = .ok key)
      (chosen : groups.select group key = some backend) (same : backend.host = compiled.host) :
      Literal groups snapshot session clientIp addr .serverEntry (.upstreamGroup name tls)

/-- The action leads to the address: directly to an IPv4 address, or to the backend that
the group has chosen. -/
def LeadsTo {Handle Material : Type} (groups : RuntimeGroups Handle)
    (snapshot : RuntimeSnapshot Handle Material) (session : Session) (clientIp : Option IpAddr)
    (addr : IpAddr) : ActionTarget → Prop
  | .upstreamGroup name _ => ∃ group key backend, snapshot.upstreamGroup name = some group ∧
      backendKey groups group session clientIp = .ok key ∧
      groups.select group key = some backend ∧ IpAddr.parse backend.host = some addr
  | _ => ∃ v4, addr = .v4 v4

def RoutedTo (counters : Table UInt64 UInt64) (routeId : UInt64) (action : ActionTarget) :
    RouteTarget → Prop
  | .action target => target = action
  | .weightedBackends backends => ∃ counter, counters.lookup routeId = some counter ∧
      chooseBackend (counter % totalWeight backends) backends = some action

section Literals

variable {Handle Material : Type} {groups : RuntimeGroups Handle}
  {snapshot : RuntimeSnapshot Handle Material} {session : Session} {clientIp : Option IpAddr}
  {addr : IpAddr} {action : ActionTarget} {route : RouteTarget} {counters : Table UInt64 UInt64}
  {routeId : UInt64} {peer : SelectedPeer} {host : String}

private lemma selectActionTarget_of_routed {target : SelectedTarget}
    (routed : RoutedTo counters routeId action route)
    (selected : (selectBackendTarget groups snapshot counters routeId route session clientIp).2 =
      .ok target) : selectActionTarget groups snapshot session clientIp action = .ok target := by
  cases route with
  | action own => exact routed ▸ selected
  | weightedBackends backends =>
    obtain ⟨counter, found, chosen⟩ := routed
    simp only [selectBackendTarget, found] at selected
    split at selected
    · cases selected
    · simpa [chosen] using selected

private lemma peer_of_group {name : String} {tls : Bool}
    (selected : selectActionTarget groups snapshot session clientIp (.upstreamGroup name tls) =
      .ok (.upstream peer)) : (∃ group key backend, snapshot.upstreamGroup name = some group ∧
        backendKey groups group session clientIp = .ok key ∧
        groups.select group key = some backend ∧ peer.host = backend.host) ∧
      peer.sni = proxyPassSni peer.host tls := by
  obtain ⟨group, found, key, keyed, backend, chosen, same⟩ := bind₃_eq_ok.mp selected
  cases same
  exact ⟨⟨group, key, backend, orFail_eq_ok.mp found, keyed, orFail_eq_ok.mp chosen, rfl⟩, rfl⟩

private lemma usable_iff_of_sni {tls : Bool} (named : peer.sni = proxyPassSni peer.host tls) :
    UsableAs addr peer ↔ IpAddr.parse peer.host = some addr := by
  refine ⟨UsableAs.host, fun parsed => ⟨parsed, ?_⟩⟩
  rw [named, proxyPassSni, parsed]
  simp

private lemma parse_hostStr (literal : HostStr addr host) :
    IpAddr.parse host = some addr ↔ ∃ v4, addr = .v4 v4 := by
  cases addr with
  | v4 address =>
    cases literal
    exact iff_of_true (IpAddr.parse_toText (.v4 address)) ⟨address, rfl⟩
  | v6 address =>
    obtain ⟨inner, rfl, _⟩ := literal
    have unread : IpAddr.parse ("[" ++ inner ++ "]") = none := by
      rw [IpAddr.parse, String.toList_append, String.toList_append]
      rfl
    simp [unread]

private lemma usable_iff_of_group {name : String} {tls : Bool}
    (selected : selectActionTarget groups snapshot session clientIp (.upstreamGroup name tls) =
      .ok (.upstream peer)) :
    UsableAs addr peer ↔
      LeadsTo groups snapshot session clientIp addr (.upstreamGroup name tls) := by
  obtain ⟨⟨group, key, backend, found, keyed, chosen, peerHost⟩, named⟩ := peer_of_group selected
  rw [usable_iff_of_sni named, peerHost]
  constructor
  · exact fun parsed => ⟨group, key, backend, found, keyed, chosen, parsed⟩
  · rintro ⟨group', key', backend', found', keyed', chosen', parsed⟩
    cases found.symm.trans found'
    cases keyed.symm.trans keyed'
    cases chosen.symm.trans chosen'
    exact parsed

/-- An address can be reached exactly when it is not an IPv6 address in a URL; a
URL that is read as the name of a group reaches what the group has chosen. -/
theorem literal_peer_usable_iff {place : LiteralPlace}
    (literal : Literal groups snapshot session clientIp addr place action)
    (routed : RoutedTo counters routeId action route)
    (selected : (selectBackendTarget groups snapshot counters routeId route session clientIp).2 =
      .ok (.upstream peer)) :
    UsableAs addr peer ↔
      (place = .proxyPassUrl → LeadsTo groups snapshot session clientIp addr action) := by
  have selected := selectActionTarget_of_routed routed selected
  cases literal with
  | url hostOk literal compiled =>
    rw [forall_prop_of_true rfl]
    rcases proxyPassTarget_url_eq_some.mp compiled with ⟨_, tls, _, _, _, rfl⟩ | ⟨_, target⟩
    · exact usable_iff_of_group selected
    · obtain ⟨other, port, tls, otherOk, _, _, rfl⟩ := target
      cases hostOk.symm.trans otherOk
      cases selected
      exact (usable_iff_of_sni rfl).trans (parse_hostStr literal)
  | entry parsed literal compiledOk found keyed chosen same =>
    obtain ⟨_, _, rfl⟩ := fields_of_server compiledOk
    refine iff_of_true ((usable_iff_of_group selected).mpr ?_) fun bad => nomatch bad
    exact ⟨_, _, _, found, keyed, chosen, same ▸ literal⟩

end Literals

namespace BracketedHost

def url (host : String) : Url := { scheme := "https", host := some host, path := "/" }

def peerOf (action : ActionTarget) : Except SelectionError SelectedTarget :=
  (selectBackendTarget AliasRequest.groups TwoBackends.snapshot ∅ 1 (.action action)
    AliasRequest.session none).2

end BracketedHost

open BracketedHost in
theorem v4_host_usable :
    ∃ action peer, proxyPassTarget ∅ (.url (url "10.0.0.1")) = .ok (some action) ∧
      peerOf action = .ok (.upstream peer) ∧
      UsableAs (.v4 { a := 10, b := 0, c := 0, d := 1 }) peer := by
  have compiled : proxyPassTarget ∅ (.url (url "10.0.0.1")) =
      .ok (some (.proxyPass "10.0.0.1" 443 true "")) := by decide +kernel
  have literal : HostStr (.v4 { a := 10, b := 0, c := 0, d := 1 }) "10.0.0.1" := by
    change "10.0.0.1" = _
    decide +kernel
  have routed : RoutedTo ∅ 1 (.proxyPass "10.0.0.1" 443 true "")
    (.action (.proxyPass "10.0.0.1" 443 true "")) := rfl
  have selected : peerOf (.proxyPass "10.0.0.1" 443 true "") = .ok (.upstream _) := rfl
  exact ⟨_, _, compiled, selected,
    (literal_peer_usable_iff (.url rfl literal compiled) routed selected).mpr fun _ => ⟨_, rfl⟩⟩

open BracketedHost in
/-- The brackets stay in the host, which is sent as a server name too. -/
theorem v6_url_not_usable :
    ∃ action, proxyPassTarget ∅ (.url (url "[::1]")) = .ok (some action) ∧
      ∃ peer, peerOf action = .ok (.upstream peer) ∧
        peer.host = "[::1]" ∧ peer.sni = "[::1]" ∧ IpAddr.parse peer.host = none :=
  ⟨.proxyPass "[::1]" 443 true "[::1]", by decide +kernel, _, rfl, rfl, rfl, by decide⟩

end Ngxora.Routing
