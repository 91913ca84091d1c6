/-
The address of the client behind trusted proxies: the forwarded list is walked from its right end
for as long as the last address taken is trusted.
-/

import Ngxora.Extern
import Ngxora.Http.Headers

namespace Ngxora.Http

open HeaderValue List Option Net

/-- The loop of `resolve_chain`: addresses are taken from the list, given from its
right end, while the current one is trusted. -/
def takeTrusted (trusted : IpAddr → Bool) (current : IpAddr) : List IpAddr → List IpAddr
  | [] => [current]
  | next :: rest =>
    if trusted current then current :: takeTrusted trusted next rest else [current]

def forwardedAddresses (raw : String) : Option (List IpAddr) :=
  (Text.splitOn ',' raw).mapM fun part => IpAddr.parse (Text.trim part)

section Resolvers

-- `IpNet::contains` of the `ipnet` crate.
variable (contains : IpNet → IpAddr → Bool)

def isTrusted (trustedProxies : List IpNet) (ip : IpAddr) : Bool :=
  trustedProxies.any fun network => contains network ip

def resolveChain (peer : Option IpAddr) (forwardedFor : Option String)
    (trustedProxies : List IpNet) : Option (List IpAddr) := do
  let peer ← peer
  if !isTrusted contains trustedProxies peer then some [peer]
  else
    match forwardedFor.bind forwardedAddresses with
    | none => some [peer]
    | some forwarded =>
      some (takeTrusted (isTrusted contains trustedProxies) peer forwarded.reverse).reverse

def resolveHeaders (peer : Option IpAddr) (headers : HeaderMap) (header : String)
    (trustedProxies : List IpNet) (recursive : Bool) : Option (List IpAddr) := do
  let peer ← peer
  let values := headers.getAll (Text.toAsciiLowercase header)
  if !isTrusted contains trustedProxies peer || values.length != 1 then some [peer]
  else
    match values.head?.bind toStr with
    | none => some [peer]
    | some raw =>
      if Text.eqIgnoreAsciiCase header "x-real-ip" then
        ((IpAddr.parse (Text.trim raw)).map fun ip => [ip, peer]).or (some [peer])
      else if recursive then resolveChain contains (some peer) (some raw) trustedProxies
      else
        match forwardedAddresses raw with
        | none => some [peer]
        | some chain => (chain.getLast?.map fun ip => [ip, peer]).or (some [peer])

/-- The address `GeoIp::lookup_request` looks up.  Several lines are ambiguous. -/
def lookupRequestIp (peer : Option IpAddr) (headers : HeaderMap) (trustedProxies : List IpNet) :
    Option IpAddr :=
  let forwarded :=
    if (headers.getAll "x-forwarded-for").length = 1 then
      (headers.get "x-forwarded-for").bind toStr
    else none
  (resolveChain contains peer forwarded trustedProxies).bind List.head?

/-- The chain the headers plugin forwards: the resolved one if there is a global
configuration (`identity`), or its own if it forwards client addresses. -/
def clientIpChain (identity : Option (Option (List IpAddr))) (forwarding : Option (List IpNet))
    (clientIp : Option IpAddr) (headers : HeaderMap) : Option (List IpAddr) :=
  match identity with
  | some chain => chain
  | none =>
    forwarding.bind fun trustedProxies =>
      resolveChain contains clientIp
        ((headers.get "x-forwarded-for").bind toStr) trustedProxies

end Resolvers

variable {contains : IpNet → IpAddr → Bool} {trustedProxies : List IpNet} {headers : HeaderMap}

private lemma resolveChain_none (peer : Option IpAddr) :
    resolveChain contains peer none trustedProxies = peer.map fun peer => [peer] := by
  cases peer with
  | none => rfl
  | some peer => simp [resolveChain]

variable {peer : IpAddr}

private lemma resolveChain_untrusted (forwardedFor : Option String)
    (untrusted : isTrusted contains trustedProxies peer = false) :
    resolveChain contains (some peer) forwardedFor trustedProxies = some [peer] := by
  simp [resolveChain, untrusted]

private lemma get_of_length_ne {name : String} (few : (headers.getAll name).length ≤ 1)
    (notOne : (headers.getAll name).length ≠ 1) : headers.get name = none := by
  have empty : headers.getAll name = [] := eq_nil_of_length_eq_zero (by omega)
  rw [HeaderMap.get, empty, head?_nil]

private lemma resolveHeaders_forwarded (peer : Option IpAddr) :
    (resolveHeaders contains peer headers "X-Forwarded-For" trustedProxies true).bind List.head? =
      lookupRequestIp contains peer headers trustedProxies := by
  have lower : Text.toAsciiLowercase "X-Forwarded-For" = "x-forwarded-for" := by decide
  have other : Text.eqIgnoreAsciiCase "X-Forwarded-For" "x-real-ip" = false := by decide
  unfold lookupRequestIp resolveHeaders
  cases peer with
  | none => rfl
  | some peer =>
    simp only [lower, other, bind_eq_bind, bind_some, HeaderMap.get]
    cases trust : isTrusted contains trustedProxies peer with
    | false => simp [resolveChain_untrusted _ trust]
    | true =>
      by_cases one : (headers.getAll "x-forwarded-for").length = 1
      · cases (headers.getAll "x-forwarded-for").head?.bind toStr with
        | none => simp [one, resolveChain_none]
        | some raw => simp [one]
      · simp [one, resolveChain_none]

private lemma head?_takeTrusted (trusted : IpAddr → Bool) (current : IpAddr) (rest : List IpAddr) :
    (takeTrusted trusted current rest).head? = some current := by
  cases rest with
  | nil => rfl
  | cons next rest =>
    rw [takeTrusted]
    split <;> rfl

private lemma takeTrusted_spec (trusted : IpAddr → Bool) (cur : IpAddr) (rest : List IpAddr) :
    (∀ ip ∈ (takeTrusted trusted cur rest).dropLast, trusted ip = true) ∧
      ∃ last, (takeTrusted trusted cur rest).getLast? = some last ∧
        (trusted last = false ∨ takeTrusted trusted cur rest = cur :: rest) := by
  induction rest generalizing cur with
  | nil => exact ⟨by simp [takeTrusted], cur, rfl, .inr rfl⟩
  | cons next rest ih =>
    rw [takeTrusted]
    cases trust : trusted cur with
    | false => exact ⟨by simp, cur, by simp, .inl trust⟩
    | true =>
      obtain ⟨inner, last, ends, stopped⟩ := ih next
      have ne : takeTrusted trusted next rest ≠ [] := by
        intro empty
        rw [empty] at ends
        cases ends
      rw [if_pos rfl, dropLast_cons_of_ne_nil ne, forall_mem_cons]
      refine ⟨⟨trust, inner⟩, last, ?_, ?_⟩
      · rw [getLast?_cons, ends, getD_some]
      · rcases stopped with untrusted | whole
        · exact .inl untrusted
        · exact .inr (by rw [whole])

private lemma takeTrusted_of_forall {trusted : IpAddr → Bool} {cur : IpAddr} {rest : List IpAddr}
    (start : trusted cur = true) (all : ∀ ip ∈ rest, trusted ip = true) :
    takeTrusted trusted cur rest = cur :: rest := by
  induction rest generalizing cur with
  | nil => rfl
  | cons next rest ih =>
    rw [forall_mem_cons] at all
    rw [takeTrusted, if_pos start, ih all.1 all.2]

private lemma client_eq_peer_iff {trusted : IpAddr → Bool} {forwarded : List IpAddr}
    (trust : trusted peer = true) :
    (takeTrusted trusted peer forwarded.reverse).reverse.head? = some peer ↔
      (∀ ip ∈ forwarded, trusted ip = true) ∧ ∀ first ∈ forwarded.head?, first = peer := by
  constructor
  · intro isPeer
    obtain ⟨vouched, last, ends, stopped⟩ := takeTrusted_spec trusted peer forwarded.reverse
    rw [head?_reverse, ends] at isPeer
    cases isPeer
    rcases stopped with untrusted | whole
    · exact absurd (trust.symm.trans untrusted) Bool.noConfusion
    · rw [whole] at vouched ends
      cases forwarded with
      | nil => exact ⟨forall_mem_nil _, fun _ bad => nomatch bad⟩
      | cons first rest =>
        rw [reverse_cons, ← cons_append, getLast?_concat] at ends
        cases ends
        rw [reverse_cons, ← cons_append, dropLast_concat, forall_mem_cons] at vouched
        refine ⟨forall_mem_cons.mpr ⟨trust, fun ip mem => ?_⟩, fun _ same => ?_⟩
        · exact vouched.2 ip (mem_reverse.mpr mem)
        · exact (Option.some.inj same).symm
  · rintro ⟨all, leftmost⟩
    rw [takeTrusted_of_forall trust fun ip mem => all ip (mem_reverse.mp mem), reverse_cons,
      reverse_reverse]
    cases forwarded with
    | nil => rfl
    | cons first rest => exact congrArg some (leftmost first rfl)

private lemma resolveChain_trusted {raw : String} {forwarded : List IpAddr}
    (trust : isTrusted contains trustedProxies peer = true)
    (wellFormed : forwardedAddresses raw = some forwarded) :
    resolveChain contains (some peer) (some raw) trustedProxies =
      some (takeTrusted (isTrusted contains trustedProxies) peer forwarded.reverse).reverse := by
  simp [resolveChain, trust, wellFormed]

private lemma clientIpChain_eq_peer_iff {peer : Option IpAddr} :
    (clientIpChain contains none (some trustedProxies) peer headers).bind List.head? = peer ↔
      ∀ address ∈ peer, isTrusted contains trustedProxies address = true →
        ∀ raw ∈ (headers.get "x-forwarded-for").bind toStr, ∀ forwarded ∈ forwardedAddresses raw,
          (∀ ip ∈ forwarded, isTrusted contains trustedProxies ip = true) ∧
            ∀ first ∈ forwarded.head?, first = address := by
  rw [clientIpChain, bind_some]
  cases peer with
  | none => exact iff_of_true rfl fun _ bad => nomatch bad
  | some peer =>
    simp only [mem_some_iff, forall_eq']
    cases trust : isTrusted contains trustedProxies peer with
    | false =>
      rw [resolveChain_untrusted _ trust]
      exact iff_of_true rfl fun bad => nomatch bad
    | true =>
      cases line : (headers.get "x-forwarded-for").bind toStr with
      | none =>
        rw [resolveChain_none]
        exact iff_of_true rfl fun _ _ bad => nomatch bad
      | some raw =>
        simp only [mem_some_iff, forall_eq', forall_const]
        cases wellFormed : forwardedAddresses raw with
        | none =>
          have alone : resolveChain contains (some peer) (some raw) trustedProxies =
              some [peer] := by simp [resolveChain, wellFormed]
          rw [alone]
          exact iff_of_true rfl fun _ bad => nomatch bad
        | some forwarded =>
          rw [resolveChain_trusted trust wellFormed, bind_some, client_eq_peer_iff trust]
          simp only [mem_some_iff, forall_eq']

/-- The resolvers agree unless there are several lines and the first one alone names
another client than the peer: a trusted peer, and addresses of which one is not trusted
or the leftmost is not the peer. -/
theorem client_ip_resolvers_agree_iff (contains : IpNet → IpAddr → Bool) (peer : Option IpAddr)
    (headers : HeaderMap) (trustedProxies : List IpNet) :
    ((resolveHeaders contains peer headers "X-Forwarded-For" trustedProxies true).bind List.head? =
          lookupRequestIp contains peer headers trustedProxies ∧
        lookupRequestIp contains peer headers trustedProxies =
          (clientIpChain contains none (some trustedProxies) peer headers).bind List.head?) ↔
      (headers.getAll "x-forwarded-for").length ≤ 1 ∨
        ∀ address ∈ peer, isTrusted contains trustedProxies address = true →
          ∀ raw ∈ (headers.get "x-forwarded-for").bind toStr,
            ∀ forwarded ∈ forwardedAddresses raw,
              (∀ ip ∈ forwarded, isTrusted contains trustedProxies ip = true) ∧
                ∀ first ∈ forwarded.head?, first = address := by
  rw [and_iff_right (resolveHeaders_forwarded peer)]
  by_cases one : (headers.getAll "x-forwarded-for").length = 1
  · simp [lookupRequestIp, clientIpChain, one]
  · have alone : lookupRequestIp contains peer headers trustedProxies = peer := by
      rw [lookupRequestIp, if_neg one, resolveChain_none]
      cases peer <;> rfl
    rw [alone, eq_comm, or_iff_right_of_imp fun few => ?_]
    · exact clientIpChain_eq_peer_iff
    · intro address _ _ raw found
      rw [get_of_length_ne few one] at found
      cases found

/-- Two lines: the plugin forwards what the first one, which anyone can send, says. -/
theorem repeated_lines_disagree :
    ∃ (contains : IpNet → IpAddr → Bool) (peer client : IpAddr) (headers : HeaderMap),
      peer ≠ client ∧
        (resolveHeaders contains (some peer) headers "X-Forwarded-For" [.ofAddr peer] true).bind
            List.head? = some peer ∧
        lookupRequestIp contains (some peer) headers [.ofAddr peer] = some peer ∧
        (clientIpChain contains none (some [.ofAddr peer]) (some peer) headers).bind List.head? =
          some client := by
  refine ⟨fun network ip => network.addr == ip, .v4 ⟨10, 0, 0, 1⟩, .v4 ⟨192, 0, 2, 1⟩,
    { entries := [("x-forwarded-for", ofText "192.0.2.1"),
        ("x-forwarded-for", ofText "198.51.100.2")] }, by decide, ?_, ?_, ?_⟩
  all_goals decide +kernel

private lemma takeTrusted_append {trusted : IpAddr → Bool} {cur client : IpAddr}
    {proxies : List IpAddr} (hidden : List IpAddr) (start : trusted cur = true)
    (vouched : ∀ ip ∈ proxies, trusted ip = true) (untrusted : trusted client = false) :
    takeTrusted trusted cur (proxies ++ client :: hidden) = cur :: proxies ++ [client] := by
  induction proxies generalizing cur with
  | nil => cases hidden <;> simp [takeTrusted, start, untrusted]
  | cons next proxies ih =>
    rw [forall_mem_cons] at vouched
    rw [cons_append, takeTrusted, if_pos start, ih vouched.1 vouched.2]
    rfl

/-- Whatever the list holds, the chain ends in the peer, is trusted behind the client, and
does not depend on what stands left of an untrusted client. -/
theorem forwarded_chain_is_vouched_for (contains : IpNet → IpAddr → Bool)
    (trustedProxies : List IpNet) (peer : IpAddr) :
    (∀ raw forwarded, forwardedAddresses raw = some forwarded →
      ∃ client later, resolveChain contains (some peer) (some raw) trustedProxies =
          some (client :: later) ∧ (client :: later).getLast? = some peer ∧
        (∀ ip ∈ later, isTrusted contains trustedProxies ip = true) ∧
        (isTrusted contains trustedProxies client = false ∨
          client :: later = forwarded ++ [peer])) ∧
    (isTrusted contains trustedProxies peer = false →
      (∀ forwardedFor, resolveChain contains (some peer) forwardedFor trustedProxies =
        some [peer]) ∧ ∀ headers header recursive,
        resolveHeaders contains (some peer) headers header trustedProxies recursive = some [peer]) ∧
    (isTrusted contains trustedProxies peer = true → ∀ raw other hidden otherHidden client proxies,
        forwardedAddresses raw = some (hidden ++ client :: proxies) →
        forwardedAddresses other = some (otherHidden ++ client :: proxies) →
        isTrusted contains trustedProxies client = false →
        (∀ ip ∈ proxies, isTrusted contains trustedProxies ip = true) →
          resolveChain contains (some peer) (some raw) trustedProxies =
            resolveChain contains (some peer) (some other) trustedProxies) := by
  refine ⟨?_, ?_, ?_⟩
  · intro raw forwarded wellFormed
    cases trust : isTrusted contains trustedProxies peer with
    | false => refine ⟨peer, [], resolveChain_untrusted _ trust, rfl, by simp, .inl trust⟩
    | true =>
      rw [resolveChain_trusted trust wellFormed]
      rcases takeTrusted_spec (isTrusted contains trustedProxies) peer forwarded.reverse with
        ⟨vouched, client, last, stopped⟩
      have first := head?_takeTrusted (isTrusted contains trustedProxies) peer forwarded.reverse
      generalize takeTrusted (isTrusted contains trustedProxies) peer forwarded.reverse = chain
        at vouched last stopped first
      have split : chain.reverse = client :: chain.dropLast.reverse := by
        rw [← reverse_concat, dropLast_append_getLast? client last]
      refine ⟨client, chain.dropLast.reverse, congrArg some split, ?_, ?_, ?_⟩
      · rw [← split, getLast?_reverse, first]
      · exact fun ip member => vouched ip (mem_reverse.mp member)
      · rcases stopped with untrusted | whole
        · exact .inl untrusted
        · right
          rw [← split, whole, reverse_cons, reverse_reverse]
  · intro untrusted
    exact ⟨fun _ => resolveChain_untrusted _ untrusted,
      fun _ _ _ => by simp [resolveHeaders, untrusted]⟩
  · intro trust raw other hidden otherHidden client proxies first second untrusted vouched
    have backwards : ∀ ip ∈ proxies.reverse, isTrusted contains trustedProxies ip = true :=
      fun ip member => vouched ip (mem_reverse.mp member)
    have stops (earlier : List IpAddr) :
        takeTrusted (isTrusted contains trustedProxies) peer
            (earlier ++ client :: proxies).reverse = peer :: proxies.reverse ++ [client] := by
      rw [reverse_append, reverse_cons, append_assoc, singleton_append,
        takeTrusted_append _ trust backwards untrusted]
    rw [resolveChain_trusted trust first, resolveChain_trusted trust second, stops, stops]

end Ngxora.Http
