/-
From the name a client asks for to a certificate and a virtual host.
-/

import Ngxora.Http.Session
import Ngxora.Reference
import Ngxora.Router.Blocks
import Ngxora.Server.ListenerTls

namespace Ngxora.Routing

open Text Table List Option String Http Results Router Server

structure Crates where
  /-- The host of a value that parses as an `Authority`. -/
  authorityHost : String → Option String
  formUrlencodedParse : String → List (String × String)
  regexIsMatch : Bool → String → String → Bool
  /-- A text parsed as a `Uri` and printed. -/
  uriPrinted : String → Except String String

/-- Three functions of the program normalise names, each in its own way. -/
def normalizeAuthorityHost (value : String) : String :=
  toAsciiLowercase (trimEndMatches '.' value)

def invalidHostHeader : PingoraError :=
  explain (.httpStatus 400) "invalid host header value"

def stripBrackets (host : String) : String :=
  ((afterStart "[" host).bind (beforeEnd "]")).getD host

def requestHostPart (crates : Crates) (value : String) : Option String :=
  (crates.authorityHost value).map stripBrackets

def normalizeRequestHost (crates : Crates) (value : String) : Except PingoraError String := do
  rejectIf (contains '@' value || contains ',' value) invalidHostHeader
  let host ← orFail (requestHostPart crates value) invalidHostHeader
  rejectIf host.isEmpty invalidHostHeader
  pure (normalizeAuthorityHost host)

def requestHost (crates : Crates) (session : Session) : Except PingoraError (Option String) :=
  match session.headers.get "host" with
  | none => .ok none
  | some value => do
    let text ← orFail (HeaderValue.toStr value)
      (explain (.httpStatus 400) "invalid host header encoding")
    some <$> normalizeRequestHost crates text

/-- What `handshake_complete_callback` records of the requested name. -/
def handshakeCompleteCallback (serverName : Option String) : DownstreamTlsInfo where
  sni := serverName.map toAsciiLowercase

def downstreamSni (session : Session) : Option String :=
  (session.sslDigest.bind SslDigest.extension).bind DownstreamTlsInfo.sni

def validateSniHostConsistency (host sni : Option String) : Except PingoraError Unit :=
  match host, sni with
  | some host, some sni =>
    rejectIf (host != sni)
      (explain (.httpStatus 421) s!"tls sni `{sni}` does not match http host `{host}`")
  | _, _ => .ok ()

def selectServerRoutes (vhosts : VirtualHostRoutes) (host : Option String) : Option ServerRoutes :=
  (host.bind fun value => bestMatch (hostnameRank value) vhosts.named).or vhosts.default

variable {host : String} {value : V} {named : Table String V} {platform : Platform}
  {router : CompiledRouter} {tls : ListenerTlsConfig}

section Names

variable {key : ListenKey} {http : Http}

private lemma hostPart_of_normalizeRequestHost {crates : Crates} {value : String}
    (ok : normalizeRequestHost crates value = .ok host) :
    ∃ part, requestHostPart crates value = some part ∧ normalizeHostname part = host := by
  obtain ⟨_, _, part, partOf, _, _, same⟩ := bind₃_eq_ok.mp ok
  exact ⟨part, orFail_eq_ok.mp partOf, Except.ok.inj same⟩

/-- The value of the exact name, or else of the wildcard with the longest suffix. -/
inductive Chosen {V : Type} (named : Table String V) (host : String) (value : V) : Prop where
  | exact (found : named.lookup host = some value)
  | wildcard (suffix : String) (notExact : named.lookup host = none)
      (found : named.lookup ("*" ++ suffix) = some value) (covers : SuffixCovers suffix host)
      (longest : ∀ other, "*" ++ other ∈ named → SuffixCovers other host →
        byteLength other ≤ byteLength suffix)

variable {pattern suffix name : String} {rank : Bool ×ₗ Nat} {vhosts : VirtualHostRoutes}

lemma hostnameRank_self (host : String) :
    hostnameRank host host = some (toLex (true, byteLength host)) := by
  rw [hostnameRank, hostnameScore_exact.mpr ⟨rfl, rfl⟩, map_some]

lemma hostnameRank_of_ne (differ : pattern ≠ host) : hostnameRank host pattern = some rank ↔
    ∃ suffix, pattern = "*" ++ suffix ∧ SuffixCovers suffix host ∧
      rank = toLex (false, byteLength suffix) := by
  rw [hostnameRank, map_eq_some_iff]
  constructor
  · rintro ⟨score, found, rfl⟩
    obtain ⟨suffix, shape, covers, rfl⟩ := (hostnameScore_of_ne differ).mp found
    exact ⟨suffix, shape, covers, rfl⟩
  · rintro ⟨suffix, shape, covers, rfl⟩
    exact ⟨_, (hostnameScore_of_ne differ).mpr ⟨suffix, shape, covers, rfl⟩, rfl⟩

private lemma le_of_exact (found : hostnameRank host name = some rank) :
    rank ≤ toLex (true, byteLength host) := by
  by_cases same : name = host
  · rw [same, hostnameRank_self] at found
    exact (Option.some.inj found).ge
  · obtain ⟨suffix, _, _, rfl⟩ := (hostnameRank_of_ne same).mp found
    exact Prod.Lex.toLex_le_toLex.mpr (.inl Bool.false_lt_true)

variable {V : Type}

private lemma isBest_exact (found : named.lookup host = some value) :
    IsBest (hostnameRank host) named host value where
  present := found
  greatest := ⟨_, hostnameRank_self host, fun _ _ _ otherRank => le_of_exact otherRank⟩

private lemma isBest_wildcard (notExact : named.lookup host = none)
    (found : named.lookup ("*" ++ suffix) = some value) (covers : SuffixCovers suffix host) :
    IsBest (hostnameRank host) named ("*" ++ suffix) value ↔
      ∀ other, "*" ++ other ∈ named → SuffixCovers other host →
        byteLength other ≤ byteLength suffix := by
  have differs : ∀ name ∈ named, name ≠ host := by
    rintro name here rfl
    rw [mem_iff_lookup, notExact] at here
    obtain ⟨_, bad⟩ := here
    cases bad
  have own : hostnameRank host ("*" ++ suffix) = some (toLex (false, byteLength suffix)) :=
    (hostnameRank_of_ne (differs _ (mem_iff_lookup.mpr ⟨value, found⟩))).mpr
      ⟨suffix, rfl, covers, rfl⟩
  constructor
  · intro best other here otherCovers
    obtain ⟨rank, isRank, greatest⟩ := best.greatest
    rw [own, Option.some.injEq] at isRank
    have below := greatest _ here _ ((hostnameRank_of_ne (differs _ here)).mpr
      ⟨other, rfl, otherCovers, rfl⟩)
    rw [← isRank] at below
    simpa [Prod.Lex.toLex_le_toLex] using below
  · intro longest
    refine ⟨found, _, own, ?_⟩
    intro other here rank otherRank
    obtain ⟨otherSuffix, rfl, otherCovers, rfl⟩ :=
      (hostnameRank_of_ne (differs _ here)).mp otherRank
    simpa [Prod.Lex.toLex_le_toLex] using longest otherSuffix here otherCovers

private lemma chosen_iff :
    Chosen named host value ↔ ∃ name, IsBest (hostnameRank host) named name value := by
  constructor
  · intro chosen
    cases chosen with
    | exact found => exact ⟨host, isBest_exact found⟩
    | wildcard suffix notExact found covers longest =>
      exact ⟨"*" ++ suffix, (isBest_wildcard notExact found covers).mpr longest⟩
  · rintro ⟨name, best⟩
    cases exact' : named.lookup host with
    | some own =>
      have same := best.unique (hostnameRank_injective host) (isBest_exact exact')
      exact .exact (same.2 ▸ exact')
    | none =>
      have differ : name ≠ host := by
        rintro rfl
        rw [best.present] at exact'
        cases exact'
      obtain ⟨rank, isRank, _⟩ := best.greatest
      obtain ⟨suffix, rfl, covers, _⟩ := (hostnameRank_of_ne differ).mp isRank
      exact .wildcard suffix exact' best.present covers
        ((isBest_wildcard exact' best.present covers).mp best)

private lemma bestMatch_eq_some_iff_chosen :
    bestMatch (hostnameRank host) named = some value ↔ Chosen named host value := by
  rw [bestMatch_eq_some (hostnameRank_injective host), chosen_iff]

private lemma bestMatch_congr {left right : Table String V} (same : SameEntries left right)
    (host : String) :
    bestMatch (hostnameRank host) left = bestMatch (hostnameRank host) right := by
  have transfer : ∀ {first second : Table String V}, SameEntries first second →
      ∀ value, bestMatch (hostnameRank host) first = some value →
        bestMatch (hostnameRank host) second = some value := by
    intro first second entries value best
    rw [bestMatch_eq_some (hostnameRank_injective host)] at best ⊢
    obtain ⟨name, here, rank, isRank, greatest⟩ := best
    refine ⟨name, (entries name).symm.trans here, rank, isRank, ?_⟩
    exact fun other otherPresent => greatest other ((entries.mem_iff other).mpr otherPresent)
  apply Option.ext
  intro value
  exact ⟨transfer same value, transfer (fun name => (same name).symm) value⟩

/-- A listener with certificates has a default one. -/
def Defaulted (tls : ListenerTlsConfig) : Prop :=
  ∀ name ∈ tls.named, tls.default.isSome = true

private lemma selectListenerTls_congr {left right : ListenerTlsConfig}
    (same : SameEntries left.named right.named) (defaults : left.default = right.default)
    (defaulted : Defaulted left) (serverName : Option String) :
    selectListenerTls key left serverName = selectListenerTls key right serverName := by
  have named : serverName.bind (namedListenerTls left) =
      serverName.bind (namedListenerTls right) := by
    cases serverName with
    | none => rfl
    | some name => exact bestMatch_congr same (normalizeHostname name)
  have default : defaultListenerTls key left = defaultListenerTls key right := by
    cases found : left.default with
    | some identity => simp [defaultListenerTls, ← defaults, found]
    | none =>
      have noNames : ∀ name, name ∉ left.named := by
        intro name here
        have impossible := defaulted name here
        rw [found] at impossible
        cases impossible
      have empty {table : Table String TlsIdentity} (none : ∀ name, name ∉ table) :
          table.values = [] := by
        apply eq_nil_iff_forall_not_mem.mpr
        intro identity member
        obtain ⟨name, here⟩ := mem_values_iff.mp member
        exact none name (mem_iff_lookup.mpr ⟨identity, here⟩)
      have others : ∀ name, name ∉ right.named := fun name here =>
        noNames name ((same.mem_iff name).mpr here)
      simp [defaultListenerTls, ← defaults, found, empty noNames, empty others]
  rw [selectListenerTls, selectListenerTls, named, default]

private lemma defaulted_of_compiled (built : Compiled platform http router)
    (found : router.listenerTls.lookup key = some tls) : Defaulted tls := by
  intro name here
  obtain ⟨settings, rfl⟩ := built.tlsOf_of_lookup found
  obtain ⟨identity, named⟩ := mem_iff_lookup.mp here
  rw [tlsOf_named, map_eq_some_iff] at named
  obtain ⟨last, lastFound, _⟩ := named
  rw [tlsOf_default, isSome_map]
  exact Slots.holder_isSome (mem_reverse.mp (mem_of_find?_eq_some lastFound)) rfl

/-- What is chosen for a host: the value of the most specific name, or `fallback`. -/
def Chooses {R : Type} (named : Table String V) (host : String) (answer : V → R) (fallback : R)
    (result : R) : Prop :=
  (∃ value, Chosen named host value ∧ result = answer value) ∨
    ((∀ value, ¬ Chosen named host value) ∧ result = fallback)

private lemma chooses_bestMatch {R : Type} (named : Table String V) (host : String)
    (answer : V → R) (fallback : R) : Chooses named host answer fallback
      (((bestMatch (hostnameRank host) named).map answer).getD fallback) := by
  cases best : bestMatch (hostnameRank host) named with
  | some value => exact .inl ⟨value, bestMatch_eq_some_iff_chosen.mp best, rfl⟩
  | none =>
    right
    refine ⟨fun value chosen => ?_, rfl⟩
    rw [bestMatch_eq_some_iff_chosen.mpr chosen] at best
    cases best

private lemma selectServerRoutes_chooses (vhosts : VirtualHostRoutes) (host : String) :
    Chooses vhosts.named host some vhosts.default (selectServerRoutes vhosts (some host)) := by
  have choice := chooses_bestMatch vhosts.named host some vhosts.default
  rw [selectServerRoutes, bind_some]
  cases best : bestMatch (hostnameRank host) vhosts.named with
  | none | some routes => simpa [best] using choice

private lemma selectListenerTls_chooses (key : ListenKey) (tls : ListenerTlsConfig)
    (serverName : String) :
    Chooses tls.named (normalizeHostname serverName) .ok (defaultListenerTls key tls)
      (selectListenerTls key tls (some serverName)) := by
  have choice := chooses_bestMatch tls.named (normalizeHostname serverName)
    (Except.ok : TlsIdentity → Except String TlsIdentity) (defaultListenerTls key tls)
  rw [selectListenerTls, bind_some, namedListenerTls]
  cases best : bestMatch (hostnameRank (normalizeHostname serverName)) tls.named with
  | none | some identity => simpa [best] using choice

/-- At most one configured name has the greatest score for a host, so neither the
virtual host nor the certificate depends on the order a map is iterated in: the
exact name is chosen, or else the longest wildcard, or else the default. -/
theorem most_specific_name_chosen :
    (∀ {V : Type} (named : Table String V) (host left right : String) (leftValue rightValue : V),
      IsBest (hostnameRank host) named left leftValue →
      IsBest (hostnameRank host) named right rightValue → left = right) ∧
    (∀ (vhosts : VirtualHostRoutes) (host : String),
      Chooses vhosts.named host some vhosts.default (selectServerRoutes vhosts (some host)) ∧
      ∀ other : VirtualHostRoutes, SameEntries vhosts.named other.named →
        vhosts.default = other.default →
        selectServerRoutes vhosts (some host) = selectServerRoutes other (some host)) ∧
    (∀ (key : ListenKey) (tls : ListenerTlsConfig) (serverName : String), Defaulted tls →
      (∀ identity, tls.default = some identity →
        Chooses tls.named (normalizeHostname serverName) Except.ok (.ok identity)
          (selectListenerTls key tls (some serverName))) ∧
      ∀ other : ListenerTlsConfig, SameEntries tls.named other.named →
        tls.default = other.default → selectListenerTls key tls (some serverName) =
          selectListenerTls key other (some serverName)) ∧
    (∀ platform http router key tls, fromHttp platform http = .ok router →
      router.listenerTls.lookup key = some tls → Defaulted tls) := by
  refine ⟨?_, ?_, ?_, ?_⟩
  · intro V named host left right leftValue rightValue leftBest rightBest
    exact (leftBest.unique (hostnameRank_injective host) rightBest).1
  · intro vhosts host
    refine ⟨selectServerRoutes_chooses vhosts host, ?_⟩
    intro other same defaults
    rw [selectServerRoutes, selectServerRoutes, bind_some, bind_some,
      bestMatch_congr same host, defaults]
  · intro key tls serverName defaulted
    constructor
    · intro identity default
      have choice := selectListenerTls_chooses key tls serverName
      rwa [defaultListenerTls, default, some_or, orFail_some] at choice
    · intro other same defaults
      exact selectListenerTls_congr same defaults defaulted (some serverName)
  · intro platform http router key tls accepted found
    obtain ⟨compiled⟩ := compiled_of_fromHttp accepted
    exact defaulted_of_compiled compiled found

/-- Certificate and virtual host are those of one name, or both are defaults. -/
def SameChoice (key : ListenKey) (tls : ListenerTlsConfig) (vhosts : VirtualHostRoutes)
    (serverName host : String) : Prop :=
  (∃ name identity routes,
    IsBest (hostnameRank (normalizeHostname serverName)) tls.named name identity ∧
    IsBest (hostnameRank host) vhosts.named name routes ∧
    selectListenerTls key tls (some serverName) = .ok identity ∧
    selectServerRoutes vhosts (some host) = some routes) ∨
  ((∀ name ∈ tls.named, hostnameRank (normalizeHostname serverName) name = none) ∧
    (∀ name ∈ vhosts.named, hostnameRank host name = none) ∧
    selectListenerTls key tls (some serverName) = defaultListenerTls key tls ∧
    selectServerRoutes vhosts (some host) = vhosts.default)

private lemma sameChoice_of_same_names (names : ∀ name, name ∈ tls.named ↔ name ∈ vhosts.named)
    (serverName : String) :
    SameChoice key tls vhosts serverName (normalizeHostname serverName) := by
  unfold SameChoice
  generalize normalizedEq : normalizeHostname serverName = host
  rw [selectListenerTls, bind_some, namedListenerTls, normalizedEq, selectServerRoutes, bind_some]
  cases best : bestMatch (hostnameRank host) tls.named with
  | none =>
    have uncovered := bestMatch_eq_none.mp best
    have noHost : ∀ name ∈ vhosts.named, hostnameRank host name = none :=
      fun name present => uncovered name ((names name).mpr present)
    rw [bestMatch_eq_none.mpr noHost]
    exact .inr ⟨uncovered, noHost, rfl, rfl⟩
  | some identity =>
    obtain ⟨name, tlsBest⟩ := exists_isBest_of_bestMatch best
    obtain ⟨rank, isRank, greatest⟩ := tlsBest.greatest
    have present := (names name).mp (mem_iff_lookup.mpr ⟨identity, tlsBest.present⟩)
    obtain ⟨routes, found⟩ := mem_iff_lookup.mp present
    have hostBest : IsBest (hostnameRank host) vhosts.named name routes :=
      ⟨found, rank, isRank, fun other member => greatest other ((names other).mpr member)⟩
    rw [(bestMatch_eq_some (hostnameRank_injective host)).mpr ⟨name, hostBest⟩]
    exact .inl ⟨name, identity, routes, tlsBest, hostBest, rfl, rfl⟩

/-- Every block of the listener has a certificate. -/
def Certified (http : Http) (key : ListenKey) : Prop :=
  ∀ server ∈ http.servers, ∀ listen ∈ server.listens, ListenKey.ofListen listen = key →
    server.tls.isSome = true

private lemma identity_of_certified (compiled : Compiled platform http router)
    (certified : Certified http key) {entry : Contribution}
    (mem : entry ∈ compiled.contributionsAt key) : entry.identity.isSome = true := by
  have sameKey := compiled.key_of_mem mem
  obtain ⟨⟨server, routes⟩, block, listened⟩ := mem_flatMap.mp (mem_of_mem_filter mem)
  obtain ⟨listen, onServer, rfl⟩ := mem_map.mp listened
  rw [contribution, isSome_map]
  exact certified server (of_mem_zip block).1 listen onServer sameKey

private lemma named_iff_of_certified (built : Compiled platform http router) (ssl : key.ssl = true)
    (certified : Certified http key) (found : router.listeners.lookup key = some vhosts)
    (tlsFound : router.listenerTls.lookup key = some tls) (name : String) :
    name ∈ tls.named ↔ name ∈ vhosts.named := by
  constructor
  · exact built.tls_named_included ssl found tlsFound
  · intro here
    obtain ⟨routes, named⟩ := mem_iff_lookup.mp here
    rw [(built.contributionsAt_ne_nil found).2, hostsOf_named] at named
    obtain ⟨entry, entryFound, _⟩ := map_eq_some_iff.mp named
    have member := mem_reverse.mp (mem_of_find?_eq_some entryFound)
    have covered : covers name entry = true := by simpa using find?_some entryFound
    obtain ⟨identity, certificate⟩ :=
      isSome_iff_exists.mp (identity_of_certified built certified member)
    obtain ⟨settings, rfl⟩ := built.tlsOf_of_lookup tlsFound
    rw [mem_iff_lookup]
    have last : ((identified (built.contributionsAt key)).reverse.find?
        fun candidate => covers name candidate.1).isSome = true :=
      find?_isSome.mpr ⟨(entry, identity),
        mem_reverse.mpr (mem_identified.mpr ⟨member, certificate⟩), covered⟩
    obtain ⟨found, foundEq⟩ := isSome_iff_exists.mp last
    exact ⟨found.2, by rw [tlsOf_named, foundEq, map_some]⟩

private lemma toAsciiLowercase_eq_normalizeHostname :
    Text.toAsciiLowercase name = normalizeHostname name ↔ Text.endsWith "." name = false := by
  have untrimmed : Text.trimEndMatches '.' name = name ↔ Text.endsWith "." name = false := by
    rw [trimEndMatches_eq_self]
    exact endsWith_singleton.symm
  rw [← untrimmed, normalizeHostname]
  constructor
  · intro same
    have lengths : name.toList.length = (trimEndMatches '.' name).toList.length := by
      simpa [toAsciiLowercase] using congrArg (fun text => text.toList.length) same
    have kept := (trimEndMatches_toList_isPrefix '.' name).eq_of_length lengths.symm
    exact toList_inj.mp kept
  · intro same
    rw [same]

/-- On a listener with certificates everywhere, a request for the name of the
handshake is accepted and both choices agree exactly when the name sent in the
handshake has no trailing dot; the choices agree in any case. -/
theorem handshake_and_host_agree_iff {platform : Platform} {http : Http} {router : CompiledRouter}
    (accepted : fromHttp platform http = .ok router) {key : ListenKey} (ssl : key.ssl = true)
    {vhosts : VirtualHostRoutes} (found : router.listeners.lookup key = some vhosts)
    (certified : Certified http key) (crates : Crates) {serverName value part host : String}
    (hostOk : normalizeRequestHost crates value = .ok host)
    (partOf : requestHostPart crates value = some part)
    (sameName : normalizeHostname serverName = normalizeHostname part) :
    ∃ tls, router.listenerTls.lookup key = some tls ∧
      SameChoice key tls vhosts serverName host ∧
      (validateSniHostConsistency (some host) (handshakeCompleteCallback (some serverName)).sni =
            .ok () ∧ SameChoice key tls vhosts serverName host ↔
        Text.endsWith "." serverName = false) := by
  obtain ⟨compiled⟩ := compiled_of_fromHttp accepted
  obtain ⟨_, _, tlsFound⟩ := compiled.exists_listenerTls ssl found
  have hostEq : normalizeHostname serverName = host := by
    obtain ⟨other, otherOf, normalized⟩ := hostPart_of_normalizeRequestHost hostOk
    rw [partOf, Option.some.injEq] at otherOf
    rw [sameName, otherOf, normalized]
  subst hostEq
  have sameChoice : SameChoice key _ vhosts serverName (normalizeHostname serverName) :=
    sameChoice_of_same_names (named_iff_of_certified compiled ssl certified found tlsFound)
      serverName
  refine ⟨_, tlsFound, sameChoice, ?_⟩
  rw [and_iff_left sameChoice, ← toAsciiLowercase_eq_normalizeHostname]
  change rejectIf _ _ = .ok () ↔ _
  rw [rejectIf_eq_ok, bne_eq_false_iff_eq]
  exact eq_comm

end Names

namespace DotExample

def crates : Crates where
  authorityHost value := some value
  formUrlencodedParse _ := []
  regexIsMatch _ _ _ := false
  uriPrinted text := .ok text

def http : Http where
  servers :=
    [{ serverNames := ["example.com"]
       listens := [{ port := 443, ssl := true }]
       tls := some (.custom
         { cert := .path (PathBuf.ofText "/etc/ssl/cert.pem")
           key := .path (PathBuf.ofText "/etc/ssl/key.pem") }) }]

def key : ListenKey := ListenKey.ofListen { port := 443, ssl := true }

end DotExample

open DotExample in
/-- The name with a trailing dot is accepted in the handshake and in the `Host`
header, but not for both at once. -/
theorem dotted_name_misdirected :
    normalizeRequestHost crates "example.com." = .ok "example.com" ∧
      (handshakeCompleteCallback (some "example.com.")).sni = some "example.com." ∧
      validateSniHostConsistency (some "example.com") (some "example.com.") =
        .error (explain (.httpStatus 421)
          "tls sni `example.com.` does not match http host `example.com`") := by
  decide

open DotExample in
theorem plain_name_agrees :
    ∃ router vhosts tls, fromHttp Reference.platform http = .ok router ∧
      router.listeners.lookup key = some vhosts ∧
      router.listenerTls.lookup key = some tls ∧
      SameChoice key tls vhosts "Example.com" "example.com" ∧
      validateSniHostConsistency (some "example.com")
        (handshakeCompleteCallback (some "Example.com")).sni = .ok () := by
  have run : ∃ router, fromHttp Reference.platform http = .ok router ∧
      ∃ vhosts, router.listeners.lookup key = some vhosts ∧ True := by decide +kernel
  obtain ⟨router, accepted, vhosts, found, _⟩ := run
  have certified : Certified http key := by
    intro server member listen _ _
    rw [mem_singleton.mp member]
    rfl
  have hostOk : normalizeRequestHost crates "EXAMPLE.com." = .ok "example.com" := by decide
  have partOf : requestHostPart crates "EXAMPLE.com." = some "EXAMPLE.com." := by decide
  have sameName : normalizeHostname "Example.com" = normalizeHostname "EXAMPLE.com." := by decide
  obtain ⟨tls, tlsFound, _, agrees⟩ :=
    handshake_and_host_agree_iff accepted rfl found certified crates hostOk partOf sameName
  obtain ⟨consistent, sameChoice⟩ := agrees.mpr (by decide)
  exact ⟨router, vhosts, tls, accepted, found, tlsFound, sameChoice, consistent⟩

/-- A host as names of virtual hosts are written. -/
structure ProperName (host : String) : Prop where
  nonempty : host ≠ ""
  normalized : normalizeHostname host = host
  lowered : ∀ char ∈ host.toList, char.isUpper = false
  undotted : Text.endsWith "." host = false

private lemma isUpper_toLower (char : Char) : char.toLower.isUpper = false := by
  have code := toNat_toLower char
  rw [Bool.eq_false_iff]
  intro upper
  have bounds : 65 ≤ char.toLower.toNat ∧ char.toLower.toNat ≤ 90 := by
    delta Char.isUpper at upper
    simpa [UInt32.le_iff_toNat_le] using upper
  split at code <;> omega

private lemma normalizeHostname_eq_empty :
    normalizeHostname host = "" ↔ ∀ char ∈ host.toList, char = '.' := by
  simp [normalizeHostname, toAsciiLowercase, trimEndMatches, ← toList_inj,
    rdropWhile_eq_nil_iff]

/-- The name of an accepted `Host` header is a proper one exactly when its host
is not made of dots only; it is normalised in any case. -/
theorem request_host_proper_iff {crates : Crates} {value host : String}
    (accepted : normalizeRequestHost crates value = .ok host) :
    ProperName host ↔ ∃ part, requestHostPart crates value = some part ∧
      ∃ char ∈ part.toList, char ≠ '.' := by
  obtain ⟨part, partOf, rfl⟩ := hostPart_of_normalizeRequestHost accepted
  have named : (∃ char ∈ part.toList, char ≠ '.') ↔ normalizeHostname part ≠ "" := by
    simp [normalizeHostname_eq_empty]
  constructor
  · intro proper
    exact ⟨part, partOf, named.mpr proper.nonempty⟩
  · rintro ⟨other, otherOf, char⟩
    rw [partOf, Option.some.injEq] at otherOf
    subst otherOf
    have fixed := normalizeHostname_idem part
    have lowered : toAsciiLowercase (normalizeHostname part) = normalizeHostname part := by
      rw [normalizeHostname, toAsciiLowercase_idem]
    refine ⟨named.mp char, fixed, ?_, ?_⟩
    · rw [normalizeHostname, toAsciiLowercase, String.toList_ofList, List.forall_mem_map]
      exact fun char _ => isUpper_toLower char
    · rw [← toAsciiLowercase_eq_normalizeHostname, fixed, lowered]

open DotExample in
theorem mixed_case_host_proper : ProperName "example.com" := by
  have accepted : normalizeRequestHost crates "Example.COM.." = .ok "example.com" := by decide
  exact (request_host_proper_iff accepted).mpr ⟨_, rfl, 'E', by decide, by decide⟩

open DotExample in
/-- Dots pass the check for an empty host before they are trimmed. -/
theorem dots_only_host_empty :
    normalizeRequestHost crates ".." = .ok "" ∧ ¬ProperName "" :=
  ⟨by decide, fun proper => proper.nonempty rfl⟩

end Ngxora.Routing
