/-
Validation of service communication proxy profiles.
-/

import Ngxora.Router.Types

namespace Ngxora.Router

open Text Results

structure ApiRoot where
  scheme : String
  host : String
  port : UInt16
  pathPrefix : String
  deriving DecidableEq

def afterMark (mark : List Char) : List Char → Option (List Char)
  | [] => none
  | char :: rest =>
    if mark.isPrefixOf (char :: rest) then some ((char :: rest).drop mark.length)
    else afterMark mark rest

namespace ApiRoot

def unsupported (value : String) : Bool :=
  decide (byteLength value > 2048) ||
    value.toList.any fun char =>
      decide (char.toNat ≤ 32) || decide (char.toNat ≥ 127) ||
        ['\\', '%', '?', '#', '@'].contains char

def rawPort (authority : String) : Option String :=
  let mark := if startsWith "[" authority then "]:" else ":"
  (afterMark mark.toList authority.toList).map String.ofList

def hostOf (text : String) : String :=
  toAsciiLowercase (trimEndMatches ']' (String.ofList (text.toList.dropWhile (· == '['))))

def defaultPort (scheme : String) : UInt16 := if scheme = "https" then 443 else 80

def portOf (scheme authority : String) : Option UInt16 :=
  match rawPort authority with
  | some raw => Digits.parseU16 raw
  | none => some (defaultPort scheme)

def parse (platform : Platform) (value : String) : Except String ApiRoot := do
  rejectIf (unsupported value) "apiRoot contains unsupported URI characters"
  let uri ← (platform.uriParse value).mapError fun _ => "invalid apiRoot"
  let scheme ← orFail uri.scheme "apiRoot requires http:// or https://"
  rejectIf (scheme != "http" && scheme != "https") "invalid apiRoot scheme"
  let authority ← orFail uri.authority "apiRoot requires an authority"
  let host := hostOf uri.authorityHost
  rejectIf (host.isEmpty || endsWith "." host || endsWith ":" authority)
    "invalid apiRoot host or port"
  let port ← orFail (portOf scheme authority) "invalid apiRoot port"
  rejectIf (port == 0) "apiRoot port must be nonzero"
  let pathPrefix := trimEndMatches '/' uri.path
  rejectIf (containsText "//" pathPrefix ||
      (splitOn '/' pathPrefix).any fun part => part == "." || part == "..")
    "invalid apiRoot prefix"
  pure { scheme, host, port, pathPrefix }

def authority (root : ApiRoot) : String :=
  let host := if contains ':' root.host then "[" ++ root.host ++ "]" else root.host
  if root.port = defaultPort root.scheme then host else host ++ ":" ++ toString root.port.toNat

def value (root : ApiRoot) : String := root.scheme ++ "://" ++ root.authority ++ root.pathPrefix

end ApiRoot

def discoveryTriple (nrf : CompiledNrfDiscovery) : String × String × String :=
  (nrf.targetNfType, nrf.serviceName, nrf.requesterNfType)

def discoveryStep (upstreams : UpstreamTable) (seen : List (String × String × String))
    (name : String) : Except String (List (String × String × String)) := do
  let group ← orFail (upstreams.lookup name)
    s!"scp references unknown discovery upstream `{name}`"
  let nrf ← orFail group.nrfDiscovery s!"scp upstream `{name}` requires nrf_discovery"
  rejectIf (decide (discoveryTriple nrf ∈ seen))
    "scp discovery upstreams have ambiguous NF/service/requester combinations"
  pure (discoveryTriple nrf :: seen)

def allowedRootStep (platform : Platform) (root : ApiRoot) (roots : List String)
    (value : String) : Except String (List String) := do
  let target ← ApiRoot.parse platform value
  rejectIf (target.host == root.host && target.port == root.port)
    "scp cannot target its own authority"
  rejectIf (decide (target.value ∈ roots)) "duplicate scp allowed target"
  pure (target.value :: roots)

def validateProfile (platform : Platform) (upstreams : UpstreamTable) (profile : ScpProfile) :
    Except String Unit := do
  rejectIf (profile.name.isEmpty || !profile.name.toList.all fun char =>
      char.isAlphanum || char == '_' || char == '-')
    "scp name must contain only letters, digits, underscore or hyphen"
  let root ← ApiRoot.parse platform profile.apiRoot
  let _ ← profile.discoveryUpstreams.foldlM (discoveryStep upstreams) []
  let roots ← profile.allowedTargetApiRoots.foldlM (allowedRootStep platform root) []
  rejectIf (profile.discoveryUpstreams.isEmpty && roots.isEmpty)
    "scp requires discovery_upstream or allow_target_api_root"

def addProfile (platform : Platform) (upstreams : UpstreamTable)
    (profiles : Table String ScpProfile) (profile : ScpProfile) :
    Except String (Table String ScpProfile) := do
  validateProfile platform upstreams profile
  rejectIf (profiles.lookup profile.name).isSome s!"duplicate scp profile `{profile.name}`"
  pure (profiles.insert profile.name profile)

/-- The text is a root other than that of the proxy. -/
def AllowedTarget (platform : Platform) (root : ApiRoot) (value : String) (target : ApiRoot) :
    Prop :=
  ApiRoot.parse platform value = .ok target ∧
    (target.host == root.host && target.port == root.port) = false

/-- What is checked of a profile besides repeated targets. -/
structure OtherChecks (platform : Platform) (upstreams : UpstreamTable) (profile : ScpProfile)
    (root : ApiRoot) : Prop where
  name : (profile.name.isEmpty || !profile.name.toList.all fun char =>
    char.isAlphanum || char == '_' || char == '-') = false
  apiRoot : ApiRoot.parse platform profile.apiRoot = .ok root
  discovery : ∃ seen, profile.discoveryUpstreams.foldlM (discoveryStep upstreams) [] = .ok seen
  targets : ∀ value ∈ profile.allowedTargetApiRoots, ∃ target,
    AllowedTarget platform root value target

variable {platform : Platform} {upstreams : UpstreamTable} {profile : ScpProfile}

lemma allowed_of_foldlM {root : ApiRoot} {values start finish : List String}
    (ok : values.foldlM (allowedRootStep platform root) start = .ok finish) :
    ∀ value ∈ values, ∃ target, AllowedTarget platform root value target := by
  intro value mem
  obtain ⟨_, _, step⟩ := exists_step_of_foldlM ok value mem
  obtain ⟨target, parsed, _, notOwn, _⟩ := bind₂_eq_ok.mp step
  exact ⟨target, parsed, rejectIf_eq_ok.mp notOwn⟩

lemma otherChecks_of_valid (valid : validateProfile platform upstreams profile = .ok ()) :
    ∃ root, OtherChecks platform upstreams profile root := by
  obtain ⟨_, name, root, rootOk, seen, discovered, valid⟩ := bind₃_eq_ok.mp valid
  obtain ⟨_, allowed, _⟩ := bind_eq_ok.mp valid
  exact ⟨root, rejectIf_eq_ok.mp name, rootOk, ⟨seen, discovered⟩, allowed_of_foldlM allowed⟩

lemma addProfile_eq_ok (table : Table String ScpProfile) (profile : ScpProfile)
    (next : Table String ScpProfile) : addProfile platform upstreams table profile = .ok next ↔
      ∃ added, (added = profile ∧ validateProfile platform upstreams profile = .ok ()) ∧
        table.lookup added.name = none ∧ next = table.insert added.name added := by
  constructor
  · intro ok
    obtain ⟨_, valid, _, absent, same⟩ := bind₂_eq_ok.mp ok
    cases same
    rw [rejectIf_eq_ok, Option.isSome_eq_false_iff, Option.isNone_iff_eq_none] at absent
    exact ⟨profile, ⟨rfl, valid⟩, absent, rfl⟩
  · rintro ⟨added, ⟨rfl, valid⟩, absent, rfl⟩
    simp [addProfile, valid, absent]

lemma validate_of_lookup {profiles : List ScpProfile} {table : Table String ScpProfile}
    (added : profiles.foldlM (addProfile platform upstreams) ∅ = .ok table) {name : String}
    (found : table.lookup name = some profile) :
    validateProfile platform upstreams profile = .ok () := by
  obtain ⟨values, rel, nodup, same⟩ :=
    (Table.foldlM_insert_eq_ok ScpProfile.name addProfile_eq_ok).mp added
  subst same
  obtain ⟨mem, _⟩ := (Table.lookup_indexBy ScpProfile.name nodup).mp found
  obtain ⟨_, _, same, valid⟩ := exists_of_mem_right rel mem
  rwa [same]

end Ngxora.Router
