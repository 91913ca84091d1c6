/-
Requests to a service communication proxy.
-/

import Ngxora.Http.Headers
import Ngxora.Nrf.Extract

namespace Ngxora.Scp

open Text Results Router Http
open Nrf (NrfQuery ScpError token)

def unspecified (status : UInt16) (detail : String) : ScpError where
  status
  cause := "UNSPECIFIED_MSG_FAILURE"
  detail

def invalid (detail : String) : ScpError where
  status := 400
  cause := "MANDATORY_IE_INCORRECT"
  detail

def invalidApi (detail : String) : ScpError where
  status := 400
  cause := "INVALID_API"
  detail

def targetUnreachable : ScpError where
  status := 504
  cause := "TARGET_NF_NOT_REACHABLE"
  detail := "No reachable target in the allowed routing domain"

def discoveryHeader : String := "3gpp-sbi-discovery-"

def targetHeader : String := "3gpp-sbi-target-apiroot"

def single (headers : HeaderMap) (name : String) : Except ScpError (Option String) :=
  match headers.getAll name with
  | [] => .ok none
  | [first] => do
    let text ← orFail first.toStr (invalid s!"Invalid {name}")
    let value := trim text
    rejectIf (value.isEmpty || decide (byteLength value > 2048)) (invalid s!"Invalid {name}")
    pure (some value)
  | _ :: _ :: _ => .error (invalid s!"Duplicate {name}")

structure Binding where
  nf : Option String := none
  service : Option String := none
  serviceName : Option String := none

def bindingStep (fields : Table String String) (part : String) :
    Except ScpError (Table String String) := do
  let (key, value) ← orFail (splitOnce '=' (trim part))
    (invalid "Malformed routing binding")
  rejectIf (!token value || (fields.lookup key).isSome)
    (invalid "Invalid or duplicate binding parameter")
  rejectIf (!(["bl", "nfinst", "nfservinst", "servname"].contains key))
    (invalid "Unsupported binding parameter")
  pure (fields.insert key value)

def binding (value : String) : Except ScpError Binding := do
  let fields ← (splitOn ';' value).foldlM bindingStep ∅
  let level := (fields.lookup "bl").getD ""
  rejectIf (!(["nf-instance", "nfservice-instance"].contains level) ||
      (fields.lookup "nfinst").isNone ||
      (level == "nfservice-instance" && (fields.lookup "nfservinst").isNone) ||
      (level == "nf-instance" && (fields.lookup "nfservinst").isSome))
    (invalid "Unsupported or incomplete routing binding")
  pure
    { nf := fields.lookup "nfinst"
      service := fields.lookup "nfservinst"
      serviceName := fields.lookup "servname" }

/-- A selector that is not supported, or a header that would choose the next hop. -/
def checkHeaderName (name : String) : Except ScpError Unit := do
  rejectIf ((afterStart discoveryHeader name).any fun selector =>
      !(["target-nf-type", "requester-nf-type", "service-names", "target-nf-instance-id",
        "requester-nf-instance-id"].contains selector))
    { status := 400
      cause := "INVALID_DISCOVERY_PARAM"
      detail := "Unsupported discovery parameter" }
  rejectIf (["3gpp-sbi-nrf-uri", "3gpp-sbi-scp-apiroot", "3gpp-sbi-selection-info"].contains name)
    (invalid "Request-driven NRF or next-hop selection is unsupported")

/-- `replace("%2e", ".")`. -/
def replaceDots : List Char → List Char
  | '%' :: '2' :: 'e' :: rest => '.' :: replaceDots rest
  | char :: rest => char :: replaceDots rest
  | [] => []

def servicePath (root : ApiRoot) (path : String) : Except ScpError String := do
  let rest ← orFail ((afterStart root.pathPrefix path).filter fun rest =>
      rest.isEmpty || startsWith "/" rest)
    (invalid "Request path is outside the configured SCP apiRoot")
  let rest := if rest.isEmpty then "/" else rest
  let checked := String.ofList (replaceDots (toAsciiLowercase rest).toList)
  rejectIf (contains '\\' checked || containsText "%2f" checked ||
      containsText "%5c" checked ||
      (splitOn '/' checked).any fun segment => segment == "." || segment == "..")
    (invalid "Ambiguous or traversing request path")
  pure rest

def forwardedQuery (query : Option String) : Option String :=
  (query.map fun text => "&".intercalate ((splitOn '&' text).filter fun part =>
    (splitOn '=' part).head? ≠ some "ck")).filter fun text => !text.isEmpty

def apiOf (path : String) : Except ScpError (String × String) := do
  let parts := splitOn '/' (String.ofList (path.toList.dropWhile (· == '/')))
  let service := (parts[0]?).getD ""
  let version := (parts[1]?).getD ""
  rejectIf (!token service || !(afterStart "v" version).any fun digits =>
      !digits.isEmpty && digits.toList.all Char.isDigit)
    (invalidApi "Expected /service/vN/resource")
  pure (service, version)

structure ScpRequest where
  target : Option ApiRoot
  targetType : Option String
  requesterType : Option String
  query : NrfQuery
  discovery : Bool
  bound : Bool
  pathQuery : String
  hops : UInt8

def selector (headers : HeaderMap) (name : String) : Except ScpError (Option String) := do
  let value ← single headers (discoveryHeader ++ name)
  rejectIf (value.any fun value => !token value) (invalid "Invalid discovery selector")
  pure value

def serviceNames (names : Option String) : Except ScpError (List String) := do
  let names := (names.map fun text => (splitOn ',' text).map trim).getD []
  rejectIf (names.any (fun name => !token name) || decide (names.length > 16) ||
      decide (names.dedup.length ≠ names.length)) (invalid "Invalid service-names")
  pure names

def ownAuthority (own root : ApiRoot) : Bool := root.host == own.host && root.port == own.port

def parseTarget (platform : Platform) (headers : HeaderMap) (root : ApiRoot) :
    Except ScpError (Option ApiRoot) := do
  let value ← single headers targetHeader
  let target ← (match value with
    | none => pure none
    | some value =>
      match ApiRoot.parse platform value with
      | .ok target => pure (some target)
      | .error message => .error (invalid message))
  rejectIf (target.any (ownAuthority root)) (unspecified 508 "SCP routing loop")
  pure target

/-- The hops a request may still take, one when it does not say. -/
def parseHops (headers : HeaderMap) : Except ScpError UInt8 := do
  let value ← single headers "3gpp-sbi-max-forward-hops"
  let hops ← (match value with
    | none => pure 1
    | some value => do
      let number ← orFail (Digits.parseUnsigned (2 ^ 8) value) (invalid "Invalid hop count")
      pure (UInt8.ofNat number))
  rejectIf (hops == 0) (unspecified 508 "SCP hop limit exhausted")
  pure hops

/-- The API a discovery asks for: its version and the names of its services. -/
def discoveredApi (discovery : Bool) (path : String) (names : List String) :
    Except ScpError (String × List String) :=
  if !discovery then pure ("", names)
  else do
    let (service, version) ← apiOf path
    let names := if names = [] then [service] else names
    rejectIf (names.head? ≠ some service)
      (invalidApi "First service name differs from request API")
    pure (version, names)

def boundInstances (selected : Option String) (names : List String) (bound : Option Binding) :
    Except ScpError (Option String × Option String) :=
  match bound with
  | none => pure (selected, none)
  | some bound => do
    rejectIf ((selected.any fun id => some id ≠ bound.nf) ||
        bound.serviceName.any fun name => some name ≠ names.head?)
      (invalid "Binding conflicts with discovery")
    pure (bound.nf, bound.service)

def ScpRequest.parse (platform : Platform) (headers : HeaderMap) (method path : String)
    (query : Option String) (root : ApiRoot) : Except ScpError ScpRequest := do
  rejectIf (method == "CONNECT") (unspecified 405 "CONNECT is not supported by SCP")
  headers.entries.forM fun entry => checkHeaderName entry.1
  let target ← parseTarget platform headers root
  let hops ← parseHops headers
  let path ← servicePath root path
  let pathQuery := match forwardedQuery query with
    | some text => path ++ "?" ++ text
    | none => path
  let targetType ← selector headers "target-nf-type"
  let requesterType ← selector headers "requester-nf-type"
  let targetInstance ← selector headers "target-nf-instance-id"
  let requesterInstance ← selector headers "requester-nf-instance-id"
  let names ← single headers "3gpp-sbi-discovery-service-names"
  let bindingText ← single headers "3gpp-sbi-routing-binding"
  let bound ← (match bindingText with
    | none => pure none
    | some text => some <$> binding text)
  let selected := targetType.isSome || requesterType.isSome || targetInstance.isSome ||
    requesterInstance.isSome
  let discovery := target.isNone || selected || names.isSome || bound.isSome
  let names ← serviceNames names
  let (apiVersion, names) ← discoveredApi discovery path names
  let (nfInstanceId, serviceInstanceId) ← boundInstances targetInstance names bound
  pure
    { target
      targetType
      requesterType
      query :=
        { nfInstanceId
          requesterInstanceId := requesterInstance
          serviceInstanceId
          apiVersion
          serviceNames := names }
      discovery
      bound := bound.isSome
      pathQuery
      hops := hops - 1 }

/-- The headers ask for this NF instance. -/
def AsksForNf (headers : HeaderMap) (id : String) : Prop :=
  selector headers "target-nf-instance-id" = .ok (some id) ∨
    ∃ text bound, single headers "3gpp-sbi-routing-binding" = .ok (some text) ∧
      binding text = .ok bound ∧ bound.nf = some id

def AsksForService (headers : HeaderMap) (id : String) : Prop :=
  ∃ text bound, single headers "3gpp-sbi-routing-binding" = .ok (some text) ∧
    binding text = .ok bound ∧ bound.service = some id

/-- The hops that the headers leave, one without a header. -/
def ReceivedHops (headers : HeaderMap) (hops : Nat) : Prop :=
  match single headers "3gpp-sbi-max-forward-hops" with
  | .ok none => hops = 1
  | .ok (some text) => Digits.parseUnsigned (2 ^ 8) text = some hops
  | .error _ => False

/-- The target is not the proxy and at least one hop is left. -/
structure ScpRequest.Accepted (headers : HeaderMap) (root : ApiRoot) (request : ScpRequest) :
    Prop where
  notOwn : ∀ target ∈ request.target, ownAuthority root target = false
  hops : ReceivedHops headers (request.hops.toNat + 1)
  nf : ∀ id, AsksForNf headers id → request.query.nfInstanceId = some id
  service : ∀ id, AsksForService headers id → request.query.serviceInstanceId = some id
  direct : request.discovery = false → request.target.isSome

variable {platform : Platform} {headers : HeaderMap} {root : ApiRoot} {target : Option ApiRoot}
  {method path : String} {query : Option String} {request : ScpRequest}

lemma notOwn_of_parseTarget (parsed : parseTarget platform headers root = .ok target) :
    ∀ found ∈ target, ownAuthority root found = false := by
  obtain ⟨value, _, found, _, _, notOwn, same⟩ := bind₃_eq_ok.mp parsed
  cases same
  rintro target ⟨⟩
  simpa using rejectIf_eq_ok.mp notOwn

lemma parsed_of_parseTarget (accepted : parseTarget platform headers root = .ok target) :
    ∀ found ∈ target, ∃ value, ApiRoot.parse platform value = .ok found := by
  obtain ⟨value, _, read, readOk, _, _, same⟩ := bind₃_eq_ok.mp accepted
  cases same
  intro found isFound
  cases value with
  | none =>
    cases readOk
    cases isFound
  | some text =>
    refine ⟨text, ?_⟩
    cases parsed : ApiRoot.parse platform text with
    | error msg =>
      simp only [parsed] at readOk
      cases readOk
    | ok root =>
      simp only [parsed] at readOk
      cases readOk
      cases isFound
      rfl

lemma receivedHops_of_parseHops {hops : UInt8} (parsed : parseHops headers = .ok hops) :
    ReceivedHops headers ((hops - 1).toNat + 1) := by
  obtain ⟨value, single, found, read, _, pos, same⟩ := bind₃_eq_ok.mp parsed
  cases same
  have nonzero : hops ≠ 0 := by simpa using rejectIf_eq_ok.mp pos
  have taken : (hops - 1).toNat + 1 = hops.toNat := by
    have some : 1 ≤ hops.toNat := Nat.one_le_iff_ne_zero.mpr fun zero =>
      nonzero (UInt8.toNat_inj.mp zero)
    rw [UInt8.toNat_sub_of_le hops 1 some]
    exact Nat.sub_add_cancel some
  rw [taken, ReceivedHops, single]
  cases value with
  | none =>
    cases read
    rfl
  | some text =>
    obtain ⟨number, parsedNumber, same⟩ := bind_eq_ok.mp read
    cases same
    have found := orFail_eq_ok.mp parsedNumber
    have small : number < UInt8.size := Digits.parseUnsigned_lt found
    have exact : (UInt8.ofNat number).toNat = number := UInt8.toNat_ofNat_of_lt' small
    simp only [exact]
    exact found

lemma boundInstances_eq_ok {selected : Option String} {names : List String} {bound : Option Binding}
    {nf service : Option String} (found : boundInstances selected names bound = .ok (nf, service)) :
    (∀ id ∈ selected, nf = some id) ∧ ∀ given ∈ bound, nf = given.nf ∧ service = given.service := by
  cases bound with
  | none =>
    cases found
    exact ⟨fun _ given => given, fun _ bad => nomatch bad⟩
  | some bound =>
    obtain ⟨_, agrees, same⟩ := bind_eq_ok.mp found
    cases same
    refine ⟨?_, ?_⟩
    · rintro id ⟨⟩
      have agree := rejectIf_eq_ok.mp agrees
      simp only [Option.any_some, Bool.or_eq_false_iff, decide_eq_false_iff_not, ne_eq,
        not_not] at agree
      exact agree.1.symm
    · rintro given ⟨⟩
      exact ⟨rfl, rfl⟩

lemma ScpRequest.steps_of_parse
    (parsed : ScpRequest.parse platform headers method path query root = .ok request) :
    parseTarget platform headers root = .ok request.target ∧
      (∃ hops, parseHops headers = .ok hops ∧ request.hops = hops - 1) ∧
      (∃ rest, servicePath root path = .ok rest ∧
        request.pathQuery = rest ++ (forwardedQuery query).elim "" ("?" ++ ·)) ∧
      (∃ targetInstance bindingText bound names,
        selector headers "target-nf-instance-id" = .ok targetInstance ∧
          single headers "3gpp-sbi-routing-binding" = .ok bindingText ∧
          (∀ text asked, bindingText = some text → binding text = .ok asked → asked ∈ bound) ∧
          boundInstances targetInstance names bound =
            .ok (request.query.nfInstanceId, request.query.serviceInstanceId)) ∧
      (request.discovery = false → request.target.isSome) := by
  obtain ⟨_, _, _, _, target, targetOk, parsed⟩ := bind₃_eq_ok.mp parsed
  obtain ⟨hops, hopsOk, rest, restOk, targetType, _, parsed⟩ := bind₃_eq_ok.mp parsed
  obtain ⟨requesterType, _, targetInstance, targetInstanceOk, requesterInstance, _, parsed⟩ :=
    bind₃_eq_ok.mp parsed
  obtain ⟨names, _, bindingText, bindingTextOk, bound, boundOk, parsed⟩ := bind₃_eq_ok.mp parsed
  obtain ⟨services, _, ⟨apiVersion, apiNames⟩, _, ⟨nf, service⟩, instances, same⟩ :=
    bind₃_eq_ok.mp parsed
  cases same
  refine ⟨targetOk, ⟨hops, hopsOk, rfl⟩, ⟨rest, restOk, ?_⟩,
    ⟨targetInstance, bindingText, bound, apiNames, targetInstanceOk, bindingTextOk, ?_, instances⟩,
    ?_⟩
  · cases forwardedQuery query with
    | none => exact String.append_empty.symm
    | some text => exact String.append_assoc
  · rintro text asked rfl askedOk
    simp only [askedOk] at boundOk
    cases boundOk
    rfl
  · intro direct
    simp only [Bool.or_eq_false_iff] at direct
    exact Option.isNone_eq_false_iff.mp direct.1.1.1

lemma ScpRequest.accepted_of_parse
    (parsed : ScpRequest.parse platform headers method path query root = .ok request) :
    request.Accepted headers root := by
  obtain ⟨targetOk, ⟨hops, hopsOk, left⟩, _, ⟨targetInstance, bindingText, bound, names,
    targetInstanceOk, bindingTextOk, given, instances⟩, direct⟩ := ScpRequest.steps_of_parse parsed
  obtain ⟨bySelector, byBinding⟩ := boundInstances_eq_ok instances
  refine ⟨notOwn_of_parseTarget targetOk, left ▸ receivedHops_of_parseHops hopsOk, ?_, ?_, direct⟩
  · rintro id (selected | ⟨text, asked, textOk, askedOk, wanted⟩)
    · rw [targetInstanceOk] at selected
      cases selected
      exact bySelector id rfl
    · have same := Except.ok.inj (bindingTextOk.symm.trans textOk)
      exact (byBinding asked (given text asked same askedOk)).1.trans wanted
  · rintro id ⟨text, asked, textOk, askedOk, wanted⟩
    have same := Except.ok.inj (bindingTextOk.symm.trans textOk)
    exact (byBinding asked (given text asked same askedOk)).2.trans wanted

end Ngxora.Scp
