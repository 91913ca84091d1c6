/-
The libraries outside the repository.
-/

import Ngxora.Base.Results
import Ngxora.Net.IpAddr

namespace Ngxora

open Net

/-- `url::Url`: what its accessors return. -/
structure Url where
  scheme : String
  username : String := ""
  password : Option String := none
  host : Option String
  port : Option UInt16 := none
  path : String
  query : Option String := none
  fragment : Option String := none
  cannotBeABase : Bool := false
  deriving DecidableEq

namespace Url

def knownDefaultPort (scheme : String) : Option UInt16 :=
  if scheme = "http" ∨ scheme = "ws" then some 80
  else if scheme = "https" ∨ scheme = "wss" then some 443
  else if scheme = "ftp" then some 21
  else none

def portOrKnownDefault (url : Url) : Option UInt16 := url.port.or (knownDefaultPort url.scheme)

def isHttp (url : Url) : Bool := url.scheme == "http" || url.scheme == "https"

def userInfo (url : Url) : String :=
  if url.username = "" ∧ url.password = none then ""
  else url.username ++ (url.password.map (":" ++ ·)).getD "" ++ "@"

def authority (url : Url) : String :=
  match url.host with
  | none => ""
  | some host =>
    "//" ++ url.userInfo ++ host ++ (url.port.map fun port => ":" ++ toString port.toNat).getD ""

def toText (url : Url) : String :=
  url.scheme ++ ":" ++ url.authority ++ url.path ++
    (url.query.map ("?" ++ ·)).getD "" ++ (url.fragment.map ("#" ++ ·)).getD ""

def trimPath (url : Url) : Url :=
  let path := Text.trimEndMatches '/' url.path
  { url with path := if path = "" then "/" else path }

end Url

/-- `http::Uri`: the parts the checks read. -/
structure Uri where
  scheme : Option String
  authority : Option String
  authorityHost : String := ""
  path : String
  query : Option String := none

def addrWidth : IpAddr → Nat
  | .v4 _ => 32
  | .v6 _ => 128

structure IpNet where
  addr : IpAddr
  prefixLen : UInt8
  inRange : prefixLen.toNat ≤ addrWidth addr
  deriving DecidableEq

namespace IpNet

/-- `IpNet::from`: the network of one address. -/
def ofAddr : IpAddr → IpNet
  | .v4 address => { addr := .v4 address, prefixLen := 32, inRange := le_refl _ }
  | .v6 address => { addr := .v6 address, prefixLen := 128, inRange := le_refl _ }

def toText (network : IpNet) : String :=
  network.addr.toText ++ "/" ++ toString network.prefixLen.toNat

end IpNet

/-- `serde_json::Value`; a number is the text printed for it. -/
inductive Json where
  | null
  | bool (value : Bool)
  | number (text : String)
  | string (text : String)
  | array (items : List Json)
  | object (fields : List (String × Json))

/-- The parsers and printers of other crates. -/
structure Platform where
  urlParse : String → Except String Url
  uriParse : String → Except String Uri
  pathAndQueryParses : String → Bool
  headerNameFromBytes : String → Option String
  headerValueFromStr : String → Bool
  methodFromBytes : String → Bool
  regexBuild : Bool → String → Except String Unit
  ipNetParse : String → Option IpNet
  jsonToString : Json → Except String String
  jsonFromStr : String → Except String Json

/-- What the development assumes of the crates. -/
structure Platform.Lawful (platform : Platform) : Prop where
  /-- An `http` URL has a host; neither the host nor the printed URL holds whitespace. -/
  httpHost : ∀ {text url}, platform.urlParse text = .ok url → url.isHttp →
    ∃ host, url.host = some host ∧ host ≠ "" ∧
      ∀ char ∈ url.toText.toList, Text.isWhitespace char = false
  httpPath : ∀ {text url}, platform.urlParse text = .ok url → url.isHttp →
    Text.startsWith "/" url.path ∧ url.cannotBeABase = false
  /-- An `http` URL printed without the slashes at its end is parsed back
  without the slashes at the end of its path. -/
  reparseTrimmed : ∀ {text url}, platform.urlParse text = .ok url → url.isHttp →
    url.query = none → url.fragment = none →
      platform.urlParse (Text.trimEndMatches '/' url.toText) = .ok url.trimPath
  pathTrimmed : ∀ {path}, platform.pathAndQueryParses path → Text.startsWith "/" path →
    platform.pathAndQueryParses
      (if Text.trimEndMatches '/' path = "" then "/" else Text.trimEndMatches '/' path)
  headerNameIdem : ∀ {name canonical}, platform.headerNameFromBytes name = some canonical →
    platform.headerNameFromBytes canonical = some canonical
  ipNetPrinted : ∀ network, platform.ipNetParse (IpNet.toText network) = some network

end Ngxora
