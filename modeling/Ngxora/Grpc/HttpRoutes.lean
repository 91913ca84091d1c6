/-
Structured matches, redirects, rewrites and client policy of the wire format.
-/

import Ngxora.Grpc.Values

namespace Ngxora.Grpc

open Net Results
open Proto (WireEnum tryFrom tryFrom_code)

def directStatus (status : UInt32) : Except String UInt16 :=
  orFail (Machine.narrowU16 status) "direct response status out of range"

def modifierFromProto (value : Proto.PathModifier) : Except String PathModifier := do
  let kind ← orFail value.kind "path modifier kind is required"
  match kind with
  | .replaceFullPath path => pure (.replaceFullPath path)
  | .replacePrefixMatch path => pure (.replacePrefixMatch path)

def modifierToProto : PathModifier → Proto.PathModifier
  | .replaceFullPath path => { kind := some (.replaceFullPath path) }
  | .replacePrefixMatch path => { kind := some (.replacePrefixMatch path) }

def httpRedirectFromProto (value : Proto.HttpRedirect) : Except String HttpRedirect := do
  let status ← directStatus (if value.status = 0 then 302 else value.status)
  let port ← Results.traverse
    (fun port => orFail (Machine.narrowU16 port) "redirect port out of range") value.port
  let path ← Results.traverse modifierFromProto value.path
  pure { status, scheme := value.scheme, hostname := value.hostname, port, path }

def conditionFromProto (condition : Proto.ExactCondition) : String × String :=
  (condition.name, condition.value)

def conditionToProto (condition : String × String) : Proto.ExactCondition :=
  { name := condition.1, value := condition.2 }

def httpMatchFromProto (value : Proto.HttpMatch) : HttpMatch :=
  { path :=
      match value.path with
      | some (.exact path) => .exact path
      | some (.pathPrefix path) => .pathPrefix path
      | none => .pathPrefix "/"
    method := value.method
    headers := value.headers.map conditionFromProto
    queryParams := value.queryParams.map conditionFromProto }

def httpMatchToProto (value : HttpMatch) : Proto.HttpMatch :=
  { path :=
      match value.path with
      | .exact path => some (.exact path)
      | .pathPrefix path => some (.pathPrefix path)
    method := value.method
    headers := value.headers.map conditionToProto
    queryParams := value.queryParams.map conditionToProto }

def parseNetwork (platform : Platform) (value : String) : Option IpNet :=
  (platform.ipNetParse value).or ((IpAddr.parse value).map IpNet.ofAddr)

def network (platform : Platform) (value : String) : Except String IpNet :=
  orFail (parseNetwork platform value) s!"invalid IP or CIDR `{value}`"

def accessFromProto (platform : Platform) (rule : Proto.IpAccessRule) :
    Except String LocationIpRule :=
  match tryFrom Proto.AccessAction rule.action with
  | some .allow =>
    if rule.source = "all" then .ok .allowAll
    else LocationIpRule.allow <$> network platform rule.source
  | some .deny =>
    if rule.source = "all" then .ok .denyAll
    else LocationIpRule.deny <$> network platform rule.source
  | _ => .error "IP access rule requires action ALLOW or DENY"

def accessToProto (rule : LocationIpRule) : Proto.IpAccessRule :=
  { action := WireEnum.code (if rule.isAllow then Proto.AccessAction.allow else .deny)
    source :=
      match rule with
      | .allow network | .deny network => network.toText
      | .allowAll | .denyAll => "all" }

def realIpFromProto (platform : Platform) (config : Proto.RealIpConfig) :
    Except String RealIpConfig := do
  let trustedProxies ← config.trustedProxies.mapM (network platform)
  let config : RealIpConfig :=
    { trustedProxies
      header := if config.header.isEmpty then "X-Forwarded-For" else config.header
      recursive := config.recursive.getD true }
  config.validate
  pure config

def realIpToProto (config : RealIpConfig) : Proto.RealIpConfig :=
  { trustedProxies := config.trustedProxies.map IpNet.toText
    header := config.header
    recursive := some config.recursive }

section Lawful

variable {platform : Platform} (lawful : platform.Lawful)

include lawful

lemma parseNetwork_toText (range : IpNet) : parseNetwork platform range.toText = some range := by
  rw [parseNetwork, lawful.ipNetPrinted, Option.some_or]

end Lawful
end Ngxora.Grpc
