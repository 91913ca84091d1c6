/-
Plugin blocks of a location.
-/

import Ngxora.Config.Values

namespace Ngxora.Config

open Results Digits

def foldDirectives {σ : Type} (apply : σ → String → List String → Except Stop σ)
    (unexpected : String → String) (start : σ) (children : List Node) : Except Stop σ :=
  children.foldlM (fun state child => match child with
    | .directive name args => apply state name args
    | .block name _ _ => .error (.lowerErr (unexpected name))) start

def nestedBlock (block name : String) : String :=
  s!"{block} block: nested blocks are not supported: {name}"

def rejectArguments (name : String) (args : List String) : Except Stop Unit :=
  rejectIf (!args.isEmpty) (.lowerErr s!"{name} block: does not accept arguments")

/-- Settings are handed on as JSON with the fields in the order of their names. -/
def jsonOption (name : String) (value : Option Json) : List (String × Json) :=
  (value.map fun value => (name, value)).toList

def jsonTexts (texts : List String) : Json := .array (texts.map .string)

def jsonNonEmpty (name : String) (texts : List String) : List (String × Json) :=
  if texts.isEmpty then [] else [(name, jsonTexts texts)]

structure RateLimitPluginConfig where
  maxRequestsPerSecond : Int := 0

def RateLimitPluginConfig.toJson (config : RateLimitPluginConfig) : Json :=
  .object [("max_requests_per_second", .number (toString config.maxRequestsPerSecond))]

def applyRateLimitDirective (config : RateLimitPluginConfig) (name : String)
    (args : List String) : Except Stop RateLimitPluginConfig :=
  if name = "rate" then do
    let value ← parseExactlyOneArgument args "rate"
    let rate ← orFail (parseIsize value)
      (.lowerErr s!"rate-limit block: rate must be an integer, got `{value}`")
    rejectIf (decide (rate ≤ 0))
      (.lowerErr s!"rate-limit block: rate must be positive, got `{rate}`")
    rejectIf (decide (config.maxRequestsPerSecond > 0))
      (.lowerErr "rate-limit block: duplicate `rate` directive")
    pure { maxRequestsPerSecond := rate }
  else .error (.lowerErr s!"rate-limit block: unsupported directive {name}")

def lowerRateLimitPlugin (name : String) (args : List String) (children : List Node) :
    Except Stop PluginSpec := do
  rejectArguments name args
  let config ← foldDirectives applyRateLimitDirective (nestedBlock "rate-limit") {} children
  rejectIf (decide (config.maxRequestsPerSecond ≤ 0))
    (.lowerErr "rate-limit block: must specify positive `rate`")
  pure { name := "rate-limit", config := config.toJson }

structure CorsPluginConfig where
  allowOrigin : Option String := none
  allowMethods : Option String := none
  allowHeaders : Option String := none
  exposeHeaders : Option String := none
  allowCredentials : Option Bool := none
  maxAge : Option UInt64 := none

def CorsPluginConfig.toJson (config : CorsPluginConfig) : Json :=
  .object (jsonOption "allow_credentials" (config.allowCredentials.map .bool) ++
    jsonOption "allow_headers" (config.allowHeaders.map .string) ++
    jsonOption "allow_methods" (config.allowMethods.map .string) ++
    jsonOption "allow_origin" (config.allowOrigin.map .string) ++
    jsonOption "expose_headers" (config.exposeHeaders.map .string) ++
    jsonOption "max_age" (config.maxAge.map fun age => .number (toString age.toNat)))

def unquote (mark : Char) (text : String) : Option String :=
  match text.toList with
  | first :: rest =>
    if first = mark ∧ rest.getLast? = some mark then some (String.ofList rest.dropLast)
    else none
  | [] => none

def joinArgs (args : List String) (name : String) : Except Stop String := do
  rejectIf args.isEmpty (.lowerErr s!"cors block: `{name}` requires at least 1 argument")
  let joined := String.intercalate " " args
  pure (((unquote '"' joined).or (unquote '\x27' joined)).getD joined)

def checkDup {α : Type} (slot : Option α) (name : String) : Except Stop Unit :=
  rejectIf slot.isSome (.lowerErr s!"cors block: duplicate `{name}` directive")

def applyCorsDirective (config : CorsPluginConfig) (name : String) (args : List String) :
    Except Stop CorsPluginConfig :=
  if name = "allow_origin" then do
    checkDup config.allowOrigin name
    pure { config with allowOrigin := some (← joinArgs args name) }
  else if name = "allow_methods" then do
    checkDup config.allowMethods name
    pure { config with allowMethods := some (← joinArgs args name) }
  else if name = "allow_headers" then do
    checkDup config.allowHeaders name
    pure { config with allowHeaders := some (← joinArgs args name) }
  else if name = "expose_headers" then do
    checkDup config.exposeHeaders name
    pure { config with exposeHeaders := some (← joinArgs args name) }
  else if name = "allow_credentials" then do
    checkDup config.allowCredentials name
    let value ← parseExactlyOneArgument args name
    rejectIf (value != "on" && value != "off")
      (.lowerErr s!"cors block: {name} must be `on` or `off`, got `{value}`")
    pure { config with allowCredentials := some (value == "on") }
  else if name = "max_age" then do
    checkDup config.maxAge name
    let value ← parseExactlyOneArgument args name
    let age ← orFail (parseU64 value)
      (.lowerErr s!"cors block: {name} must be an integer, got `{value}`")
    pure { config with maxAge := some age }
  else .error (.lowerErr s!"cors block: unsupported directive {name}")

def lowerCorsPlugin (name : String) (args : List String) (children : List Node) :
    Except Stop PluginSpec := do
  rejectArguments name args
  let config ← foldDirectives applyCorsDirective (nestedBlock "cors") {} children
  pure { name := "cors", config := config.toJson }

structure BasicAuthPluginConfig where
  username : String := ""
  password : String := ""
  realm : Option String := none

def BasicAuthPluginConfig.toJson (config : BasicAuthPluginConfig) : Json :=
  .object [
    ("password", .string config.password),
    ("realm", (config.realm.map Json.string).getD .null),
    ("username", .string config.username)]

def assignBasicAuthString (slot field value : String) : Except Stop String := do
  rejectIf (!slot.isEmpty) (.lowerErr s!"basic-auth block: duplicate {field} directive")
  pure value

def applyBasicAuthDirective (config : BasicAuthPluginConfig) (name : String)
    (args : List String) : Except Stop BasicAuthPluginConfig :=
  if name = "username" then do
    let value ← parseBasicAuthSingleValue args name "expected exactly 1 argument"
    pure { config with username := ← assignBasicAuthString config.username "username" value }
  else if name = "password" then do
    let value ← parseBasicAuthJoinedValue args name "expected at least 1 argument"
    pure { config with password := ← assignBasicAuthString config.password "password" value }
  else if name = "realm" then do
    let value ← parseBasicAuthJoinedValue args name "expected at least 1 argument"
    rejectIf config.realm.isSome (.lowerErr "basic-auth block: duplicate realm directive")
    pure { config with realm := some value }
  else .error (.lowerErr s!"basic-auth block: unsupported directive {name}")

def lowerBasicAuthPlugin (name : String) (args : List String) (children : List Node) :
    Except Stop PluginSpec := do
  rejectArguments name args
  let config ← foldDirectives applyBasicAuthDirective (nestedBlock "basic-auth") {} children
  pure { name := "basic-auth", config := config.toJson }

structure ExtAuthzPluginConfig where
  uri : String := ""
  timeoutMs : Option UInt64 := none
  allowedHosts : List String := []
  passRequestHeaders : List String := []
  passResponseHeaders : List String := []

def ExtAuthzPluginConfig.toJson (config : ExtAuthzPluginConfig) : Json :=
  .object (jsonNonEmpty "allowed_hosts" config.allowedHosts ++
    jsonNonEmpty "pass_request_headers" config.passRequestHeaders ++
    jsonNonEmpty "pass_response_headers" config.passResponseHeaders ++
    jsonOption "timeout_ms" (config.timeoutMs.map fun millis => .number (toString millis.toNat)) ++
    [("uri", .string config.uri)])

def applyExtAuthzDirective (config : ExtAuthzPluginConfig) (name : String)
    (args : List String) : Except Stop ExtAuthzPluginConfig :=
  if name = "uri" then do
    rejectIf (!config.uri.isEmpty) (.lowerErr s!"ext_authz block: duplicate `{name}` directive")
    pure { config with uri := ← parseExactlyOneArgument args name }
  else if name = "timeout" then do
    rejectIf config.timeoutMs.isSome
      (.lowerErr s!"ext_authz block: duplicate `{name}` directive")
    let value ← parseExactlyOneArgument args name
    rejectIf (Text.endsWith "ms" value || Text.endsWith "s" value)
      (.lowerErr s!"ext_authz block: `{name}` expects integer ms, got `{value}`. Strip suffix.")
    let millis ← orFail (parseU64 value)
      (.lowerErr s!"ext_authz block: `{name}` must be an integer (ms), got `{value}`")
    pure { config with timeoutMs := some millis }
  else if name = "allowed_host" then do
    let value ← parseExactlyOneArgument args name
    pure { config with allowedHosts := config.allowedHosts ++ [value] }
  else if name = "pass_request_header" then do
    let value ← parseExactlyOneArgument args name
    pure { config with passRequestHeaders := config.passRequestHeaders ++ [value] }
  else if name = "pass_response_header" then do
    let value ← parseExactlyOneArgument args name
    pure { config with passResponseHeaders := config.passResponseHeaders ++ [value] }
  else .error (.lowerErr s!"ext_authz block: unsupported directive {name}")

def lowerExtAuthzPlugin (name : String) (args : List String) (children : List Node) :
    Except Stop PluginSpec := do
  rejectArguments name args
  let config ← foldDirectives applyExtAuthzDirective (nestedBlock "ext_authz") {} children
  rejectIf config.uri.isEmpty (.lowerErr "ext_authz block: missing `uri` directive")
  rejectIf config.allowedHosts.isEmpty
    (.lowerErr "ext_authz block: missing `allowed_host` directive")
  pure { name := "ext_authz", config := config.toJson }

structure JwtAuthPluginConfig where
  algorithm : String := ""
  secret : Option String := none
  secretFile : Option String := none
  iss : Option String := none
  aud : List String := []
  sub : Option String := none
  requiredScopes : List String := []

def JwtAuthPluginConfig.toJson (config : JwtAuthPluginConfig) : Json :=
  .object ([("algorithm", .string config.algorithm)] ++ jsonNonEmpty "aud" config.aud ++
    jsonOption "iss" (config.iss.map .string) ++
    jsonNonEmpty "required_scopes" config.requiredScopes ++
    jsonOption "secret" (config.secret.map .string) ++
    jsonOption "secret_file" (config.secretFile.map .string) ++
    jsonOption "sub" (config.sub.map .string))

def jwtAuthOnce (slot : Option String) (name : String) (args : List String) :
    Except Stop (Option String) := do
  rejectIf slot.isSome (.lowerErr s!"jwt_auth block: duplicate `{name}` directive")
  pure (some (← parseExactlyOneArgument args name))

def applyJwtAuthDirective (config : JwtAuthPluginConfig) (name : String)
    (args : List String) : Except Stop JwtAuthPluginConfig :=
  if name = "algorithm" then do
    rejectIf (!config.algorithm.isEmpty)
      (.lowerErr s!"jwt_auth block: duplicate `{name}` directive")
    pure { config with algorithm := ← parseExactlyOneArgument args name }
  else if name = "secret" then do
    pure { config with secret := ← jwtAuthOnce config.secret name args }
  else if name = "secret_file" then do
    pure { config with secretFile := ← jwtAuthOnce config.secretFile name args }
  else if name = "iss" then do
    pure { config with iss := ← jwtAuthOnce config.iss name args }
  else if name = "aud" then do
    pure { config with aud := config.aud ++ [← parseExactlyOneArgument args name] }
  else if name = "sub" then do
    pure { config with sub := ← jwtAuthOnce config.sub name args }
  else if name = "required_scope" then do
    let value ← parseExactlyOneArgument args name
    pure { config with requiredScopes := config.requiredScopes ++ [value] }
  else .error (.lowerErr s!"jwt_auth block: unsupported directive {name}")

def lowerJwtAuthPlugin (name : String) (args : List String) (children : List Node) :
    Except Stop PluginSpec := do
  rejectArguments name args
  let config ← foldDirectives applyJwtAuthDirective (nestedBlock "jwt_auth") {} children
  rejectIf config.algorithm.isEmpty (.lowerErr "jwt_auth block: missing `algorithm` directive")
  rejectIf (config.secret.isNone && config.secretFile.isNone)
    (.lowerErr "jwt_auth block: either `secret` or `secret_file` must be provided")
  pure { name := "jwt_auth", config := config.toJson }

structure HeaderEntry where
  name : String
  value : String

structure HeaderPatchConfig where
  add : List HeaderEntry := []
  set : List HeaderEntry := []
  remove : List String := []

structure HeadersPluginConfig where
  forwardClientIp : Option Bool := none
  trustedProxies : List String := []
  request : HeaderPatchConfig := {}
  upstreamRequest : HeaderPatchConfig := {}
  response : HeaderPatchConfig := {}

def HeaderEntry.toJson (entry : HeaderEntry) : Json :=
  .object [("name", .string entry.name), ("value", .string entry.value)]

def HeaderPatchConfig.toJson (patch : HeaderPatchConfig) : Json :=
  .object [
    ("add", .array (patch.add.map HeaderEntry.toJson)),
    ("remove", jsonTexts patch.remove),
    ("set", .array (patch.set.map HeaderEntry.toJson))]

def HeadersPluginConfig.toJson (config : HeadersPluginConfig) : Json :=
  .object (jsonOption "forward_client_ip" (config.forwardClientIp.map .bool) ++
    [("request", config.request.toJson), ("response", config.response.toJson)] ++
    jsonNonEmpty "trusted_proxies" config.trustedProxies ++
    [("upstream_request", config.upstreamRequest.toJson)])

def parseHeaderEntry (args : List String) (directive : String) : Except Stop HeaderEntry :=
  match args with
  | [] => .error (.lowerErr s!"{directive}: expected header name and value")
  | [name] => .error (.lowerErr s!"{directive}: expected header value for `{name}`")
  | name :: value => .ok { name, value := String.intercalate " " value }

def parseHeaderRemove (args : List String) (directive : String) : Except Stop String :=
  match args with
  | [name] => .ok name
  | [] => .error (.lowerErr s!"{directive}: expected header name")
  | _ => .error (.lowerErr s!"{directive}: expected exactly 1 argument")

def HeaderPatchConfig.withAdd (patch : HeaderPatchConfig) (name : String) (args : List String) :
    Except Stop HeaderPatchConfig := do
  pure { patch with add := patch.add ++ [← parseHeaderEntry args name] }

def HeaderPatchConfig.withSet (patch : HeaderPatchConfig) (name : String) (args : List String) :
    Except Stop HeaderPatchConfig := do
  pure { patch with set := patch.set ++ [← parseHeaderEntry args name] }

def HeaderPatchConfig.withRemove (patch : HeaderPatchConfig) (name : String)
    (args : List String) : Except Stop HeaderPatchConfig := do
  pure { patch with remove := patch.remove ++ [← parseHeaderRemove args name] }

def applyHeadersDirective (config : HeadersPluginConfig) (name : String) (args : List String) :
    Except Stop HeadersPluginConfig :=
  if name = "request_add" then do
    pure { config with request := ← config.request.withAdd name args }
  else if name = "request_set" then do
    pure { config with request := ← config.request.withSet name args }
  else if name = "request_remove" then do
    pure { config with request := ← config.request.withRemove name args }
  else if name = "upstream_request_add" then do
    pure { config with upstreamRequest := ← config.upstreamRequest.withAdd name args }
  else if name = "upstream_request_set" then do
    pure { config with upstreamRequest := ← config.upstreamRequest.withSet name args }
  else if name = "upstream_request_remove" then do
    pure { config with upstreamRequest := ← config.upstreamRequest.withRemove name args }
  else if name = "response_add" then do
    pure { config with response := ← config.response.withAdd name args }
  else if name = "response_set" then do
    pure { config with response := ← config.response.withSet name args }
  else if name = "response_remove" then do
    pure { config with response := ← config.response.withRemove name args }
  else if name = "forward_client_ip" then do
    rejectIf config.forwardClientIp.isSome
      (.lowerErr "headers block: duplicate forward_client_ip directive")
    pure { config with forwardClientIp := some ((← getDirectiveSwitch name args) == .on) }
  else if name = "trusted_proxy" then do
    let value ← parseExactlyOneArgument args name
    pure { config with trustedProxies := config.trustedProxies ++ [value] }
  else .error (.lowerErr s!"headers block: unsupported directive {name}")

def lowerHeadersPlugin (args : List String) (children : List Node) : Except Stop PluginSpec := do
  rejectArguments "headers" args
  let config ← foldDirectives applyHeadersDirective (nestedBlock "headers") {} children
  pure { name := "headers", config := config.toJson }

def parseLocationPluginBlock (name : String) (args : List String) (children : List Node) :
    Except Stop PluginSpec :=
  if name = "headers" then lowerHeadersPlugin args children
  else if name = "basic-auth" ∨ name = "basic_auth" then lowerBasicAuthPlugin name args children
  else if name = "rate-limit" then lowerRateLimitPlugin name args children
  else if name = "cors" then lowerCorsPlugin name args children
  else if name = "ext_authz" then lowerExtAuthzPlugin name args children
  else if name = "jwt_auth" then lowerJwtAuthPlugin name args children
  else .error (.lowerErr s!"unexpected inner block in location: {name}")

end Ngxora.Config
