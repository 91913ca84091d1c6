/-
Location blocks: matchers, access rules, caching and proxy directives.
-/

import Ngxora.Config.PluginBlocks

namespace Ngxora.Config

open Results Digits Net

def pemSource (path : String) : PemSource := .path (PathBuf.ofText path)

variable (platform : Platform) (formats : Formats)

def networkFromText (value : String) : Option IpNet :=
  (platform.ipNetParse value).or ((IpAddr.parse value).map IpNet.ofAddr)

def parseLocationMatcher (args : List String) : Except Stop LocationMatcher :=
  let invalid : Except Stop LocationMatcher :=
    .error (.lowerErr s!"invalid location args: {formats.debugList args}")
  match args with
  | [op, path] =>
    if op = "=" then .ok (.exact path)
    else if op = "~" then .ok (.regex false path)
    else if op = "~*" then .ok (.regex true path)
    else if op = "^~" then .ok (.preferPrefix path)
    else invalid
  | [path] =>
    if Text.startsWith "@" path then
      .ok (.named (String.ofList (path.toList.dropWhile (· == '@'))))
    else .ok (.pathPrefix path)
  | _ => invalid

def accessNetwork (value directive : String) : Except Stop IpNet :=
  orFail (networkFromText platform value)
    (.lowerErr s!"{directive}: expected an IP address or CIDR, got `{value}`")

def accessRule (directive : String) (all : LocationIpRule) (one : IpNet → LocationIpRule)
    (args : List String) : Except Stop LocationIpRule :=
  match args with
  | [value] =>
    if value = "all" then .ok all
    else do
      pure (one (← accessNetwork platform value directive))
  | [] => .error (.lowerErr s!"{directive}: expected <ip>|<cidr>|all")
  | _ => .error (.lowerErr s!"{directive}: expected exactly 1 argument")

def applyLocationAccessRule (name : String) (args : List String) :
    Except Stop (Option LocationIpRule) :=
  if name = "allow" then some <$> accessRule platform "allow" .allowAll .allow args
  else if name = "deny" then some <$> accessRule platform "deny" .denyAll .deny args
  else .ok none

def cacheSwitch (existing : Option CacheConfig) (args : List String) :
    Except Stop (Option CacheConfig) :=
  let unexpected : Except Stop (Option CacheConfig) :=
    .error (.lowerErr s!"proxy_cache: expected 'on' or 'off', got {formats.debugList args}")
  match args with
  | [value] =>
    if value = "off" then do
      rejectIf existing.isSome
        (.lowerErr "proxy_cache off cannot be used with other cache directives")
      -- a disabled cache is not the same as no cache configuration
      pure (some { enabled := false })
    else if value = "on" then .ok (some {})
    else unexpected
  | [] => .ok (some {})
  | _ => unexpected

def cacheKeyMode (args : List String) : Except Stop CacheKeyMode :=
  match args with
  | [mode] =>
    if mode = "uri" then .ok .uri
    else if mode = "uri_and_method" then .ok .uriAndMethod
    else if mode = "normalized_uri" then .ok .normalizedUri
    else .error (.lowerErr
      s!"proxy_cache_key: expected uri, uri_and_method, or normalized_uri, got {mode}")
  | [] => .error (.lowerErr "proxy_cache_key: expected argument")
  | _ => .error (.lowerErr "proxy_cache_key: expected exactly 1 argument")

/-- The configuration after a cache directive.  A directive other than `proxy_cache`
changes an existing configuration only. -/
def applyCacheDirective (name : String) (args : List String) (existing : Option CacheConfig) :
    Except Stop (Option CacheConfig) :=
  if name = "proxy_cache" then cacheSwitch formats existing args
  else if name = "proxy_cache_ttl" then do
    let ttl ← parseSingleDurationDirective args name
    pure (existing.map fun config => { config with ttl := some ttl })
  else if name = "proxy_cache_stale_if_error" then do
    let duration ← parseSingleDurationDirective args name
    pure (existing.map fun config => { config with staleIfError := some duration })
  else if name = "proxy_cache_key" then do
    let mode ← cacheKeyMode args
    pure (existing.map fun config => { config with cacheKey := mode })
  else if name = "proxy_cache_min_uses" then do
    let uses ← parsePositiveUsize args name
    pure (existing.map fun config => { config with minUses := some uses })
  else if name = "proxy_cache_valid" then do
    let statuses ← args.mapM fun status =>
      orFail (parseU16 status) (Stop.lowerErr s!"proxy_cache_valid: invalid status code `{status}`")
    rejectIf statuses.isEmpty
      (.lowerErr "proxy_cache_valid: expected at least one status code")
    pure (existing.map fun config => { config with validStatuses := statuses })
  else if name = "proxy_cache_max_size" then do
    let raw ← parseExactlyOneArgument args name
    let size ← parseSizeLiteral raw name
    pure (existing.map fun config => { config with maxSize := some size })
  else .ok none

def parseProxyCacheBlock (args : List String) (children : List Node) : Except Stop CacheConfig := do
  rejectIf (!args.isEmpty) (.lowerErr "proxy_cache block does not accept arguments")
  foldDirectives (fun cache name args => do
      let updated ← applyCacheDirective formats name args (some cache)
      pure (updated.getD cache))
    (fun nested => s!"proxy_cache block: nested blocks are not supported: {nested}") {} children

def parseProxyUpstreamProtocol (args : List String) : Except Stop UpstreamHttpProtocol :=
  match args with
  | [value] =>
    if value = "h1" then .ok .h1
    else if value = "h2" then .ok .h2
    else if value = "h2c" then .ok .h2c
    else .error (.lowerErr "proxy_upstream_protocol: expected h1|h2|h2c")
  | [] => .error (.lowerErr "proxy_upstream_protocol: expected h1|h2|h2c")
  | _ => .error (.lowerErr "proxy_upstream_protocol: expected exactly 1 argument")

def proxyPassDirective (args : List String) : Except Stop LocationDirective :=
  match args with
  | [rawUrl] =>
    match platform.urlParse rawUrl with
    | .ok url => .ok (.proxyPass (.url url))
    | .error error =>
      .error (.lowerErr s!"proxy_pass: invalid URL: {formats.urlError error}")
  | [] => .error (.lowerErr "proxy_pass: expected URL")
  | _ => .error (.lowerErr "proxy_pass: expected exactly 1 argument")

def returnDirective (args : List String) : Except Stop LocationDirective :=
  match args with
  | [code, location] => do
    let status ← orFail (parseU16 code) (.lowerErr s!"return: invalid status code `{code}`")
    rejectIf (!(decide (300 ≤ status) && decide (status ≤ 399)))
      (.lowerErr s!"return: status {status.toNat} is not a redirect (expected 3xx)")
    pure (.returnRedirect status location)
  | [] => .error (.lowerErr "return: expected 2 arguments: <status> <location>")
  | _ => .error (.lowerErr "return: expected exactly 2 arguments: <status> <location>")

def applyLocationDirective (name : String) (args : List String) : Except Stop LocationDirective :=
  if name = "allow_methods" then do
    rejectIf args.isEmpty (.lowerErr "allow_methods requires at least one method")
    pure (.allowMethods args)
  else if name = "client_max_body_size" then do
    let raw ← parseExactlyOneArgument args name
    .clientMaxBodySize <$> parseSizeLiteral raw name
  else if name = "client_body_timeout" then
    .clientBodyTimeout <$> parseSingleDurationDirective args name
  else if name = "send_timeout" then
    .sendTimeout <$> parseSingleDurationDirective args name
  else if name = "proxy_http2_max_concurrent_streams" then
    .proxyHttp2MaxConcurrentStreams <$> parseHttp2Value name args
  else if name = "proxy_http2_stream_window_size" then
    .proxyHttp2StreamWindowSize <$> parseHttp2Value name args
  else if name = "proxy_http2_connection_window_size" then
    .proxyHttp2ConnectionWindowSize <$> parseHttp2Value name args
  else if name = "scp_pass" then .scpPass <$> parseExactlyOneArgument args name
  else if name = "proxy_pass" then proxyPassDirective platform formats args
  else if name = "proxy_connect_timeout" then
    .proxyConnectTimeout <$> parseSingleDurationDirective args name
  else if name = "proxy_read_timeout" then
    .proxyReadTimeout <$> parseSingleDurationDirective args name
  else if name = "proxy_write_timeout" then
    .proxyWriteTimeout <$> parseSingleDurationDirective args name
  else if name = "proxy_upstream_protocol" then
    .proxyUpstreamProtocol <$> parseProxyUpstreamProtocol args
  else if name = "proxy_ssl_verify" then .proxySslVerify <$> getDirectiveSwitch name args
  else if name = "proxy_ssl_trusted_certificate" then do
    pure (.proxySslTrustedCertificate (pemSource (← parseExactlyOneArgument args name)))
  else if name = "proxy_ssl_certificate" then do
    pure (.proxySslCertificate (pemSource (← parseExactlyOneArgument args name)))
  else if name = "proxy_ssl_certificate_key" then do
    pure (.proxySslCertificateKey (pemSource (← parseExactlyOneArgument args name)))
  else if name = "return" then returnDirective args
  else .error (.lowerErr s!"unknown directive in location: {name}")

structure LocationContents where
  directives : List LocationDirective := []
  plugins : List PluginSpec := []
  cache : Option CacheConfig := none
  accessRules : List LocationIpRule := []

/-- A directive of a location: caching first, then access rules, then the others.  A
cache directive after another one is refused as a duplicate. -/
def locationDirective (contents : LocationContents) (name : String) (args : List String) :
    Except Stop LocationContents := do
  match ← applyCacheDirective formats name args contents.cache with
  | some field =>
    rejectIf contents.cache.isSome (.lowerErr "duplicate proxy_cache directive in location")
    pure { contents with cache := some field }
  | none =>
    match ← applyLocationAccessRule platform name args with
    | some rule => pure { contents with accessRules := contents.accessRules ++ [rule] }
    | none => do
      let directive ← applyLocationDirective platform formats name args
      pure { contents with directives := contents.directives ++ [directive] }

def locationNode (contents : LocationContents) : Node → Except Stop LocationContents
  | .directive name args => locationDirective platform formats contents name args
  | .block name args children =>
    if name = "proxy_cache" then do
      rejectIf contents.cache.isSome (.lowerErr "duplicate proxy_cache block in location")
      let cache ← parseProxyCacheBlock formats args children
      pure { contents with cache := some cache }
    else do
      let plugin ← parseLocationPluginBlock name args children
      pure { contents with plugins := contents.plugins ++ [plugin] }

def parseLocationContents (nodes : List Node) : Except Stop LocationContents :=
  nodes.foldlM (locationNode platform formats) {}

def lowerLocation (args : List String) (children : List Node) : Except Stop Location := do
  let matcher ← parseLocationMatcher formats args
  let contents ← parseLocationContents platform formats children
  pure
    { matcher
      accessRules := contents.accessRules
      directives := contents.directives
      plugins := contents.plugins
      cache := contents.cache }

end Ngxora.Config
