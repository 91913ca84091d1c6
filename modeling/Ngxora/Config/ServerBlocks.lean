/-
Server blocks: listeners, names and certificates.
-/

import Ngxora.Config.LocationBlocks

namespace Ngxora.Config

open Results Digits Net

def applySslProviderDirective (config : LetsEncryptConfig) (name : String)
    (args : List String) : Except Stop LetsEncryptConfig :=
  if name = "acme_directory" then do
    pure { config with acmeDirectory := some (← parseExactlyOneArgument args name) }
  else if name = "email" then do
    pure { config with email := some (← parseExactlyOneArgument args name) }
  else if name = "cache_dir" then do
    pure { config with cacheDir := some (PathBuf.ofText (← parseExactlyOneArgument args name)) }
  else .error (.lowerErr s!"ssl_provider: unsupported directive `{name}`")

def lowerSslProvider (args : List String) (children : List Node) :
    Except Stop LetsEncryptConfig := do
  rejectIf args.isEmpty (.lowerErr "ssl_provider: expected provider name (letsencrypt)")
  rejectIf (args != ["letsencrypt"])
    (.lowerErr "ssl_provider: only 'letsencrypt' is supported as a provider name")
  foldDirectives applySslProviderDirective
    (fun nested => s!"ssl_provider: unexpected block `{nested}`") {} children

def unspecifiedV4 : IpAddr := .v4 { a := 0, b := 0, c := 0, d := 0 }

variable (platform : Platform) (formats : Formats)

def listenEndpoint (endpoint : String) : Except Stop Listen :=
  match Text.afterStart "*:" endpoint with
  | some portText => do
    let port ← orFail (parseU16 portText)
      (.lowerErr s!"listen: invalid port {formats.debug portText}")
    pure { addr := unspecifiedV4, port }
  | none =>
    if Text.startsWith "unix:" endpoint then
      .error (.lowerErr "listen: unix sockets not supported")
    else
      match SocketAddr.parse endpoint with
      | some address => .ok { addr := address.ip, port := address.port }
      | none => do
        let port ← orFail (parseU16 endpoint)
          (.lowerErr s!"Failed parse address: {formats.debug endpoint}")
        pure { addr := unspecifiedV4, port }

def listenParameter (parameters : List String) (listen : Listen) (parameter : String) :
    Except Stop Listen :=
  if parameter = "ssl" then .ok { listen with ssl := true }
  else if parameter = "default_server" then .ok { listen with defaultServer := true }
  else if parameter = "http2" then .ok { listen with http2 := true }
  else if parameter = "http2_only" then .ok { listen with http2 := true, http2Only := true }
  else .error (.lowerErr s!"Unknow params: {formats.debugList parameters}")

def parseListenDirectives (args : List String) : Except Stop Listen :=
  match args with
  | [] => .error (.lowerErr "listen: expected endpoint")
  | endpoint :: parameters => do
    let listen ← listenEndpoint formats endpoint
    let listen ← parameters.foldlM (listenParameter formats parameters) listen
    rejectIf (listen.http2 && !listen.ssl)
      (.lowerErr "listen: http2/http2_only requires ssl; use h2c for plaintext HTTP/2")
    pure listen

def sslProtocol (name : String) : Except Stop TlsProtocolVersion :=
  if name = "TLSv1" then .ok .tls1
  else if name = "TLSv1.2" then .ok .tls1_2
  else if name = "TLSv1.3" then .ok .tls1_3
  else .error (.lowerErr s!"ssl_protocols: unsupported protocol `{name}`")

def versionSet (versions : List TlsProtocolVersion) : List TlsProtocolVersion :=
  [.tls1, .tls1_2, .tls1_3].filter (versions.contains ·)

def parseSslProtocols (args : List String) : Except Stop TlsProtocolBounds := do
  rejectIf args.isEmpty (.lowerErr "ssl_protocols: expected at least 1 argument")
  let versions ← args.mapM sslProtocol
  match versionSet versions with
  | [version] => pure { min := version, max := version }
  | [.tls1_2, .tls1_3] => pure { min := .tls1_2, max := .tls1_3 }
  | _ =>
    .error (.lowerErr <| "ssl_protocols: supported combinations are `TLSv1`, `TLSv1.2`, " ++
      "`TLSv1.3`, or `TLSv1.2 TLSv1.3`")

def parseSslVerifyClient (args : List String) : Except Stop TlsVerifyClient :=
  match args with
  | [value] =>
    if value = "off" then .ok .off
    else if value = "optional" then .ok .optional
    else if value = "required" then .ok .required
    else .error (.lowerErr "ssl_verify_client: expected off|optional|required")
  | [] => .error (.lowerErr "ssl_verify_client: expected off|optional|required")
  | _ => .error (.lowerErr "ssl_verify_client: expected exactly one argument")

def noPem : PemSource := .path (PathBuf.ofText "")

def noIdentity : TlsIdentity := { cert := noPem, key := noPem }

def setIdentity (provider : Option SslProvider) (set : TlsIdentity → TlsIdentity) :
    Option SslProvider :=
  match provider.getD (.custom noIdentity) with
  | .custom identity => some (.custom (set identity))
  | .letsEncrypt => some .letsEncrypt

def applyServerDirective (server : Server) (name : String) (args : List String) :
    Except Stop Server :=
  if name = "listen" then do
    pure { server with listens := server.listens ++ [← parseListenDirectives formats args] }
  else if name = "server_name" then do
    rejectIf args.isEmpty (.lowerErr "server_name: expected at least 1 argument")
    pure { server with serverNames := server.serverNames ++ args }
  else if name = "ssl_certificate" then do
    let path ← parseExactlyOneArgument args name
    pure { server with
      tls := setIdentity server.tls fun identity => { identity with cert := pemSource path } }
  else if name = "ssl_certificate_key" then do
    let path ← parseExactlyOneArgument args name
    pure { server with
      tls := setIdentity server.tls fun identity => { identity with key := pemSource path } }
  else if name = "ssl_protocols" then do
    let protocols ← parseSslProtocols args
    pure { server with tlsOptions := { server.tlsOptions with protocols := some protocols } }
  else if name = "ssl_verify_client" then do
    let verify ← parseSslVerifyClient args
    pure { server with tlsOptions := { server.tlsOptions with verifyClient := verify } }
  else if name = "ssl_client_certificate" then do
    let path ← parseExactlyOneArgument args name
    pure { server with
      tlsOptions := { server.tlsOptions with clientCertificate := some (pemSource path) } }
  else .error (.lowerErr s!"unsupported server directive: {name}")

def validateServer (server : Server) : Except Stop Unit :=
  rejectIf (server.tlsOptions.verifyClient != .off && server.tlsOptions.clientCertificate.isNone)
    (.lowerErr "ssl_verify_client: requires ssl_client_certificate")

def serverNode (server : Server) : Node → Except Stop Server
  | .directive name args => applyServerDirective formats server name args
  | .block name args children =>
    if name = "location" then do
      let location ← lowerLocation platform formats args children
      pure { server with locations := server.locations ++ [location] }
    else .error (.lowerErr s!"Unknown name of block: {formats.debug name}")

def lowerServer (children : List Node) : Except Stop Server := do
  let server ← children.foldlM (serverNode platform formats) {}
  validateServer server
  pure server

end Ngxora.Config
