/-
What the proxy hooks read of a downstream session, and the errors they return.
-/

import Ngxora.Extern
import Ngxora.Http.Headers

namespace Ngxora.Http

open Net

/-- `pingora::ErrorType`: the types the proxy tells apart, and the others by name. -/
inductive ErrorType where
  | httpStatus (code : UInt16)
  | internalError
  | readTimedout
  | other (name : String)
  deriving DecidableEq

inductive ErrorSource where
  | upstream
  | downstream
  | internal
  | unset
  deriving DecidableEq

structure PingoraError where
  etype : ErrorType
  esource : ErrorSource := .unset
  context : String
  deriving DecidableEq

def explain (etype : ErrorType) (context : String) : PingoraError :=
  { etype, context }

def runtimeConfigError (context : String) : PingoraError := explain .internalError context

inductive SocketAddr where
  | inet (ip : IpAddr) (port : UInt16)
  | unix

namespace SocketAddr

def asInet : SocketAddr → Option (IpAddr × UInt16)
  | .inet ip port => some (ip, port)
  | .unix => none

end SocketAddr

structure DownstreamTlsInfo where
  sni : Option String

structure SslDigest where
  extension : Option DownstreamTlsInfo

/-- `http::Uri` of a request: what its accessors return. -/
structure RequestUri where
  path : String
  query : Option String := none
  pathAndQuery : Option String := none

structure Session where
  serverAddr : Option SocketAddr
  clientAddr : Option SocketAddr := none
  sslDigest : Option SslDigest := none
  method : String := "GET"
  uri : RequestUri
  headers : HeaderMap := {}

end Ngxora.Http
