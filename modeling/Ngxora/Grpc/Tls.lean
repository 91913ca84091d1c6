/-
TLS material and protocol bounds of the control-plane wire format.
-/

import Ngxora.Grpc.Values
import Ngxora.Router.UpstreamGroups

namespace Ngxora.Grpc

open Option

open Proto (WireEnum tryFrom tryFrom_code)
open Results

def pemSourceFromProto (value : Option Proto.PemSource) (field : String) :
    Except String PemSource := do
  let source ← orFail value s!"{field} is required"
  let source ← orFail source.source s!"{field} source is required"
  match source with
  | .path path => pure (.path (PathBuf.ofText path))
  | .inlinePem pem => pure (.inlinePem pem)

def tlsIdentityFromProto (value : Proto.TlsBinding) : Except String TlsIdentity := do
  let cert ← pemSourceFromProto value.cert "tls cert"
  let key ← pemSourceFromProto value.key "tls key"
  pure { cert, key }

def tlsProtocolVersionFromProto (value : Int32) : Except String (Option TlsProtocolVersion) :=
  match (tryFrom Proto.TlsProtocolVersion value).getD .unspecified with
  | .unspecified => .ok none
  | .tls1 => .ok (some .tls1)
  | .tls1_2 => .ok (some .tls1_2)
  | .tls1_3 => .ok (some .tls1_3)

def tlsVerifyClientFromProto (value : Int32) : Except String TlsVerifyClient :=
  match (tryFrom Proto.TlsVerifyClient value).getD .unspecified with
  | .unspecified | .off => .ok .off
  | .optional => .ok .optional
  | .required => .ok .required

def tlsProtocolBounds :
    Option TlsProtocolVersion → Option TlsProtocolVersion →
      Except String (Option TlsProtocolBounds)
  | none, none => .ok none
  | some min, some max =>
    if min.rank ≤ max.rank then .ok (some { min, max })
    else .error "listener TLS protocol bounds are invalid: min_protocol > max_protocol"
  | _, _ => .error "listener TLS protocol bounds must set both min_protocol and max_protocol"

def listenerTlsOptionsFromProto (value : Option Proto.ListenerTlsOptions) :
    Except String DownstreamTlsOptions :=
  match value with
  | none => .ok {}
  | some value => do
    let min ← tlsProtocolVersionFromProto value.minProtocol
    let max ← tlsProtocolVersionFromProto value.maxProtocol
    let protocols ← tlsProtocolBounds min max
    let verifyClient ← tlsVerifyClientFromProto value.verifyClient
    let clientCertificate ← Results.traverse
      (fun source => pemSourceFromProto (some source) "client certificate")
      value.clientCertificate
    pure { protocols, verifyClient, clientCertificate }

def upstreamTlsOptionsFromProto (value : Option Proto.UpstreamTlsOptions) :
    Except String (Option UpstreamSslOptions) :=
  match value with
  | none => .ok none
  | some value => do
    let clientCertificate ← Results.traverse
      (fun source => pemSourceFromProto (some source) "route upstream client certificate")
      value.clientCertificate
    let clientCertificateKey ← Results.traverse
      (fun source => pemSourceFromProto (some source) "route upstream client certificate key")
      value.clientCertificateKey
    rejectIf (clientCertificate.isSome && clientCertificateKey.isNone)
      "UpstreamTlsOptions: client_certificate requires client_certificate_key"
    rejectIf (clientCertificate.isNone && clientCertificateKey.isSome)
      "UpstreamTlsOptions: client_certificate_key requires client_certificate"
    let trustedCertificate ← Results.traverse
      (fun source => pemSourceFromProto (some source) "route upstream trusted certificate")
      value.trustedCertificate
    pure (some
      { verifyCert := switchFromProto value.verify
        trustedCertificate
        clientCertificate
        clientCertificateKey })

def leConfigFromProto (value : Proto.LetsEncryptConfig) : LetsEncryptConfig :=
  { acmeDirectory := noneIfEmpty value.acmeDirectory
    email := noneIfEmpty value.email
    cacheDir := (noneIfEmpty value.cacheDir).map PathBuf.ofText }

def protoPemSourceFromRuntime : PemSource → Proto.PemSource
  | .path path => { source := some (.path path.display) }
  | .inlinePem pem => { source := some (.inlinePem pem) }

def protoTlsBindingFromRuntime (value : TlsIdentity) : Proto.TlsBinding :=
  { cert := some (protoPemSourceFromRuntime value.cert)
    key := some (protoPemSourceFromRuntime value.key) }

def protoTlsProtocolVersionFromRuntime : TlsProtocolVersion → Int32
  | .tls1 => WireEnum.code Proto.TlsProtocolVersion.tls1
  | .tls1_2 => WireEnum.code Proto.TlsProtocolVersion.tls1_2
  | .tls1_3 => WireEnum.code Proto.TlsProtocolVersion.tls1_3

def protoTlsVerifyClientFromRuntime : TlsVerifyClient → Proto.TlsVerifyClient
  | .off => .off
  | .optional => .optional
  | .required => .required

def protoListenerTlsOptionsFromRuntime (value : ListenerTlsSettings) : Proto.ListenerTlsOptions :=
  let bounds := (value.protocols.map fun bounds => (protoTlsProtocolVersionFromRuntime bounds.min,
        protoTlsProtocolVersionFromRuntime bounds.max)).getD
    (WireEnum.code Proto.TlsProtocolVersion.unspecified,
      WireEnum.code Proto.TlsProtocolVersion.unspecified)
  { minProtocol := bounds.1
    maxProtocol := bounds.2
    verifyClient := WireEnum.code (protoTlsVerifyClientFromRuntime value.verifyClient)
    clientCertificate := value.clientCertificate.map protoPemSourceFromRuntime }

def protoUpstreamTlsOptionsFromRuntime (value : UpstreamSslOptions) : Proto.UpstreamTlsOptions :=
  { verify := WireEnum.code (protoSwitchFromRuntime value.verifyCert)
    trustedCertificate := value.trustedCertificate.map protoPemSourceFromRuntime
    clientCertificate := value.clientCertificate.map protoPemSourceFromRuntime
    clientCertificateKey := value.clientCertificateKey.map protoPemSourceFromRuntime }

def protoLeConfigFromIr (value : LetsEncryptConfig) : Proto.LetsEncryptConfig :=
  { acmeDirectory := value.acmeDirectory.getD ""
    email := value.email.getD ""
    cacheDir := (value.cacheDir.map PathBuf.display).getD "" }

@[simp]
lemma pemSourceFromProto_encode (source : PemSource) (field : String) :
    pemSourceFromProto (some (protoPemSourceFromRuntime source)) field = .ok source := by
  cases source with
  | path path => simp [pemSourceFromProto, protoPemSourceFromRuntime]
  | inlinePem pem => rfl

lemma traverse_pem_encode (source : Option PemSource) (field : String) :
    Results.traverse (fun source => pemSourceFromProto (some source) field)
      (source.map protoPemSourceFromRuntime) = .ok source := by
  cases source <;> simp

@[simp]
lemma tlsIdentityFromProto_encode (identity : TlsIdentity) :
    tlsIdentityFromProto (protoTlsBindingFromRuntime identity) = .ok identity := by
  simp [tlsIdentityFromProto, protoTlsBindingFromRuntime]

lemma tlsProtocolVersionFromProto_encode (version : TlsProtocolVersion) :
    tlsProtocolVersionFromProto (protoTlsProtocolVersionFromRuntime version) =
      .ok (some version) := by
  cases version <;> rfl

lemma tlsVerifyClientFromProto_encode (verify : TlsVerifyClient) :
    tlsVerifyClientFromProto (WireEnum.code (protoTlsVerifyClientFromRuntime verify)) =
      .ok verify := by
  cases verify <;> rfl

def settingsOptions (settings : ListenerTlsSettings) : DownstreamTlsOptions :=
  { protocols := settings.protocols
    verifyClient := settings.verifyClient
    clientCertificate := settings.clientCertificate }

def BoundsOrdered (protocols : Option TlsProtocolBounds) : Prop :=
  ∀ bounds ∈ protocols, bounds.min.rank ≤ bounds.max.rank

lemma listenerTlsOptionsFromProto_encode {settings : ListenerTlsSettings}
    {options : DownstreamTlsOptions} :
    listenerTlsOptionsFromProto (some (protoListenerTlsOptionsFromRuntime settings)) = .ok options ↔
      BoundsOrdered settings.protocols ∧ options = settingsOptions settings := by
  obtain ⟨protocols, verifyClient, clientCertificate⟩ := settings
  simp only [listenerTlsOptionsFromProto, protoListenerTlsOptionsFromRuntime,
    tlsVerifyClientFromProto_encode, traverse_pem_encode, ok_bind, pure_eq_ok]
  cases protocols with
  | none =>
    have absent : tlsProtocolVersionFromProto
        (WireEnum.code Proto.TlsProtocolVersion.unspecified) = .ok none := rfl
    simp only [map_none, getD_none, absent, ok_bind, tlsProtocolBounds,
      Except.ok.injEq, BoundsOrdered, settingsOptions]
    simp [eq_comm]
  | some bounds =>
    simp only [map_some, getD_some, tlsProtocolVersionFromProto_encode, ok_bind, tlsProtocolBounds]
    by_cases ordered : bounds.min.rank ≤ bounds.max.rank
    · simp [ordered, BoundsOrdered, settingsOptions, eq_comm]
    · simp [ordered, BoundsOrdered]

lemma upstreamTlsOptionsFromProto_encode {options : UpstreamSslOptions}
    (paired : Router.certificatePaired options = true) :
    upstreamTlsOptionsFromProto (some (protoUpstreamTlsOptionsFromRuntime options)) =
      .ok (some options) := by
  obtain ⟨verifyCert, trusted, certificate, key⟩ := options
  simp only [upstreamTlsOptionsFromProto, protoUpstreamTlsOptionsFromRuntime, traverse_pem_encode,
    ok_bind, switchFromProto_code, pure_eq_ok]
  cases certificate <;> cases key <;> simp_all [Router.certificatePaired]

end Ngxora.Grpc
