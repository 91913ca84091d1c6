/-
The certificate of a TLS handshake: that of the name which covers the requested one most precisely,
or the default.
-/

import Ngxora.Router.Hostnames

namespace Ngxora.Server

open Option Results Router

def defaultListenerTls (key : ListenKey) (tls : ListenerTlsConfig) : Except String TlsIdentity :=
  orFail (tls.default.or tls.named.values.head?)
    s!"ssl listener {listenKeyAddr key} has no certificate"

def namedListenerTls (tls : ListenerTlsConfig) (serverName : String) : Option TlsIdentity :=
  Table.bestMatch (hostnameRank (normalizeHostname serverName)) tls.named

def selectListenerTls (key : ListenKey) (tls : ListenerTlsConfig) (serverName : Option String) :
    Except String TlsIdentity :=
  match serverName.bind (namedListenerTls tls) with
  | some identity => .ok identity
  | none => defaultListenerTls key tls

variable {tls : ListenerTlsConfig} {identity : TlsIdentity} {serverName : String}

lemma selectListenerTls_of_default {key : ListenKey} (default : tls.default = some identity)
    (serverName : Option String) : selectListenerTls key tls serverName =
      .ok ((serverName.bind (namedListenerTls tls)).getD identity) := by
  unfold selectListenerTls
  cases serverName.bind (namedListenerTls tls) with
  | some named => rfl
  | none => rw [defaultListenerTls, default, some_or, orFail_some, getD_none]

lemma namedListenerTls_eq_some : namedListenerTls tls serverName = some identity ↔
    ∃ name, Table.IsBest (hostnameRank (normalizeHostname serverName)) tls.named name identity :=
  Table.bestMatch_eq_some (hostnameRank_injective (normalizeHostname serverName))

lemma namedListenerTls_eq_none : namedListenerTls tls serverName = none ↔
    ∀ name ∈ tls.named, hostnameRank (normalizeHostname serverName) name = none :=
  Table.bestMatch_eq_none

lemma namedListenerTls_exact {name : String} (normalized : normalizeHostname name = name)
    (found : tls.named.lookup name = some identity) :
    namedListenerTls tls name = some identity := by
  rw [namedListenerTls_eq_some, normalized]
  have own : hostnameRank name name = some (toLex (true, Text.byteLength name)) := by
    rw [hostnameRank, hostnameScore_exact.mpr ⟨rfl, rfl⟩, map_some]
  refine ⟨name, found, _, own, ?_⟩
  intro other _ rank otherRank
  obtain ⟨⟨exact', length⟩, score, rfl⟩ := map_eq_some_iff.mp otherRank
  rw [Prod.Lex.toLex_le_toLex]
  cases exact' with
  | false => exact .inl Bool.false_lt_true
  | true =>
    right
    exact ⟨rfl, (hostnameScore_exact.mp score).2.le⟩

end Ngxora.Server
