/-
The virtual hosts and certificates of one listener, read off its contributions.
-/

import Ngxora.Base.Slots
import Ngxora.Router.Listeners

namespace Ngxora.Router

open ListenerCell Slots List Option Results

def covers (name : String) (contribution : Contribution) : Bool :=
  decide (name ∈ contribution.serverNames.map normalizeHostname)

def isDefaultServer (contribution : Contribution) : Bool := contribution.listen.defaultServer

def isUnnamed (contribution : Contribution) : Bool := contribution.serverNames.isEmpty

def hostsOf (contributions : List Contribution) : VirtualHostRoutes :=
  contributions.foldl (fun listener contribution => addRoutes contribution listener) {}

variable (settings : ListenerTlsSettings) (parts : List Contribution) (cell : ListenerCell)

def tlsOf (contributions : List Contribution) : ListenerTlsConfig :=
  contributions.foldl (fun tls contribution => addTls contribution tls) { settings }

lemma hostsOf_named (name : String) :
    (hostsOf parts).named.lookup name =
      (parts.reverse.find? (covers name)).map Contribution.routes := by
  have names : (hostsOf parts).named = parts.foldl (fun table part =>
      Table.insertAll (part.serverNames.map normalizeHostname) part.routes table)
      ∅ := (foldl_hom VirtualHostRoutes.named fun _ _ => rfl).symm
  rw [names, lookup_foldl_insertAll, AList.lookup_empty, or_none]
  rfl

lemma hostsOf_default : (hostsOf parts).default =
    (holder isDefaultServer isUnnamed parts).map Contribution.routes := by
  rw [← foldl_claim_none]
  exact (foldl_hom VirtualHostRoutes.default fun _ _ => rfl).symm

def identified (contributions : List Contribution) : List (Contribution × TlsIdentity) :=
  contributions.filterMap fun contribution =>
    contribution.identity.map fun identity => (contribution, identity)

lemma mem_identified {parts : List Contribution} {entry : Contribution × TlsIdentity} :
    entry ∈ identified parts ↔
      entry.1 ∈ parts ∧ entry.1.identity = some entry.2 := by
  obtain ⟨part, identity⟩ := entry
  simp only [identified, mem_filterMap, map_eq_some_iff, Prod.mk.injEq]
  constructor
  · rintro ⟨src, mem, certificate, certified, rfl, rfl⟩
    exact ⟨mem, certified⟩
  · rintro ⟨mem, certified⟩
    exact ⟨part, mem, identity, certified, rfl, rfl⟩

def claimsDefaultTls (entry : Contribution × TlsIdentity) : Bool :=
  isDefaultServer entry.1 || isUnnamed entry.1

lemma foldl_addTls (tls : ListenerTlsConfig) :
    parts.foldl (fun tls part => addTls part tls) tls =
      (identified parts).foldl (fun tls entry => addIdentity entry.1 entry.2 tls) tls := by
  induction parts generalizing tls with
  | nil => rfl
  | cons part rest ih =>
    rw [foldl_cons, ih, identified, identified]
    cases certificate : part.identity with
    | none | some identity => simp [addTls, certificate]

lemma tlsDefaultRule_eq_claim (entry : Contribution × TlsIdentity) (slot : Option TlsIdentity) :
    tlsDefaultRule entry.1.serverNames entry.1.listen entry.2 slot =
      claim (claimsDefaultTls entry) true entry.2 slot := by
  simp only [tlsDefaultRule, claim, claimsDefaultTls, isDefaultServer, isUnnamed,
    Bool.true_and, Bool.or_assoc, Bool.or_comm slot.isNone]

lemma tlsOf_named (name : String) : (tlsOf settings parts).named.lookup name =
    ((identified parts).reverse.find? fun entry => covers name entry.1).map Prod.snd := by
  have names : (tlsOf settings parts).named = (identified parts).foldl
      (fun table entry => Table.insertAll (entry.1.serverNames.map normalizeHostname) entry.2
        table) ∅ := by
    rw [tlsOf, foldl_addTls]
    exact (foldl_hom ListenerTlsConfig.named fun _ _ => rfl).symm
  rw [names, lookup_foldl_insertAll, AList.lookup_empty, or_none]
  rfl

lemma tlsOf_default :
    (tlsOf settings parts).default =
      (holder claimsDefaultTls (fun _ => true) (identified parts)).map Prod.snd := by
  rw [tlsOf, foldl_addTls, ← foldl_claim_none]
  exact (foldl_hom ListenerTlsConfig.default fun tls entry =>
    (tlsDefaultRule_eq_claim entry tls.default).symm).symm

lemma foldl_add_routes_some {listener : VirtualHostRoutes} (found : cell.routes = some listener) :
    (parts.foldl add cell).routes =
      some (parts.foldl (fun listener part => addRoutes part listener)
        listener) := by
  induction parts generalizing cell listener with
  | nil => exact found
  | cons part rest ih => exact ih _ (by simp [add, found])

lemma cell_routes :
    (parts.foldl add {}).routes =
      if parts = [] then none else some (hostsOf parts) := by
  cases parts with
  | nil => rfl
  | cons part rest => exact foldl_add_routes_some rest _ rfl

lemma foldl_add_tls_some (allSsl : ∀ part ∈ parts, part.listen.ssl = true) {tls : ListenerTlsConfig}
    (found : cell.tls = some tls) :
    (parts.foldl add cell).tls =
      some (parts.foldl (fun tls part => addTls part tls) tls) := by
  induction parts generalizing cell tls with
  | nil => exact found
  | cons part rest ih =>
    obtain ⟨ssl, restSsl⟩ := forall_mem_cons.mp allSsl
    exact ih _ restSsl (by simp [add, found, ssl])

lemma cell_tls {part : Contribution} {rest : List Contribution}
    (allSsl : ∀ entry ∈ part :: rest, entry.listen.ssl = true) :
    ((part :: rest).foldl add {}).tls =
      some (tlsOf (ListenerTlsSettings.ofOptions part.tlsOptions)
        (part :: rest)) := by
  obtain ⟨ssl, restSsl⟩ := forall_mem_cons.mp allSsl
  have first : (({} : ListenerCell).add part).tls =
      some (addTls part (freshTls part)) := by
    simp [add, ssl]
  rw [foldl_cons, foldl_add_tls_some rest _ restSsl first]
  rfl

lemma cell_tls_plain {parts : List Contribution}
    (plain : ∀ entry ∈ parts, entry.listen.ssl = false) (cell : ListenerCell) :
    (parts.foldl add cell).tls = cell.tls := by
  refine List.foldlRecOn (motive := (tls · = cell.tls)) parts _ rfl
    fun reached same part mem => ?_
  simp [add, plain part mem, same]

end Ngxora.Router
