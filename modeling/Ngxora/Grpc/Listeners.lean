/-
Exported listeners and the server blocks they are imported to.
-/

import Ngxora.Grpc.Decode
import Ngxora.Grpc.Hosts
import Ngxora.Router.Blocks

namespace Ngxora.Grpc

open Text Proto List Option String Net Results Router

lemma toList_number (number : Nat) :
    (toString number).toList = Nat.toDigits 10 number := toList_ofList

lemma listenerName_injective {left right : Nat} (same : listenerName left = listenerName right) :
    left = right := by
  have digits : toString (left + 1) = toString (right + 1) := (append_right_inj "listener-").mp same
  have numbers : left + 1 = right + 1 := by
    have values := congrArg (fun text => Digits.valueOf 10 text.toList) digits
    have read := @Digits.valueOf_toDigits 10 (by decide) (by decide)
    simpa only [toList_number, read] using values
  omega

lemma isWhitespace_digit {char : Char}
    (digit : Digits.isDigit 10 char = true) : isWhitespace char = false := by
  have range : 48 ≤ char.toNat ∧ char.toNat ≤ 57 := by
    simp only [Digits.isDigit, Digits.digitValue, isSome_filter] at digit
    split at digit
    next inRange => exact inRange
    next =>
      split at digit
      next inRange => simp at digit; omega
      next =>
        split at digit
        next inRange => simp at digit; omega
        next => simp at digit
  rw [← Bool.not_eq_true]
  simp only [isWhitespace, Bool.or_eq_true, Bool.and_eq_true, decide_eq_true_eq, beq_iff_eq]
  omega

lemma trim_listenerName (index : Nat) : Text.trim (listenerName index) = listenerName index := by
  apply trim_eq_self
  intro char mem
  rw [listenerName, toList_append, mem_append] at mem
  rcases mem with inWord | inNumber
  · have letters : ∀ letter ∈ "listener-".toList, isWhitespace letter = false := 
      all_iff_forall_prop.mp (by decide)
    exact letters char inWord
  · rw [toList_number] at inNumber
    exact isWhitespace_digit (Digits.isDigit_of_mem_toDigits (by decide) (by decide) inNumber)

variable {key : ListenKey} {router : CompiledRouter} {platform : Platform}

lemma listenerNames_lookup {keys : List ListenKey} (nodup : keys.Nodup) {index : Nat}
    (found : keys[index]? = some key) :
    (listenerNames keys).lookup key = some (listenerName index) := by
  have asInsertAll : listenerNames keys = keys.zipIdx.foldl (fun names entry =>
      Table.insertAll [entry.1] (listenerName entry.2) names) ∅ := rfl
  rw [asInsertAll, Slots.lookup_foldl_insertAll (fun entry : ListenKey × Nat => [entry.1])
    (fun entry => listenerName entry.2), AList.lookup_empty, or_none]
  have here : (keys.zipIdx.reverse.find? fun entry => decide (key ∈ [entry.1])).isSome = true := by
    rw [find?_isSome]
    refine ⟨(key, index), mem_reverse.mpr ?_, by simp⟩
    exact mem_zipIdx_iff_getElem?.mpr found
  obtain ⟨⟨other, place⟩, entryFound⟩ := isSome_iff_exists.mp here
  have sameKey : key = other := by simpa using find?_some entryFound
  have inPlace : keys[place]? = some key := by
    have member := mem_reverse.mp (mem_of_find?_eq_some entryFound)
    rw [sameKey]
    exact mem_zipIdx_iff_getElem?.mp member
  have samePlace : place = index := (getElem?_inj (by
    obtain ⟨bound, _⟩ := List.getElem?_eq_some_iff.mp inPlace
    exact bound) nodup).mp (inPlace.trans found.symm)
  rw [entryFound, map_some, samePlace]

def exportedName (router : CompiledRouter) (key : ListenKey) : String :=
  ((listenerNames (exportedKeys router)).lookup key).getD ""

lemma nodup_exportedKeys (router : CompiledRouter) : (exportedKeys router).Nodup :=
  Table.sortedKeys_nodup ListenKey.le router.listeners

lemma exportedName_spec (mem : key ∈ exportedKeys router) :
    ∃ index, (exportedKeys router)[index]? = some key ∧
      (listenerNames (exportedKeys router)).lookup key = some (listenerName index) ∧
      exportedName router key = listenerName index := by
  obtain ⟨index, found⟩ := mem_iff_getElem?.mp mem
  have named := listenerNames_lookup (nodup_exportedKeys router) found
  exact ⟨index, found, named, by rw [exportedName, named, getD_some]⟩

lemma exportedName_injOn {left right : ListenKey} (leftMember : left ∈ exportedKeys router)
    (rightMember : right ∈ exportedKeys router)
    (same : exportedName router left = exportedName router right) : left = right := by
  obtain ⟨leftIndex, leftAt, _, leftName⟩ := exportedName_spec leftMember
  obtain ⟨rightIndex, rightAt, _, rightName⟩ := exportedName_spec rightMember
  rw [leftName, rightName] at same
  rw [listenerName_injective same] at leftAt
  exact Option.some.inj (leftAt.symm.trans rightAt)

def exportedListener (router : CompiledRouter) (key : ListenKey) : Listener :=
  let protocol := (router.listenerProtocols.lookup key).getD {}
  { name := exportedName router key
    address := key.addr.toText
    port := key.port.toUInt32
    tls := key.ssl
    http2 := protocol.http2
    http2Only := protocol.http2Only
    tlsOptions := (router.listenerTls.lookup key).map fun tls =>
      protoListenerTlsOptionsFromRuntime tls.settings }

def hostsAt (router : CompiledRouter) (wire : Proto.ConfigSnapshot) (key : ListenKey) :
    List Proto.VirtualHost :=
  wire.virtualHosts.filter fun host => decide (host.listener = exportedName router key)

/-- A snapshot on the wire and the router it describes. -/
structure Exported (platform : Platform) (version : String) (router : CompiledRouter)
    (wire : Proto.ConfigSnapshot) : Prop where
  wire_eq : wire = encodedSnapshot version router wire.listeners wire.virtualHosts
  listeners_eq : wire.listeners = (exportedKeys router).map (exportedListener router)
  hostsOk : ∀ key ∈ exportedKeys router, ∃ routes, router.listeners.lookup key = some routes ∧
    protoVirtualHostsFromRuntime platform (exportedName router key) routes
      (router.listenerTls.lookup key) = .ok (hostsAt router wire key)
  listenerOf : ∀ host ∈ wire.virtualHosts, ∃ key ∈ exportedKeys router,
    host.listener = exportedName router key

lemma listeners_exported (router : CompiledRouter) :
    (exportedKeys router).mapM (protoListenerFromRuntime router
        (listenerNames (exportedKeys router))) =
      .ok ((exportedKeys router).map (exportedListener router)) := by
  apply mapM_eq_ok_map
  intro key mem
  obtain ⟨index, _, named, nameEq⟩ := exportedName_spec mem
  simp only [protoListenerFromRuntime, named, orFail_some, ok_bind, pure_eq_ok, exportedListener,
    nameEq]

variable {hosts : List VirtualHost} {defs : Table String ListenerDef} {base : CompiledRouter}

lemma protoHostsOfListener_eq_ok
    (encoded : protoHostsOfListener platform router (listenerNames (exportedKeys router)) key =
      .ok hosts) : ∃ routes, router.listeners.lookup key = some routes ∧
      protoVirtualHostsFromRuntime platform (exportedName router key) routes
        (router.listenerTls.lookup key) = .ok hosts := by
  obtain ⟨routes, routesOk, name, nameOk, encoded⟩ := bind₂_eq_ok.mp encoded
  have nameEq : exportedName router key = name := by
    rw [exportedName, orFail_eq_ok.mp nameOk, getD_some]
  exact ⟨routes, orFail_eq_ok.mp routesOk, nameEq ▸ encoded⟩

lemma exported_of_encode {version : String} {wire : Proto.ConfigSnapshot}
    (encoded : protoSnapshotFromRuntime platform version router = .ok wire) :
    Exported platform version router wire := by
  obtain ⟨listeners, groups, listenersOk, hostsOk, wireEq⟩ :=
    parts_of_protoSnapshot encoded
  rw [listeners_exported] at listenersOk
  have pairs := mapM_eq_ok.mp hostsOk
  have tagged : List.Forall₂
      (fun key hosts => ∀ host ∈ hosts, host.listener = exportedName router key)
      (exportedKeys router) groups := by
    refine pairs.imp fun key hosts hostsOk => ?_
    obtain ⟨_, _, encoded⟩ := protoHostsOfListener_eq_ok hostsOk
    exact (hostsOf_of_encode encoded).listener
  have split := filter_flatten (fun _ leftMember _ rightMember same =>
    exportedName_injOn leftMember rightMember same) (nodup_exportedKeys router) tagged
  subst wireEq
  refine ⟨rfl, (Except.ok.inj listenersOk).symm, ?_, ?_⟩
  · intro key mem
    obtain ⟨hosts, hostsMember, hostsOk, hostsEq⟩ :=
      exists_of_mem_left (List.Forall₂.mp (fun _ _ => And.intro) pairs split) mem
    obtain ⟨routes, found, encoded⟩ := protoHostsOfListener_eq_ok hostsOk
    refine ⟨routes, found, ?_⟩
    rw [encoded]
    exact congrArg Except.ok hostsEq.symm
  · intro host inWire
    obtain ⟨hosts, hostsMember, hostIn⟩ := mem_flatten.mp inWire
    obtain ⟨key, keyMember, labels⟩ := exists_of_mem_right tagged hostsMember
    exact ⟨key, keyMember, labels host hostIn⟩

def exportedOptions (router : CompiledRouter) (key : ListenKey) : DownstreamTlsOptions :=
  ((router.listenerTls.lookup key).map fun tls => settingsOptions tls.settings).getD {}

def exportedDef (router : CompiledRouter) (key : ListenKey) : ListenerDef :=
  let protocol := (router.listenerProtocols.lookup key).getD {}
  { name := exportedName router key
    listen :=
      { addr := key.addr
        port := key.port
        ssl := key.ssl
        defaultServer := false
        http2 := protocol.http2
        http2Only := protocol.http2Only }
    tlsOptions := exportedOptions router key }

/-- The settings of a listener survive the wire. -/
structure ListenerFits (router : CompiledRouter) (key : ListenKey) : Prop where
  ordered : ∀ tls ∈ router.listenerTls.lookup key, BoundsOrdered tls.settings.protocols
  plain : key.ssl = false → exportedOptions router key = {}

lemma tlsOptions_exported {options : DownstreamTlsOptions} :
    listenerTlsOptionsFromProto (exportedListener router key).tlsOptions = .ok options ↔
      (∀ tls ∈ router.listenerTls.lookup key, BoundsOrdered tls.settings.protocols) ∧
        options = exportedOptions router key := by
  cases entry : router.listenerTls.lookup key with
  | none =>
    simp only [exportedListener, exportedOptions, entry, map_none, getD_none,
      listenerTlsOptionsFromProto, Except.ok.injEq]
    exact ⟨fun same => ⟨by simp, same.symm⟩, fun fits => fits.2.symm⟩
  | some tls =>
    simp only [exportedListener, exportedOptions, entry, map_some, getD_some,
      listenerTlsOptionsFromProto_encode, mem_def, Option.some.injEq, forall_eq']

lemma listenerDef_exported {def' : ListenerDef} :
    listenerDef (exportedListener router key) = .ok def' ↔
      ListenerFits router key ∧ def' = exportedDef router key := by
  have address : IpAddr.parse (exportedListener router key).address = some key.addr :=
    IpAddr.parse_toText key.addr
  have port : Machine.narrowU16 (exportedListener router key).port = some key.port :=
    Machine.narrowU16_widen key.port
  unfold listenerDef
  rw [address, port]
  simp only [orFail_some, ok_bind]
  constructor
  · intro ok
    obtain ⟨options, optionsOk, ok⟩ := bind_eq_ok.mp ok
    obtain ⟨ordered, optionsEq⟩ := tlsOptions_exported.mp optionsOk
    obtain ⟨_, plainOk, same⟩ := bind_eq_ok.mp ok
    have defEq := Except.ok.inj same
    subst defEq optionsEq
    refine ⟨⟨ordered, fun noSsl => ?_⟩, rfl⟩
    have plain := rejectIf_eq_ok.mp plainOk
    simpa [exportedListener, noSsl] using plain
  · rintro ⟨fits, rfl⟩
    rw [tlsOptions_exported.mpr ⟨fits.ordered, rfl⟩, ok_bind]
    have plainOk : (!(exportedListener router key).tls &&
        exportedOptions router key != {}) = false := by
      cases ssl : key.ssl with
      | true => simp [exportedListener, ssl]
      | false => simp [fits.plain ssl]
    rw [plainOk]
    rfl

lemma addListenerDef_eq_ok (defs : Table String ListenerDef) (listener : Listener)
    (next : Table String ListenerDef) : addListenerDef defs listener = .ok next ↔
      ∃ def', (Text.trim listener.name ≠ "" ∧ listenerDef listener = .ok def') ∧
        defs.lookup (Text.trim def'.name) = none ∧
        next = defs.insert (Text.trim def'.name) def' := by
  have nameEq : ∀ def', listenerDef listener = .ok def' → def'.name = listener.name := by
    intro def' ok
    obtain ⟨_, _, _, _, _, _, ok⟩ := bind₃_eq_ok.mp ok
    obtain ⟨_, _, same⟩ := bind_eq_ok.mp ok
    exact congrArg ListenerDef.name (Except.ok.inj same).symm
  constructor
  · intro ok
    obtain ⟨_, named, _, fresh, def', defOk, same⟩ := bind₃_eq_ok.mp ok
    refine ⟨def', ⟨?_, defOk⟩, ?_, ?_⟩
    · simpa using rejectIf_eq_ok.mp named
    · rw [nameEq def' defOk]
      simpa using rejectIf_eq_ok.mp fresh
    · rw [nameEq def' defOk]
      exact (Except.ok.inj same).symm
  · rintro ⟨def', ⟨named, defOk⟩, fresh, rfl⟩
    rw [nameEq def' defOk] at fresh ⊢
    have notEmpty : (Text.trim listener.name).isEmpty = false := by simpa using named
    simp [addListenerDef, defOk, fresh, notEmpty]

lemma trim_exportedName (mem : key ∈ exportedKeys router) :
    Text.trim (exportedName router key) = exportedName router key := by
  obtain ⟨index, _, _, nameEq⟩ := exportedName_spec mem
  rw [nameEq, trim_listenerName]

lemma nodup_exportedDefs (router : CompiledRouter) :
    (((exportedKeys router).map (exportedDef router)).map
      fun def' => Text.trim def'.name).Nodup := by
  rw [List.map_map]
  refine List.Nodup.map_on ?_ (nodup_exportedKeys router)
  intro left leftMember right rightMember same
  apply exportedName_injOn leftMember rightMember
  rwa [← trim_exportedName leftMember, ← trim_exportedName rightMember]

lemma listenerDefs_exported
    (ok : listenerDefs ((exportedKeys router).map (exportedListener router)) = .ok defs) :
    (∀ key ∈ exportedKeys router, ListenerFits router key) ∧
      defs = Table.indexBy (fun def' => Text.trim def'.name)
        ((exportedKeys router).map (exportedDef router)) := by
  rw [listenerDefs, Table.foldlM_insert_eq_ok _ addListenerDef_eq_ok] at ok
  obtain ⟨values, made, _, defsEq⟩ := ok
  simp only [forall₂_map_left_iff, listenerDef_exported, ← and_assoc, forall₂_eq_map_iff] at made
  exact ⟨fun key mem => (made.1 key mem).2, made.2 ▸ defsEq⟩

lemma lookup_exportedDefs (mem : key ∈ exportedKeys router) :
    (Table.indexBy (fun def' => Text.trim def'.name)
      ((exportedKeys router).map (exportedDef router))).lookup (exportedName router key) =
      some (exportedDef router key) := by
  rw [Table.lookup_indexBy _ (nodup_exportedDefs router)]
  exact ⟨mem_map_of_mem mem, trim_exportedName mem⟩

/-- One block, with one listen directive, for each virtual host. -/
structure Imported (platform : Platform) (base : CompiledRouter) (listener : ListenerDef)
    (host : VirtualHost) (entry : Contribution) : Prop where
  serverNames : entry.serverNames = host.serverNames
  listen : entry.listen = { listener.listen with defaultServer := host.defaultServer }
  tlsOptions : entry.tlsOptions = listener.tlsOptions
  bound : host.tls.isSome = listener.listen.ssl
  identity : Results.traverse tlsIdentityFromProto host.tls = .ok entry.identity
  routes : ∃ server startId endId, serverFromProtoVirtualHost platform listener host = .ok server ∧
    compileServer platform base startId server = .ok (entry.routes, endId)

lemma imported_of_compile {listener : ListenerDef} {host : VirtualHost} {server : Server}
    {routes : ServerRoutes} {startId endId : UInt64}
    (decoded : serverFromProtoVirtualHost platform listener host = .ok server)
    (compiled : compileServer platform base startId server = .ok (routes, endId)) :
    ∃ entry, server.listens.map (contribution base.leConfig server routes) = [entry] ∧
      Imported platform base listener host entry := by
  have whole := decoded
  obtain ⟨_, required, _, refused, locations, _, decoded⟩ := bind₃_eq_ok.mp decoded
  obtain ⟨identity, identityOk, same⟩ := bind_eq_ok.mp decoded
  have serverEq := Except.ok.inj same
  have bound : host.tls.isSome = listener.listen.ssl := by
    have needs := rejectIf_eq_ok.mp required
    have forbids := rejectIf_eq_ok.mp refused
    cases ssl : listener.listen.ssl <;> cases binding : host.tls <;>
      simp [ssl, binding] at needs forbids ⊢
  subst serverEq
  refine ⟨_, rfl, rfl, rfl, rfl, bound, ?_, _, startId, endId, whole, compiled⟩
  rw [identityOk]
  cases identity <;> rfl

lemma imported_contributions {servers : List Server} {nextRouteId : UInt64}
    {routes : List ServerRoutes} (decoded : List.Forall₂ (fun host server =>
      serverOfVirtualHost platform defs host = .ok server) hosts servers)
    (compiled : compileServers platform base nextRouteId servers = .ok routes) :
    List.Forall₂ (fun host entry => ∃ listener, defs.lookup host.listener = some listener ∧
        Imported platform base listener host entry)
      hosts (contributions base.leConfig servers routes) := by
  induction decoded generalizing nextRouteId routes with
  | nil =>
    cases compiled
    exact .nil
  | @cons host server hosts servers serverOk _ ih =>
    obtain ⟨⟨first, afterId⟩, firstOk, others, othersOk, same⟩ := bind₂_eq_ok.mp compiled
    cases same
    obtain ⟨listener, listenerOk, serverOk⟩ := bind_eq_ok.mp serverOk
    obtain ⟨entry, single, imported⟩ := imported_of_compile serverOk firstOk
    have split : contributions base.leConfig (server :: servers) (first :: others) =
        entry :: contributions base.leConfig servers others := by
      rw [contributions, zip_cons_cons, flatMap_cons, single]
      rfl
    rw [split]
    exact .cons ⟨listener, orFail_eq_ok.mp listenerOk, imported⟩ (ih othersOk)

end Ngxora.Grpc
