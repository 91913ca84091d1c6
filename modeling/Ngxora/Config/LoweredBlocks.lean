/-
The blocks of a configuration and what they are lowered to.
-/

import Ngxora.Config.Lowering
import Ngxora.Reference

namespace Ngxora.Config

open List Results

abbrev BlockBody : Type := List String × List Node

def bodyNamed (name : String) : Node → Option BlockBody
  | .directive _ _ => none
  | .block own args children => if own = name then some (args, children) else none

def blocksNamed (name : String) (nodes : List Node) : List BlockBody :=
  nodes.filterMap (bodyNamed name)

def httpBlocks (items : List Node) : List (List Node) := (blocksNamed "http" items).map Prod.snd

def innerBlocks (name : String) (ast : Ast) : List BlockBody :=
  (httpBlocks ast.items).flatMap (blocksNamed name)

structure LowersServer (platform : Platform) (formats : Formats) (block : BlockBody)
    (server : Server) : Prop where
  lowered : ∃ own, lowerServer platform formats block.2 = .ok own ∧
    (server = own ∨ server = assignProvider own)
  locations : List.Forall₂ (fun location result =>
    lowerLocation platform formats location.1 location.2 = .ok result)
    (blocksNamed "location" block.2) server.locations

/-- Nothing of the block is lost. -/
structure LowersBlocks (platform : Platform) (formats : Formats) (http : Http)
    (blocks : String → List BlockBody) : Prop where
  servers : List.Forall₂ (LowersServer platform formats) (blocks "server") http.servers
  upstreams : List.Forall₂ (fun block upstream =>
    lowerUpstream platform block.1 block.2 = .ok upstream) (blocks "upstream") http.upstreams
  profiles : List.Forall₂ (fun block profile => lowerScp block.1 block.2 = .ok profile)
    (blocks "scp") http.scpProfiles

section Blocks

variable {platform : Platform} {formats : Formats} {http : Http} {children : List Node}

lemma locations_of_lowerServer {server : Server}
    (lowered : lowerServer platform formats children = .ok server) :
    List.Forall₂ (fun location res =>
      lowerLocation platform formats location.1 location.2 = .ok res)
      (blocksNamed "location" children) server.locations := by
  obtain ⟨_, looped, _, _, done⟩ := bind₂_eq_ok.mp lowered
  cases done
  refine foldlM_collects Server.locations _ _ rfl ?_ looped
  intro state node next step
  cases node with
  | directive name args =>
    refine .inl ⟨rfl, ?_⟩
    simp only [serverNode, applyServerDirective] at step
    iterate 7
      split at step
      · obtain ⟨_, _, done⟩ := bind_eq_ok.mp step
        cases done
        rfl
    cases step
  | block name args children =>
    simp only [serverNode] at step
    split at step
    next named =>
      obtain ⟨location, locationOk, done⟩ := bind_eq_ok.mp step
      cases done
      exact .inr ⟨(args, children), location, if_pos named, locationOk, rfl⟩
    next => cases step

lemma assignProvider_locations (server : Server) :
    (assignProvider server).locations = server.locations := by
  unfold assignProvider
  split <;> rfl

lemma blocks_of_lowerHttp (lowered : lowerHttp platform formats children = .ok http) :
    LowersBlocks platform formats http (blocksNamed · children) := by
  obtain ⟨raw, looped, _, _, done⟩ := bind₂_eq_ok.mp lowered
  have servers : List.Forall₂ (fun block server =>
      lowerServer platform formats block.2 = .ok server) (blocksNamed "server" children)
      raw.servers := by
    refine foldlM_collects Http.servers _ _ rfl ?_ looped
    intro state node next step
    cases node with
    | directive name args => exact .inl ⟨rfl, congrArg (·.2.1) (followed_of_directive step)⟩
    | block name args children =>
      cases blockEffect_of_block step with
      | server lowered parts =>
        exact .inr ⟨(args, children), _, rfl, lowered, congrArg (·.2.1) parts⟩
      | upstream _ parts | scp _ parts => exact .inl ⟨rfl, congrArg (·.2.1) parts⟩
      | other unnamed parts => exact .inl ⟨if_neg unnamed.1, congrArg (·.2.1) parts⟩
  have upstreams : List.Forall₂ (fun block upstream =>
      lowerUpstream platform block.1 block.2 = .ok upstream) (blocksNamed "upstream" children)
      raw.upstreams := by
    refine foldlM_collects Http.upstreams _ _ rfl ?_ looped
    intro state node next step
    cases node with
    | directive name args => exact .inl ⟨rfl, congrArg (·.2.2.1) (followed_of_directive step)⟩
    | block name args children =>
      cases blockEffect_of_block step with
      | upstream lowered parts =>
        exact .inr ⟨(args, children), _, rfl, lowered, congrArg (·.2.2.1) parts⟩
      | server _ parts | scp _ parts => exact .inl ⟨rfl, congrArg (·.2.2.1) parts⟩
      | other unnamed parts => exact .inl ⟨if_neg unnamed.2.1, congrArg (·.2.2.1) parts⟩
  have profiles : List.Forall₂ (fun block profile => lowerScp block.1 block.2 = .ok profile)
      (blocksNamed "scp" children) raw.scpProfiles := by
    refine foldlM_collects Http.scpProfiles _ _ rfl ?_ looped
    intro state node next step
    cases node with
    | directive name args => exact .inl ⟨rfl, congrArg (·.2.2.2) (followed_of_directive step)⟩
    | block name args children =>
      cases blockEffect_of_block step with
      | scp lowered parts =>
        exact .inr ⟨(args, children), _, rfl, lowered, congrArg (·.2.2.2) parts⟩
      | server _ parts | upstream _ parts => exact .inl ⟨rfl, congrArg (·.2.2.2) parts⟩
      | other unnamed parts => exact .inl ⟨if_neg unnamed.2.2, congrArg (·.2.2.2) parts⟩
  cases done
  split
  next =>
    refine ⟨forall₂_map_right_iff.mpr (servers.imp fun block own ownOk => ?_), upstreams, profiles⟩
    exact ⟨⟨own, ownOk, .inr rfl⟩, assignProvider_locations own ▸ locations_of_lowerServer ownOk⟩
  next =>
    refine ⟨servers.imp fun block own ownOk => ?_, upstreams, profiles⟩
    exact ⟨⟨own, ownOk, .inl rfl⟩, locations_of_lowerServer ownOk⟩

lemma httpBlocks_concat (items : List Node) (node : Node) : httpBlocks (items ++ [node]) =
    httpBlocks items ++ ((bodyNamed "http" node).map Prod.snd).toList := by
  simp only [httpBlocks, blocksNamed, filterMap_append, map_append]
  cases found : bodyNamed "http" node <;> simp [found]

lemma fromAst_eq_ok {ast : Ast} {res : Option Http}
    (lowered : fromAst platform formats ast = .ok res) :
    (httpBlocks ast.items = [] ∧ res = none) ∨
      ∃ front last http, httpBlocks ast.items = front ++ [last] ∧
        lowerHttp platform formats last = .ok http ∧ res = some http := by
  refine foldlM_prefix_invariant (fun items res => (httpBlocks items = [] ∧ res = none) ∨
    ∃ front last http, httpBlocks items = front ++ [last] ∧
      lowerHttp platform formats last = .ok http ∧ res = some http) (.inl ⟨rfl, rfl⟩) ?_ lowered
  intro done state node next _ here step
  rw [httpBlocks_concat]
  cases node with
  | directive name args =>
    cases step
    exact (append_nil (httpBlocks done)).symm ▸ here
  | block name args children =>
    simp only [bodyNamed] at step ⊢
    split at step
    next named =>
      obtain ⟨http, loweredOk, rfl⟩ := map_eq_ok.mp step
      rw [if_pos named]
      exact .inr ⟨_, children, http, rfl, loweredOk, rfl⟩
    next other =>
      cases step
      rw [if_neg other]
      exact (append_nil (httpBlocks done)).symm ▸ here

end Blocks

/-- No block is lost exactly when only the last `http` block has servers, upstreams
and profiles. -/
theorem no_block_lost_iff {platform : Platform} {formats : Formats} {ast : Ast}
    {result : Option Http} (lowered : fromAst platform formats ast = .ok result) :
    LowersBlocks platform formats (result.getD {}) (innerBlocks · ast) ↔
      ∀ children ∈ (httpBlocks ast.items).dropLast, ∀ name ∈ ["server", "upstream", "scp"],
        blocksNamed name children = [] := by
  rcases fromAst_eq_ok lowered with ⟨none, rfl⟩ | ⟨front, last, http, blocks, loweredOk, rfl⟩
  · simp only [innerBlocks, none, flatMap_nil, dropLast_nil]
    exact iff_of_true ⟨.nil, .nil, .nil⟩ (fun _ member => nomatch member)
  have inner : ∀ name, innerBlocks name ast =
      front.flatMap (blocksNamed name) ++ blocksNamed name last := by
    simp [innerBlocks, blocks]
  have own := blocks_of_lowerHttp loweredOk
  rw [blocks, dropLast_concat]
  constructor
  · intro whole children member name named
    have lost : (front.flatMap (blocksNamed name)).length = 0 := by
      have counts := congrArg List.length (inner name)
      rw [length_append] at counts
      simp only [mem_cons, not_mem_nil, or_false] at named
      rcases named with rfl | rfl | rfl
      · have := whole.servers.length_eq.trans own.servers.length_eq.symm
        omega
      · have := whole.upstreams.length_eq.trans own.upstreams.length_eq.symm
        omega
      · have := whole.profiles.length_eq.trans own.profiles.length_eq.symm
        omega
    exact flatMap_eq_nil_iff.mp (eq_nil_of_length_eq_zero lost) children member
  · intro empty
    have same : ∀ name ∈ ["server", "upstream", "scp"], innerBlocks name ast =
        blocksNamed name last := by
      intro name named
      rw [inner, flatMap_eq_nil_iff.mpr fun children member => empty children member name named,
        nil_append]
    refine ⟨?_, ?_, ?_⟩
    · rw [same "server" (by simp)]
      exact own.servers
    · rw [same "upstream" (by simp)]
      exact own.upstreams
    · rw [same "scp" (by simp)]
      exact own.profiles

namespace TwoHttpBlocks

def formats : Formats where
  plain _ := true
  urlError := id

def httpBlock : Node :=
  .block "http" [] [.block "server" [] [.directive "listen" ["8080"],
    .block "location" ["/"] [.directive "proxy_pass" ["http://10.0.0.1"]]]]

end TwoHttpBlocks

open TwoHttpBlocks in
theorem empty_http_block_before_kept :
    ∃ result, fromAst Reference.platform formats { items := [.block "http" [] [], httpBlock] } =
        .ok result ∧ (result.getD {}).servers.length = 1 ∧
      LowersBlocks Reference.platform formats (result.getD {})
        (innerBlocks · { items := [.block "http" [] [], httpBlock] }) := by
  have run : ∃ result, fromAst Reference.platform formats
      { items := [.block "http" [] [], httpBlock] } = .ok result ∧
        (result.getD {}).servers.length = 1 := by decide +kernel
  obtain ⟨result, lowered, one⟩ := run
  refine ⟨result, lowered, one, (no_block_lost_iff lowered).mpr fun children earlier => ?_⟩
  rw [mem_singleton.mp earlier]
  exact fun _ _ => rfl

open TwoHttpBlocks in
/-- The server of the first block is lost. -/
theorem earlier_http_block_lost :
    ∃ result, fromAst Reference.platform formats { items := [httpBlock, httpBlock] } = .ok result ∧
      (result.getD {}).servers.length = 1 ∧
      (innerBlocks "server" { items := [httpBlock, httpBlock] }).length = 2 := by
  decide +kernel

end Ngxora.Config
