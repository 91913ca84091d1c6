/-
When the order of cache directives matters.
-/

import Ngxora.Config.LocationBlocks

namespace Ngxora.Config

open List Results

/-- Each directive sets a field of its own; `proxy_cache` puts all back to their defaults. -/
inductive CacheSetting where
  | reset
  | ttl (value : Duration)
  | staleIfError (value : Duration)
  | cacheKey (mode : CacheKeyMode)
  | minUses (uses : UInt64)
  | validStatuses (statuses : List UInt16)
  | maxSize (size : UInt64)
  | ignored (name : String)

def cacheDirectives : List String :=
  ["proxy_cache", "proxy_cache_ttl", "proxy_cache_stale_if_error", "proxy_cache_key",
    "proxy_cache_min_uses", "proxy_cache_valid", "proxy_cache_max_size"]

def Node.name : Node → String
  | .directive name _ | .block name _ _ => name

namespace CacheSetting

def name : CacheSetting → String
  | reset => "proxy_cache"
  | ttl _ => "proxy_cache_ttl"
  | staleIfError _ => "proxy_cache_stale_if_error"
  | cacheKey _ => "proxy_cache_key"
  | minUses _ => "proxy_cache_min_uses"
  | validStatuses _ => "proxy_cache_valid"
  | maxSize _ => "proxy_cache_max_size"
  | ignored name => name

def update (config : CacheConfig) : CacheSetting → Option CacheConfig
  | reset => some {}
  | ttl value => some { config with ttl := some value }
  | staleIfError value => some { config with staleIfError := some value }
  | cacheKey mode => some { config with cacheKey := mode }
  | minUses uses => some { config with minUses := some uses }
  | validStatuses statuses => some { config with validStatuses := statuses }
  | maxSize size => some { config with maxSize := some size }
  | ignored _ => none

def apply (config : CacheConfig) (setting : CacheSetting) : CacheConfig :=
  (setting.update config).getD config

def Sound : CacheSetting → Prop
  | ttl value | staleIfError value => value.WholeMillis
  | minUses uses => uses ≠ 0
  | validStatuses statuses => statuses ≠ []
  | ignored name => name ∉ cacheDirectives
  | _ => True

private lemma apply_comm {first second : CacheSetting} (nodup : first.name ≠ second.name)
    (firstSets : first.name ≠ "proxy_cache") (secondSets : second.name ≠ "proxy_cache")
    (config : CacheConfig) :
    apply (apply config first) second = apply (apply config second) first := by
  cases first <;> cases second <;> first | rfl | contradiction

private lemma apply_same {first second : CacheSetting} (named : first.name = second.name)
    (known : first.name ∈ cacheDirectives) (secondSound : second.Sound)
    (firstSound : first.Sound) (sets : first.name ≠ "proxy_cache") (config : CacheConfig) :
    apply (apply config second) first = apply config second ↔
      apply {} first = apply {} second := by
  have otherKnown : second.name ∈ cacheDirectives := named ▸ known
  cases first with
  | reset => exact absurd rfl sets
  | ignored name => exact absurd known firstSound
  | _ =>
    cases second with
    | ignored name => exact absurd otherKnown secondSound
    | _ => first | simp [apply, update]; done | simp [name] at named

private lemma apply_other {first second : CacheSetting} (ne : first.name ≠ second.name)
    (firstSets : first.name ≠ "proxy_cache") (secondSets : second.name ≠ "proxy_cache")
    (config : CacheConfig) :
    apply (apply config second) first = apply config second ↔ apply config first = config := by
  cases config
  cases first <;> cases second <;> first | contradiction | simp [apply, update]

variable {setting : CacheSetting}

private lemma eq_reset (sound : setting.Sound) (named : setting.name = "proxy_cache") :
    setting = reset := by
  cases setting with
  | reset => rfl
  | ignored name =>
    cases named
    exact absurd (mem_cons_self ..) sound
  | _ => simp [name] at named

private lemma update_eq (config : CacheConfig) (sound : setting.Sound)
    (known : setting.name ∈ cacheDirectives) :
    setting.update config = some (apply config setting) := by
  cases setting with
  | ignored name => exact absurd known sound
  | _ => rfl

end CacheSetting

/-- The directive is accepted and has this effect on every configuration. -/
structure Makes (formats : Formats) (name : String) (args : List String)
    (setting : CacheSetting) : Prop where
  named : setting.name = name
  applied : ∀ config,
    applyCacheDirective formats name args (some config) = .ok (setting.update config)
  sound : setting.Sound

variable {formats : Formats} {name : String} {args : List String} {config after : CacheConfig}
  {setting : CacheSetting}

private lemma wholeMillis_of_parse {value : Duration}
    (parsed : parseSingleDurationDirective args name = .ok value) : value.WholeMillis := by
  unfold parseSingleDurationDirective at parsed
  split at parsed
  · obtain ⟨_, _, _, _, _, _, same⟩ := bind₃_eq_ok.mp parsed
    cases same
    exact Duration.wholeMillis_fromMillis _
  · cases parsed
  · cases parsed

private lemma ne_zero_of_parsePositiveUsize {uses : UInt64}
    (parsed : parsePositiveUsize args name = .ok uses) : uses ≠ 0 := by
  obtain ⟨_, _, _, _, _, pos, same⟩ := bind₃_eq_ok.mp parsed
  cases same
  exact ne_of_beq_false (rejectIf_eq_ok.mp pos)

private lemma exists_makes {updated : Option CacheConfig}
    (ok : applyCacheDirective formats name args (some config) = .ok updated) :
    ∃ setting, Makes formats name args setting := by
  unfold applyCacheDirective at ok
  split at ok
  · next here =>
      subst here
      refine ⟨.reset, rfl, fun config => ?_, trivial⟩
      unfold cacheSwitch at ok
      split at ok
      · split at ok
        · cases ok
        · split at ok
          · next on => simp [applyCacheDirective, cacheSwitch, on, CacheSetting.update]
          · cases ok
      · rfl
      · cases ok
  split at ok
  · next here =>
      subst here
      obtain ⟨value, parsed, _⟩ := bind_eq_ok.mp ok
      exact ⟨.ttl value, rfl, fun config => by simp [applyCacheDirective, parsed, CacheSetting.update],
        wholeMillis_of_parse parsed⟩
  split at ok
  · next here =>
      subst here
      obtain ⟨value, parsed, _⟩ := bind_eq_ok.mp ok
      exact ⟨.staleIfError value, rfl,
        fun config => by simp [applyCacheDirective, parsed, CacheSetting.update],
        wholeMillis_of_parse parsed⟩
  split at ok
  · next here =>
      subst here
      obtain ⟨mode, parsed, _⟩ := bind_eq_ok.mp ok
      exact ⟨.cacheKey mode, rfl,
        fun config => by simp [applyCacheDirective, parsed, CacheSetting.update], trivial⟩
  split at ok
  · next here =>
      subst here
      obtain ⟨uses, parsed, _⟩ := bind_eq_ok.mp ok
      exact ⟨.minUses uses, rfl,
        fun config => by simp [applyCacheDirective, parsed, CacheSetting.update],
        ne_zero_of_parsePositiveUsize parsed⟩
  split at ok
  · next here =>
      subst here
      obtain ⟨statuses, parsed, _, present, _⟩ := bind₂_eq_ok.mp ok
      refine ⟨.validStatuses statuses, rfl, fun config => ?_, fun empty => ?_⟩
      · simp only [applyCacheDirective, String.reduceEq, if_false, if_true]
        exact bind_eq_ok.mpr ⟨statuses, parsed, bind_eq_ok.mpr ⟨(), present, rfl⟩⟩
      · rw [empty] at present
        cases present
  split at ok
  · next here =>
      subst here
      obtain ⟨raw, one, size, parsed, _⟩ := bind₂_eq_ok.mp ok
      exact ⟨.maxSize size, rfl,
        fun config => by simp [applyCacheDirective, one, parsed, CacheSetting.update], trivial⟩
  · refine ⟨.ignored name, rfl, fun config => ?_, ?_⟩
    · simp [applyCacheDirective, *, CacheSetting.update]
    · simp [CacheSetting.Sound, cacheDirectives, *]

def Node.Makes (formats : Formats) (setting : CacheSetting) : Node → Prop
  | .directive name args => Config.Makes formats name args setting
  | .block _ _ _ => False

/-- The directive changes nothing any more in the configuration.  `proxy_cache` asks for
the cache to be on. -/
def Node.Reflected (formats : Formats) (config : CacheConfig) : Node → Prop
  | .directive name args =>
    if name = "proxy_cache" then config.enabled = true
    else applyCacheDirective formats name args (some config) = .ok (some config)
  | .block _ _ _ => False

/-- What the directive makes of the defaults. -/
def Node.alone (formats : Formats) : Node → Except Stop (Option CacheConfig)
  | .directive name args => applyCacheDirective formats name args (some {})
  | .block _ _ _ => .ok none

/-- The last directive of a name behind the last `proxy_cache`. -/
def inEffect (name : String) (children : List Node) : Option Node :=
  (children.reverse.takeWhile (·.name ≠ "proxy_cache")).find? (·.name = name)

variable {node : Node} {children permuted : List Node} {settings : List CacheSetting}

lemma Node.Makes.name_eq (makes : node.Makes formats setting) : setting.name = node.name := by
  cases node with
  | directive name args => exact makes.named
  | block => cases makes

lemma Node.Makes.sound (makes : node.Makes formats setting) : setting.Sound := by
  cases node with
  | directive name args => exact Config.Makes.sound makes
  | block => cases makes

private lemma Node.Makes.reflected_iff (makes : node.Makes formats setting)
    (known : node.name ∈ cacheDirectives) (enabled : config.enabled = true) :
    node.Reflected formats config ↔
      node.name = "proxy_cache" ∨ CacheSetting.apply config setting = config := by
  cases node with
  | block => cases makes
  | directive name args =>
    have updated := CacheSetting.update_eq config makes.sound (makes.name_eq ▸ known)
    by_cases here : name = "proxy_cache"
    · simp [Node.Reflected, Node.name, here, enabled]
    · simp [Node.Reflected, Node.name, here, Config.Makes.applied makes config, updated]

private lemma Node.Makes.alone_eq (makes : node.Makes formats setting)
    (known : node.name ∈ cacheDirectives) :
    node.alone formats = .ok (some (CacheSetting.apply {} setting)) := by
  cases node with
  | block => cases makes
  | directive name args =>
    rw [Node.alone, Config.Makes.applied makes, CacheSetting.update_eq {} makes.sound
      (makes.name_eq ▸ known)]

variable {start : CacheConfig}

/-- The settings are in reverse: the first one is applied last. -/
private lemma apply_foldr_iff (made : List.Forall₂ (Node.Makes formats) settings children)
    (makes : node.Makes formats setting) (known : node.name ∈ cacheDirectives)
    (sets : node.name ≠ "proxy_cache") :
    let final := settings.foldr (fun setting config => CacheSetting.apply config setting) {}
    CacheSetting.apply final setting = final ↔
      node.alone formats = ((children.takeWhile (·.name ≠ "proxy_cache")).find?
        (·.name = node.name)).elim (.ok (some {})) (Node.alone formats) := by
  have alone := makes.alone_eq known
  have named := makes.name_eq
  induction made with
  | nil => simp [alone]
  | @cons last other settings rest lastMakes made ih =>
    rw [foldr_cons]
    by_cases switch : other.name = "proxy_cache"
    · rw [CacheSetting.eq_reset lastMakes.sound (lastMakes.name_eq.trans switch),
        takeWhile_cons_of_neg (by simpa using switch), alone]
      simp [CacheSetting.apply, CacheSetting.update]
    · have lastName := lastMakes.name_eq
      rw [takeWhile_cons_of_pos (by simpa using switch)]
      by_cases same : other.name = node.name
      · rw [find?_cons_of_pos (by simpa using same), Option.elim_some,
          lastMakes.alone_eq (same ▸ known), alone, Except.ok.injEq, Option.some.injEq]
        exact CacheSetting.apply_same (named.trans (same.symm.trans lastName.symm))
          (named ▸ known) lastMakes.sound makes.sound (named ▸ sets) _
      · rw [find?_cons_of_neg (by simpa using same)]
        refine Iff.trans (CacheSetting.apply_other ?_ (named ▸ sets) (lastName ▸ switch) _) ih
        exact fun equal => same (lastName.symm.trans (equal.symm.trans named))

private lemma reflected_iff_inEffect (made : List.Forall₂ (Node.Makes formats) settings children)
    (mem : node ∈ children) (known : node.name ∈ cacheDirectives)
    (enabled : (settings.foldl CacheSetting.apply {}).enabled = true) :
    node.Reflected formats (settings.foldl CacheSetting.apply {}) ↔
      node.name = "proxy_cache" ∨ node.alone formats =
        (inEffect node.name children).elim (.ok (some {})) (Node.alone formats) := by
  obtain ⟨setting, _, makes⟩ := exists_of_mem_right made mem
  rw [makes.reflected_iff known enabled]
  by_cases switch : node.name = "proxy_cache"
  · exact iff_of_true (.inl switch) (.inl switch)
  · rw [or_iff_right switch, or_iff_right switch, ← foldr_reverse]
    exact apply_foldr_iff (forall₂_reverse_iff.mpr made) makes known switch

private lemma foldDirectives_eq_ok {unexpected : String → String} :
    foldDirectives (fun cache name args => do
        let updated ← applyCacheDirective formats name args (some cache)
        pure (updated.getD cache)) unexpected start children = .ok config ↔
      ∃ settings, List.Forall₂ (Node.Makes formats) settings children ∧
        settings.foldl CacheSetting.apply start = config := by
  induction children generalizing start with
  | nil => simp [foldDirectives]
  | cons node rest ih =>
    rw [foldDirectives, foldlM_cons, bind_eq_ok]
    constructor
    · rintro ⟨next, step, folded⟩
      cases node with
      | block => cases step
      | directive name args =>
        obtain ⟨updated, applied, same⟩ := bind_eq_ok.mp step
        obtain ⟨setting, makes⟩ := exists_makes applied
        rw [makes.applied start] at applied
        cases applied
        cases same
        obtain ⟨settings, made, res⟩ := ih.mp folded
        exact ⟨setting :: settings, .cons makes made, res⟩
    · rintro ⟨_, made, res⟩
      cases made with
      | @cons setting _ settings _ makes made =>
        cases node with
        | block => cases makes
        | directive name args =>
          refine ⟨setting.apply start, ?_, ih.mpr ⟨settings, made, res⟩⟩
          exact bind_eq_ok.mpr ⟨_, Config.Makes.applied makes start, rfl⟩

lemma parseProxyCacheBlock_eq_ok : parseProxyCacheBlock formats args children = .ok config ↔
    args = [] ∧ ∃ settings, List.Forall₂ (Node.Makes formats) settings children ∧
      settings.foldl CacheSetting.apply {} = config := by
  rw [parseProxyCacheBlock, bind_eq_ok]
  constructor
  · rintro ⟨_, noArgs, folded⟩
    have empty := rejectIf_eq_ok.mp noArgs
    exact ⟨by simpa using empty, foldDirectives_eq_ok.mp folded⟩
  · rintro ⟨rfl, made⟩
    exact ⟨(), rfl, foldDirectives_eq_ok.mpr made⟩

private lemma names_eq (made : List.Forall₂ (Node.Makes formats) settings children) :
    settings.map CacheSetting.name = children.map Node.name := by
  induction made with
  | nil => rfl
  | cons makes _ ih => rw [map_cons, map_cons, makes.name_eq, ih]

private lemma exists_reordered (made : List.Forall₂ (Node.Makes formats) settings children)
    (perm : children.Perm permuted) : ∃ reordered, settings.Perm reordered ∧
      List.Forall₂ (Node.Makes formats) reordered permuted := by
  have composed : Relation.Comp (List.Forall₂ (Node.Makes formats)) List.Perm settings permuted :=
    ⟨children, made, perm⟩
  rwa [forall₂_comp_perm_eq_perm_comp_forall₂] at composed

private lemma foldl_fixed
    (fixed : ∀ setting ∈ settings, CacheSetting.apply config setting = config) :
    settings.foldl CacheSetting.apply config = config := by
  refine List.foldlRecOn (motive := (· = config)) settings _ rfl fun reached same setting mem => ?_
  rw [same]
  exact fixed setting mem

private lemma foldl_perm {reordered : List CacheSetting} (perm : settings.Perm reordered)
    (nodup : (settings.map CacheSetting.name).Nodup)
    (sets : "proxy_cache" ∉ settings.map CacheSetting.name) (start : CacheConfig) :
    settings.foldl CacheSetting.apply start = reordered.foldl CacheSetting.apply start := by
  refine perm.foldl_eq' (fun first firstIn second secondIn config => ?_) start
  have notReset : ∀ setting ∈ settings, setting.name ≠ "proxy_cache" :=
    fun setting mem named => sets (named ▸ mem_map_of_mem mem)
  by_cases same : first.name = second.name
  · rw [inj_on_of_nodup_map nodup firstIn secondIn same]
  · exact CacheSetting.apply_comm same (notReset first firstIn) (notReset second secondIn) config

private lemma perm_last {α : Type} {item : α} {items : List α} (mem : item ∈ items) :
    ∃ others, (others ++ [item]).Perm items := by
  obtain ⟨before, rest, rfl⟩ := append_of_mem mem
  refine ⟨before ++ rest, ?_⟩
  rw [append_assoc]
  exact perm_append_comm.append_left before

private lemma enabled_foldl (settings : List CacheSetting) (enabled : start.enabled = true) :
    (settings.foldl CacheSetting.apply start).enabled = true := by
  refine List.foldlRecOn (motive := (CacheConfig.enabled · = true)) settings _ enabled
    fun config enabled setting _ => ?_
  cases setting with
  | reset => rfl
  | _ => exact enabled

/-- A block means the same in every order, with nothing passed over, exactly when it holds
cache directives only, no directive is overwritten, and the others of a block with
`proxy_cache` repeat the defaults. -/
theorem cache_block_order_free_iff
    (accepted : parseProxyCacheBlock formats args children = .ok config) :
    (((children.map Node.name).Nodup → ∀ permuted, permuted.Perm children →
        parseProxyCacheBlock formats args permuted = .ok config) ∧
      (∀ node ∈ children, node.Reflected formats config) ∧
      ∀ node ∈ children, node.name ∈ cacheDirectives) ↔
    ((children.map Node.name).Nodup → "proxy_cache" ∈ children.map Node.name →
        ∀ node ∈ children, node.Reflected formats {}) ∧
      (∀ node ∈ children, node.name = "proxy_cache" ∨ node.alone formats =
        (inEffect node.name children).elim (.ok (some {})) (Node.alone formats)) ∧
      ∀ node ∈ children, node.name ∈ cacheDirectives := by
  rcases parseProxyCacheBlock_eq_ok.mp accepted with ⟨rfl, settings, made, rfl⟩
  have names := names_eq made
  have enabled : (settings.foldl CacheSetting.apply {}).enabled = true := enabled_foldl settings rfl
  have each (node : Node) (member : node ∈ children) (known : node.name ∈ cacheDirectives) :=
    reflected_iff_inEffect made member known enabled
  constructor
  · rintro ⟨free, reflected, known⟩
    refine ⟨fun distinct switched => ?_, fun node member =>
      (each node member (known node member)).mp (reflected node member), known⟩
    rw [← names] at switched
    rcases mem_map.mp switched with ⟨setting, member, named⟩
    -- moved to the end, the switch leaves the defaults
    rcases perm_last member with ⟨others, perm⟩
    rcases perm_comp_forall₂ perm made with ⟨permuted, madeSo, nodes⟩
    rcases exists_of_mem_left made member with ⟨node, _, makes⟩
    have last := parseProxyCacheBlock_eq_ok.mpr ⟨rfl, _, madeSo, rfl⟩
    rw [free distinct permuted nodes, CacheSetting.eq_reset makes.sound named,
      foldl_append] at last
    have default : settings.foldl CacheSetting.apply {} = {} := Except.ok.inj last
    rwa [← default]
  · rintro ⟨defaults, kept, known⟩
    refine ⟨fun distinct permuted perm => ?_, fun node member =>
      (each node member (known node member)).mpr (kept node member), known⟩
    rcases exists_reordered made perm.symm with ⟨reordered, sameSettings, madeSo⟩
    refine parseProxyCacheBlock_eq_ok.mpr ⟨rfl, reordered, madeSo, ?_⟩
    by_cases switched : "proxy_cache" ∈ children.map Node.name
    · have fixed : ∀ setting ∈ settings, CacheSetting.apply {} setting = {} := by
        intro setting member
        rcases exists_of_mem_left made member with ⟨node, nodeIn, makes⟩
        rcases (makes.reflected_iff (known node nodeIn) rfl).mp
          (defaults distinct switched node nodeIn) with named | same
        · rw [CacheSetting.eq_reset makes.sound (makes.name_eq.trans named)]
          rfl
        · exact same
      rw [foldl_fixed fixed]
      exact foldl_fixed fun setting member => fixed setting (sameSettings.mem_iff.mpr member)
    · rw [← names] at distinct switched
      exact (foldl_perm sameSettings distinct switched {}).symm

def ttlNode : Node := .directive "proxy_cache_ttl" ["5s"]

theorem ttl_and_key_in_any_order :
    ([ttlNode, .directive "proxy_cache_key" ["uri_and_method"]].map Node.name).Nodup ∧
    ∀ formats permuted,
      permuted.Perm [ttlNode, .directive "proxy_cache_key" ["uri_and_method"]] →
      parseProxyCacheBlock formats [] permuted =
          .ok { ttl := some (Duration.fromSecs 5), cacheKey := .uriAndMethod } ∧
        ttlNode.Reflected formats
          { ttl := some (Duration.fromSecs 5), cacheKey := .uriAndMethod } := by
  refine ⟨by decide, fun formats permuted perm => ?_⟩
  have accepted : parseProxyCacheBlock formats []
      [ttlNode, .directive "proxy_cache_key" ["uri_and_method"]] =
        .ok { ttl := some (Duration.fromSecs 5), cacheKey := .uriAndMethod } := rfl
  have free := (cache_block_order_free_iff accepted).mpr ⟨fun _ switched => ?_, ?_, ?_⟩
  · exact ⟨free.1 (by decide) permuted perm, free.2.1 ttlNode mem_cons_self⟩
  · simp [ttlNode, Node.name] at switched
  · rw [forall_mem_cons, forall_mem_singleton]
    exact ⟨.inr rfl, .inr rfl⟩
  · simp [ttlNode, Node.name, cacheDirectives]

/-- `proxy_cache on` takes back what stands before it, and a directive of another kind is
passed over. -/
theorem cache_block_forgets :
    "expires" ∉ cacheDirectives ∧ ∀ formats,
      parseProxyCacheBlock formats [] [.directive "proxy_cache" ["on"], ttlNode] =
        .ok { ttl := some (Duration.fromSecs 5) } ∧
      parseProxyCacheBlock formats [] [ttlNode, .directive "proxy_cache" ["on"]] = .ok {} ∧
      parseProxyCacheBlock formats [] [.directive "expires" ["5s"]] = .ok {} :=
  ⟨by decide, fun _ => ⟨rfl, rfl, rfl⟩⟩

end Ngxora.Config
