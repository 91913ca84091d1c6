/-
The cache settings of a location on the wire.
-/

import Ngxora.Config.CacheBlocks
import Ngxora.Grpc.Decode
import Ngxora.Grpc.Encode
import Ngxora.Reference

namespace Ngxora.Grpc

open Machine Config Option

open Config (CacheSetting)
open Proto (WireEnum tryFrom_code)
open Results

/-- A setting that is left out is a zero on the wire, so that zeros of the text do not survive. -/
structure LoweredCache (config : CacheConfig) : Prop where
  ttl : ∃ value, config.ttl = some value ∧ value.WholeMillis
  staleIfError : ∀ value ∈ config.staleIfError, value.WholeMillis
  minUses : config.minUses ≠ some 0
  validStatuses : config.validStatuses ≠ []

lemma loweredCache_default (enabled : Bool) : LoweredCache { enabled } where
  ttl := ⟨_, rfl, by decide⟩
  staleIfError := fun _ absent => nomatch absent
  minUses := nofun
  validStatuses := nofun

variable {config : CacheConfig}

lemma LoweredCache.apply (lowered : LoweredCache config) {setting : CacheSetting}
    (sound : setting.Sound) : LoweredCache (CacheSetting.apply config setting) := by
  cases setting with
  | reset => exact loweredCache_default true
  | ttl value => exact { lowered with ttl := ⟨value, rfl, sound⟩ }
  | staleIfError value =>
    refine { lowered with staleIfError := fun other here => ?_ }
    cases here
    exact sound
  | minUses uses => exact { lowered with minUses := fun zero => sound (Option.some.inj zero) }
  | validStatuses statuses => exact { lowered with validStatuses := sound }
  | cacheKey | maxSize | ignored => exact { lowered with }

variable {formats : Formats} {args : List String}

lemma loweredCache_block {children : List Node}
    (parsed : parseProxyCacheBlock formats args children = .ok config) :
    LoweredCache config := by
  obtain ⟨_, settings, made, rfl⟩ := parseProxyCacheBlock_eq_ok.mp parsed
  have sound : ∀ setting ∈ settings, setting.Sound := by
    intro setting mem
    obtain ⟨node, _, makes⟩ := exists_of_mem_left made mem
    exact makes.sound
  apply List.foldlRecOn settings CacheSetting.apply (loweredCache_default true)
  exact fun state lowered setting mem => lowered.apply (sound setting mem)

lemma loweredCache_directive {name : String}
    (applied : applyCacheDirective formats name args none = .ok (some config)) :
    LoweredCache config := by
  unfold applyCacheDirective at applied
  split at applied
  · unfold cacheSwitch at applied
    split at applied
    · split at applied
      · cases applied
        exact loweredCache_default false
      · split at applied
        · cases applied
          exact loweredCache_default true
        · cases applied
    · cases applied
      exact loweredCache_default true
    · cases applied
  · split_ifs at applied <;> simp [bind_eq_ok] at applied

lemma loweredCache_contents {platform : Platform} {nodes : List Node}
    {contents : LocationContents}
    (parsed : parseLocationContents platform formats nodes = .ok contents) :
    ∀ config ∈ contents.cache, LoweredCache config := by
  refine foldlM_invariant (fun contents : LocationContents =>
    ∀ config ∈ contents.cache, LoweredCache config) (fun config absent => by cases absent) ?_ parsed
  intro contents node next _ lowered step
  cases node with
  | directive name args =>
    obtain ⟨updated, applied, step⟩ := bind_eq_ok.mp step
    cases updated with
    | some field =>
      obtain ⟨_, first, same⟩ := bind_eq_ok.mp step
      cases same
      have absent := isSome_eq_false_iff.mp (rejectIf_eq_ok.mp first)
      rw [isNone_iff_eq_none.mp absent] at applied
      intro config here
      cases here
      exact loweredCache_directive applied
    | none =>
      obtain ⟨rule, _, step⟩ := bind_eq_ok.mp step
      cases rule with
      | some rule =>
        cases step
        exact lowered
      | none =>
        obtain ⟨_, _, same⟩ := bind_eq_ok.mp step
        cases same
        exact lowered
  | block name args children =>
    simp only [locationNode] at step
    split at step
    · obtain ⟨_, _, cache, parsed, same⟩ := bind₂_eq_ok.mp step
      cases same
      intro config here
      cases here
      exact loweredCache_block parsed
    · obtain ⟨_, _, same⟩ := bind_eq_ok.mp step
      cases same
      exact lowered

lemma minUses_roundTrip {uses : Option UInt64} (pos : uses ≠ some 0) :
    (noneIfZero ((uses.bind narrowU32).getD 0)).map UInt32.toUInt64 = uses ↔
      ∀ count ∈ uses, count.toNat < 2 ^ 32 := by
  cases uses with
  | none => simp [noneIfZero]
  | some count =>
    by_cases small : count.toNat < 2 ^ 32
    · have back : count.toUInt32.toUInt64 = count := by
        have same := (widen_saturateU32 count).mpr small
        rwa [saturateU32, narrowU32, if_pos small] at same
      have here : some count.toUInt32 ≠ some 0 := by
        intro zero
        rw [Option.some.inj zero] at back
        exact pos (congrArg some back.symm)
      have kept := noneIfZero_getD.mpr here
      rw [bind_some, narrowU32, if_pos small, kept, map_some, back]
      simpa using small
    · rw [bind_some, narrowU32, if_neg small]
      exact iff_of_false (by simp [noneIfZero]) fun bound => small (bound count rfl)

lemma routeCacheFromProto_encode (here : config.validStatuses ≠ []) :
    routeCacheFromProto (protoRouteCacheFromRuntime config) = .ok
        { config with
          maxSize := noneIfZeroU64 (config.maxSize.getD 0)
          ttl := (durationFromMillis (durationToMillis config.ttl)).or (some (Duration.fromSecs 60))
          staleIfError := durationFromMillis (durationToMillis config.staleIfError)
          minUses := (noneIfZero ((config.minUses.bind narrowU32).getD 0)).map
            UInt32.toUInt64 } := by
  have ne : (config.validStatuses.map UInt16.toUInt32).isEmpty = false := by simpa using here
  refine bind_eq_ok.mpr ⟨protoSwitchFromRuntime (if config.enabled then .on else .off), ?_,
    bind_eq_ok.mpr ⟨config.cacheKey, ?_, bind_eq_ok.mpr ⟨config.validStatuses, ?_, ?_⟩⟩⟩
  · rw [protoRouteCacheFromRuntime, tryFrom_code]
    rfl
  · rw [protoRouteCacheFromRuntime]
    cases config.cacheKey <;> rfl
  · rw [protoRouteCacheFromRuntime, if_neg (Bool.eq_false_iff.mp ne), mapM_eq_ok,
      List.forall₂_map_left_iff, List.forall₂_same]
    intro status _
    rw [narrowU16_widen]
    rfl
  · cases config with
    | mk enabled => cases enabled <;> rfl

lemma ttl_roundTrip {ttl : Duration} (whole : ttl.WholeMillis) :
    (durationFromMillis (durationToMillis (some ttl))).or (some (Duration.fromSecs 60)) =
      some ttl ↔ ttl.isZero = false := by
  cases zero : ttl.isZero with
  | true =>
    have none : Duration.fromMillis 0 = ttl := by
      apply Duration.eq_of_nanos
      exact (beq_iff_eq.mp zero).symm
    rw [← none]
    decide
  | false =>
    have kept := durationFromMillis_durationToMillis.mpr
      (fun value (here : value ∈ some ttl) => by cases here; exact ⟨whole, zero⟩)
    simp [kept]

/-- The settings survive exactly when none of the times and sizes is zero and the number of
uses has 32 bits. -/
theorem lowered_cache_reimported_iff {platform : Platform} {formats : Formats}
    {args : List String} {children : List Node} {location : Location}
    (lowered : lowerLocation platform formats args children = .ok location)
    (cached : location.cache = some config) :
    routeCacheFromProto (protoRouteCacheFromRuntime config) = .ok config ↔
      (∀ value ∈ config.ttl, value.isZero = false) ∧
        (∀ value ∈ config.staleIfError, value.isZero = false) ∧
        config.maxSize ≠ some 0 ∧ ∀ uses ∈ config.minUses, uses.toNat < 2 ^ 32 := by
  rcases bind₂_eq_ok.mp lowered with ⟨_, _, contents, parsed, same⟩
  cases same
  have facts := loweredCache_contents parsed config cached
  rcases facts.ttl with ⟨ttl, given, whole⟩
  rw [routeCacheFromProto_encode facts.validStatuses, ← minUses_roundTrip facts.minUses,
    ← noneIfZeroU64_getD]
  cases config
  cases given
  simp only [Except.ok.injEq, CacheConfig.mk.injEq, true_and, and_true, ttl_roundTrip whole,
    durationFromMillis_durationToMillis]
  constructor
  · rintro ⟨size, positive, stale, uses⟩
    refine ⟨?_, fun value present => (stale value present).2, size, uses⟩
    rintro value ⟨⟩
    exact positive
  · rintro ⟨positive, stale, size, uses⟩
    exact ⟨size, positive ttl rfl,
      fun value present => ⟨facts.staleIfError value present, stale value present⟩, uses⟩

def cachedFor (time : String) : List Node :=
  [.block "proxy_cache" [] [.directive "proxy_cache_ttl" [time]]]

theorem five_seconds_survive :
    ∃ location config,
      lowerLocation Reference.platform ⟨fun _ => true, id⟩ ["/"] (cachedFor "5s") =
        .ok location ∧
      location.cache = some config ∧
      routeCacheFromProto (protoRouteCacheFromRuntime config) = .ok config := by
  have lowers : ∃ location,
      lowerLocation Reference.platform ⟨fun _ => true, id⟩ ["/"] (cachedFor "5s") =
        .ok location ∧
      location.cache = some { ttl := some (Duration.fromSecs 5) } := ⟨_, rfl, rfl⟩
  rcases lowers with ⟨location, lowered, cached⟩
  refine ⟨location, _, lowered, cached, (lowered_cache_reimported_iff lowered cached).mpr ?_⟩
  refine ⟨?_, nofun, nofun, nofun⟩
  rintro value ⟨⟩
  decide

/-- A time of zero comes back as a minute. -/
theorem zero_ttl_becomes_a_minute :
    ∃ location config,
      lowerLocation Reference.platform ⟨fun _ => true, id⟩ ["/"] (cachedFor "0") =
        .ok location ∧
      location.cache = some config ∧ config.ttl = some (Duration.fromSecs 0) ∧
      routeCacheFromProto (protoRouteCacheFromRuntime config) =
        .ok { config with ttl := some (Duration.fromSecs 60) } :=
  ⟨_, { ttl := some (Duration.fromSecs 0) }, rfl, rfl, rfl, rfl⟩

end Ngxora.Grpc
